import ChromiumHmos.Lib.AffineSpan
import ChromiumHmos.Overlay.Presenter

set_option autoImplicit false

/-!
# Video clip geometry

The rectangles are taken over exact rationals: every value is finite, and a conversion to `float`
changes nothing.
-/

namespace ChromiumHmos.Overlay

open Lib

structure ClippedBoxes where
  destination : Box
  source : Box
deriving DecidableEq

namespace Box

def horizontal (r : Box) : Span ℚ := ⟨r.x, r.width⟩

def vertical (r : Box) : Span ℚ := ⟨r.y, r.height⟩

def Inside (inner outer : Box) : Prop :=
  inner.horizontal.Inside outer.horizontal ∧ inner.vertical.Inside outer.vertical

def Holds (r : Box) (x y : ℚ) : Prop := r.horizontal.Holds x ∧ r.vertical.Holds y

/-- Where the point of the source is shown in the destination. -/
def shownAt (source destination : Box) (x y : ℚ) : ℚ × ℚ :=
  (source.horizontal.transport destination.horizontal x,
    source.vertical.transport destination.vertical y)

end Box

def finiteOverlayRect (r : Box) : Bool :=
  r.width > 0 && r.height > 0 && |r.x| ≤ 16384 && |r.y| ≤ 16384 && r.width ≤ 16384 &&
    r.height ≤ 16384

def rgbVideoChildGeometry (destination source : Box) (bufferWidth bufferHeight : ℚ) :
    Option Box :=
  let allocation : Box := ⟨0, 0, bufferWidth, bufferHeight⟩
  if !finiteOverlayRect destination || !finiteOverlayRect source ||
      !finiteOverlayRect allocation || source.x < 0 || source.y < 0 ||
      source.x + source.width > bufferWidth || source.y + source.height > bufferHeight then none
  else
    let scaleX := destination.width / source.width
    let scaleY := destination.height / source.height
    let child : Box :=
      ⟨-source.x * scaleX, -source.y * scaleY, bufferWidth * scaleX, bufferHeight * scaleY⟩
    if !finiteOverlayRect child then none else some child

-- The edges of the two areas, and of the clip where there is one.
def clippedStart (primary destination : ℚ) (clip : Option ℚ) : ℚ :=
  match clip with
  | some clip => max (max primary destination) clip
  | none => max primary destination

def clippedStop (primary destination : ℚ) (clip : Option ℚ) : ℚ :=
  match clip with
  | some clip => min (min primary destination) clip
  | none => min primary destination

def clipVideoGeometry (primary destination source : Box)
    (clip : Option Box) : Option ClippedBoxes :=
  if !finiteOverlayRect primary || !finiteOverlayRect destination || !finiteOverlayRect source ||
      clip.any (fun clip => !finiteOverlayRect clip) || primary.x < 0 || primary.y < 0 ||
      source.x < 0 || source.y < 0 || primary.x + primary.width > 16384 ||
      primary.y + primary.height > 16384 || source.x + source.width > 16384 ||
      source.y + source.height > 16384 then none
  else
    let left := clippedStart primary.x destination.x (clip.map (·.x))
    let top := clippedStart primary.y destination.y (clip.map (·.y))
    let right := clippedStop (primary.x + primary.width) (destination.x + destination.width)
      (clip.map fun clip => clip.x + clip.width)
    let bottom := clippedStop (primary.y + primary.height) (destination.y + destination.height)
      (clip.map fun clip => clip.y + clip.height)
    if left ≥ right || top ≥ bottom then none
    else
      let scaleX := source.width / destination.width
      let scaleY := source.height / destination.height
      let x := source.x + (left - destination.x) * scaleX
      let y := source.y + (top - destination.y) * scaleY
      let result : ClippedBoxes :=
        { destination := ⟨left, top, right - left, bottom - top⟩
          source :=
            { x := x
              y := y
              width := min ((right - left) * scaleX) (source.x + source.width - x)
              height := min ((bottom - top) * scaleY) (source.y + source.height - y) } }
      if !finiteOverlayRect result.destination || !finiteOverlayRect result.source then none
      else some result

theorem clippedStart_above (primary destination : ℚ) (clip : Option ℚ) :
    primary <= clippedStart primary destination clip /\
      destination <= clippedStart primary destination clip /\
      ∀ start ∈ clip, start <= clippedStart primary destination clip := by
  cases clip with
  | none => simp [clippedStart]
  | some start => simp [clippedStart]

theorem clippedStop_below (primary destination : ℚ) (clip : Option ℚ) :
    clippedStop primary destination clip <= primary /\
      clippedStop primary destination clip <= destination /\
      ∀ stop ∈ clip, clippedStop primary destination clip <= stop := by
  cases clip with
  | none => simp [clippedStop]
  | some stop => simp [clippedStop]

theorem clippedStart_le (primary destination point : ℚ) (clip : Option ℚ) (first : primary <= point)
    (second : destination <= point) (third : ∀ start ∈ clip, start <= point) :
    clippedStart primary destination clip <= point := by
  cases clip with
  | none => exact max_le first second
  | some start => exact max_le (max_le first second) (third start rfl)

theorem lt_clippedStop (primary destination point : ℚ) (clip : Option ℚ) (first : point < primary)
    (second : point < destination) (third : ∀ stop ∈ clip, point < stop) :
    point < clippedStop primary destination clip := by
  cases clip with
  | none => exact lt_min first second
  | some stop => exact lt_min (lt_min first second) (third stop rfl)

structure FiniteRect (r : Box) : Prop where
  width : 0 < r.width
  height : 0 < r.height

theorem finiteOverlayRect_sizes (r : Box) (finite : finiteOverlayRect r = true) : FiniteRect r := by
  simp only [finiteOverlayRect, Bool.and_eq_true, decide_eq_true_eq] at finite
  exact ⟨finite.1.1.1.1.1, finite.1.1.1.1.2⟩

/-- What `ClipVideoGeometry` requires of its rectangles. -/
structure ClipAdmits (primary destination source : Box)
    (clip : Option Box) : Prop where
  finitePrimary : finiteOverlayRect primary = true
  finiteDestination : finiteOverlayRect destination = true
  finiteSource : finiteOverlayRect source = true
  finiteClip : ∀ area ∈ clip, finiteOverlayRect area = true
  primaryStart : 0 ≤ primary.x ∧ 0 ≤ primary.y
  sourceStart : 0 ≤ source.x ∧ 0 ≤ source.y
  primaryStop : primary.x + primary.width ≤ 16384 ∧ primary.y + primary.height ≤ 16384
  sourceStop : source.x + source.width ≤ 16384 ∧ source.y + source.height ≤ 16384

structure ClippedAxis (primary destination source : Span ℚ) (clip : Option (Span ℚ))
    (shown part : Span ℚ) : Prop where
  inPrimary : shown.Inside primary
  inDestination : shown.Inside destination
  inClip : ∀ area ∈ clip, shown.Inside area
  inSource : part.Inside source
  shownLength : 0 < shown.length
  partLength : 0 < part.length
  mapping (point : ℚ) : part.transport shown point = source.transport destination point

theorem clippedAxis (primary destination source : Span ℚ) (clip : Option (Span ℚ))
    (left right : ℚ) (sized : 0 < source.length) (placed : 0 < destination.length)
    (from_start : left = clippedStart primary.start destination.start (clip.map (·.start)))
    (to_stop : right = clippedStop primary.stop destination.stop (clip.map (·.stop)))
    (kept : left < right) :
    ClippedAxis primary destination source clip ⟨left, right - left⟩
      (source.pullback destination left right) := by
  obtain ⟨startPrimary, startDestination, startClip⟩ :=
    clippedStart_above primary.start destination.start (clip.map (·.start))
  obtain ⟨stopPrimary, stopDestination, stopClip⟩ :=
    clippedStop_below primary.stop destination.stop (clip.map (·.stop))
  rw [<- from_start] at startPrimary startDestination startClip
  rw [<- to_stop] at stopPrimary stopDestination stopClip
  have stop : (⟨left, right - left⟩ : Span ℚ).stop = right := by simp [Span.stop]
  refine
    { inPrimary := ⟨startPrimary, stop.le.trans stopPrimary⟩
      inDestination := ⟨startDestination, stop.le.trans stopDestination⟩
      inClip := ?_
      inSource := Span.pullback_inside _ _ _ _ sized placed startDestination stopDestination
      shownLength := sub_pos.mpr kept
      partLength := Span.pullback_length_pos _ _ _ _ sized placed kept
      mapping := fun point => Span.transport_pullback _ _ _ _ _ sized.ne' placed.ne'
        (sub_pos.mpr kept).ne' }
  intro area member
  exact ⟨startClip _ (Option.mem_map_of_mem _ member),
    stop.le.trans (stopClip _ (Option.mem_map_of_mem _ member))⟩

theorem pullback_min (source destination : Span ℚ) (left right : ℚ)
    (inside : (source.pullback destination left right).Inside source) :
    min ((right - left) * (source.length / destination.length))
        (source.start + source.length -
          (source.start + (left - destination.start) * (source.length / destination.length))) =
      (right - left) * (source.length / destination.length) := by
  refine min_eq_left ?_
  have stop := inside.2
  simp only [Span.pullback, Span.stop] at stop
  linarith

def visibleLeft (primary destination : Box) (clip : Option Box) : ℚ :=
  clippedStart primary.x destination.x (clip.map (·.x))

def visibleRight (primary destination : Box) (clip : Option Box) : ℚ :=
  clippedStop (primary.x + primary.width) (destination.x + destination.width)
    (clip.map fun clip => clip.x + clip.width)

def visibleTop (primary destination : Box) (clip : Option Box) : ℚ :=
  clippedStart primary.y destination.y (clip.map (·.y))

def visibleBottom (primary destination : Box) (clip : Option Box) : ℚ :=
  clippedStop (primary.y + primary.height) (destination.y + destination.height)
    (clip.map fun clip => clip.y + clip.height)

structure ClippedVideo (primary destination source : Box)
    (clip : Option Box) (result : ClippedBoxes) : Prop where
  horizontal : ClippedAxis primary.horizontal destination.horizontal source.horizontal
    (clip.map (·.horizontal)) result.destination.horizontal result.source.horizontal
  vertical : ClippedAxis primary.vertical destination.vertical source.vertical
    (clip.map (·.vertical)) result.destination.vertical result.source.vertical

theorem clippedVideo (primary destination source : Box) (clip : Option Box) (result : ClippedBoxes)
    (finiteDestination : finiteOverlayRect destination = true)
    (finiteSource : finiteOverlayRect source = true)
    (wide : visibleLeft primary destination clip < visibleRight primary destination clip)
    (high : visibleTop primary destination clip < visibleBottom primary destination clip)
    (shown : result.destination = ⟨visibleLeft primary destination clip,
      visibleTop primary destination clip,
      visibleRight primary destination clip - visibleLeft primary destination clip,
      visibleBottom primary destination clip - visibleTop primary destination clip⟩)
    (part : result.source =
      let x := source.x + (visibleLeft primary destination clip - destination.x) *
        (source.width / destination.width)
      let y := source.y + (visibleTop primary destination clip - destination.y) *
        (source.height / destination.height)
      { x := x
        y := y
        width := min ((visibleRight primary destination clip - visibleLeft primary destination clip) *
          (source.width / destination.width)) (source.x + source.width - x)
        height := min ((visibleBottom primary destination clip - visibleTop primary destination clip) *
          (source.height / destination.height)) (source.y + source.height - y) }) :
    ClippedVideo primary destination source clip result := by
  have sizes := finiteOverlayRect_sizes source finiteSource
  have areas := finiteOverlayRect_sizes destination finiteDestination
  have horizontal := clippedAxis primary.horizontal destination.horizontal source.horizontal
    (clip.map (·.horizontal)) _ _ sizes.width areas.width
    (show visibleLeft primary destination clip = _ by cases clip <;> rfl)
    (show visibleRight primary destination clip = _ by cases clip <;> rfl) wide
  have vertical := clippedAxis primary.vertical destination.vertical source.vertical
    (clip.map (·.vertical)) _ _ sizes.height areas.height
    (show visibleTop primary destination clip = _ by cases clip <;> rfl)
    (show visibleBottom primary destination clip = _ by cases clip <;> rfl) high
  have width := pullback_min _ _ _ _ horizontal.inSource
  have height := pullback_min _ _ _ _ vertical.inSource
  simp only [Box.horizontal, Box.vertical] at width height
  constructor
  · have partX : result.source.horizontal = source.horizontal.pullback destination.horizontal
        (visibleLeft primary destination clip) (visibleRight primary destination clip) := by
      simp only [part, Box.horizontal, Span.pullback, width]
    rw [partX, shown]
    exact horizontal
  · have partY : result.source.vertical = source.vertical.pullback destination.vertical
        (visibleTop primary destination clip) (visibleBottom primary destination clip) := by
      simp only [part, Box.vertical, Span.pullback, height]
    rw [partY, shown]
    exact vertical

section Clip

variable (primary destination source : Box) (clip : Option Box)

def clippedBoxes : ClippedBoxes :=
  let left := visibleLeft primary destination clip
  let top := visibleTop primary destination clip
  let right := visibleRight primary destination clip
  let bottom := visibleBottom primary destination clip
  let x := source.x + (left - destination.x) * (source.width / destination.width)
  let y := source.y + (top - destination.y) * (source.height / destination.height)
  { destination := ⟨left, top, right - left, bottom - top⟩
    source :=
      { x := x
        y := y
        width := min ((right - left) * (source.width / destination.width))
          (source.x + source.width - x)
        height := min ((bottom - top) * (source.height / destination.height))
          (source.y + source.height - y) } }

theorem clipVideoGeometry_some (result : ClippedBoxes)
    (succeeded : clipVideoGeometry primary destination source clip = some result) :
    ClipAdmits primary destination source clip /\
      visibleLeft primary destination clip < visibleRight primary destination clip /\
      visibleTop primary destination clip < visibleBottom primary destination clip /\
      result = clippedBoxes primary destination source clip := by
  unfold clipVideoGeometry at succeeded
  split at succeeded
  next => cases succeeded
  next admitted =>
    dsimp only at succeeded
    split at succeeded
    next => cases succeeded
    next visible =>
      split at succeeded
      next => cases succeeded
      next =>
        simp only [Bool.or_eq_true, Bool.not_eq_true', decide_eq_true_eq, not_or, Bool.not_eq_false,
          not_lt, not_le, ge_iff_le, gt_iff_lt, Option.any_eq_true, not_exists, not_and] at admitted visible
        obtain ⟨⟨⟨⟨⟨⟨⟨⟨⟨⟨⟨first, second⟩, third⟩, area⟩, px⟩, py⟩, sx⟩, sy⟩, pr⟩, pb⟩, sr⟩, sb⟩ :=
          admitted
        exact ⟨⟨first, second, third, fun rect member => area rect member, ⟨px, py⟩, ⟨sx, sy⟩,
          ⟨pr, pb⟩, ⟨sr, sb⟩⟩, visible.1, visible.2, (Option.some.inj succeeded).symm⟩

theorem clippedBoxes_clips (admits : ClipAdmits primary destination source clip)
    (wide : visibleLeft primary destination clip < visibleRight primary destination clip)
    (high : visibleTop primary destination clip < visibleBottom primary destination clip) :
    ClippedVideo primary destination source clip
      (clippedBoxes primary destination source clip) :=
  clippedVideo primary destination source clip _ admits.finiteDestination admits.finiteSource wide
    high rfl rfl

theorem finiteOverlayRect_of_inside (r area : Box) (width : 0 < r.width)
    (height : 0 < r.height) (inside : r.Inside area) (start : 0 <= area.x /\ 0 <= area.y)
    (stop : area.x + area.width <= 16384 /\ area.y + area.height <= 16384) :
    finiteOverlayRect r = true := by
  obtain ⟨⟨left, right⟩, top, bottom⟩ := inside
  simp only [Box.horizontal, Box.vertical, Span.stop] at left right top bottom
  obtain ⟨startX, startY⟩ := start
  obtain ⟨stopX, stopY⟩ := stop
  have x : |r.x| <= 16384 := abs_le.mpr ⟨by linarith, by linarith⟩
  have y : |r.y| <= 16384 := abs_le.mpr ⟨by linarith, by linarith⟩
  have wide : r.width <= 16384 := by linarith
  have high : r.height <= 16384 := by linarith
  simp [finiteOverlayRect, width, height, x, y, wide, high]

theorem clipVideoGeometry_shows (admits : ClipAdmits primary destination source clip)
    (wide : visibleLeft primary destination clip < visibleRight primary destination clip)
    (high : visibleTop primary destination clip < visibleBottom primary destination clip) :
    clipVideoGeometry primary destination source clip =
      some (clippedBoxes primary destination source clip) := by
  have clips := clippedBoxes_clips primary destination source clip admits wide high
  have finiteDestination := finiteOverlayRect_of_inside _ primary clips.horizontal.shownLength
    clips.vertical.shownLength ⟨clips.horizontal.inPrimary, clips.vertical.inPrimary⟩
    admits.primaryStart admits.primaryStop
  have finiteSource := finiteOverlayRect_of_inside _ source clips.horizontal.partLength
    clips.vertical.partLength ⟨clips.horizontal.inSource, clips.vertical.inSource⟩
    admits.sourceStart admits.sourceStop
  have area : clip.any (fun clip => !finiteOverlayRect clip) = false := by
    rw [Option.any_eq_false]
    intro rect member
    simp [admits.finiteClip rect member]
  unfold clipVideoGeometry
  rw [if_neg (by
    simp [admits.finitePrimary, admits.finiteDestination, admits.finiteSource, area,
      admits.primaryStart.1, admits.primaryStart.2, admits.sourceStart.1, admits.sourceStart.2,
      admits.primaryStop.1, admits.primaryStop.2, admits.sourceStop.1, admits.sourceStop.2])]
  dsimp only
  rw [if_neg (by simpa [visibleLeft, visibleRight, visibleTop, visibleBottom] using ⟨wide, high⟩)]
  refine if_neg fun refused => ?_
  rcases (Bool.or_eq_true _ _).mp refused with bad | bad
  · exact Bool.noConfusion (finiteDestination.symm.trans ((Bool.not_eq_true' _).mp bad))
  · exact Bool.noConfusion (finiteSource.symm.trans ((Bool.not_eq_true' _).mp bad))

def NothingVisible : Prop :=
  ∀ x y, ¬(primary.Holds x y ∧ destination.Holds x y ∧ ∀ area ∈ clip, area.Holds x y)

theorem visible_of_nonempty
    (wide : visibleLeft primary destination clip < visibleRight primary destination clip)
    (high : visibleTop primary destination clip < visibleBottom primary destination clip) :
    ¬NothingVisible primary destination clip := by
  intro nothing
  obtain ⟨leftPrimary, leftDestination, leftClip⟩ :=
    clippedStart_above primary.x destination.x (clip.map (·.x))
  obtain ⟨topPrimary, topDestination, topClip⟩ :=
    clippedStart_above primary.y destination.y (clip.map (·.y))
  obtain ⟨rightPrimary, rightDestination, rightClip⟩ := clippedStop_below
    (primary.x + primary.width) (destination.x + destination.width)
    (clip.map fun clip => clip.x + clip.width)
  obtain ⟨bottomPrimary, bottomDestination, bottomClip⟩ := clippedStop_below
    (primary.y + primary.height) (destination.y + destination.height)
    (clip.map fun clip => clip.y + clip.height)
  refine nothing (visibleLeft primary destination clip) (visibleTop primary destination clip)
    ⟨⟨⟨leftPrimary, wide.trans_le rightPrimary⟩, topPrimary, high.trans_le bottomPrimary⟩,
      ⟨⟨leftDestination, wide.trans_le rightDestination⟩, topDestination,
        high.trans_le bottomDestination⟩, fun area member => ?_⟩
  exact ⟨⟨leftClip _ (Option.mem_map_of_mem _ member),
      wide.trans_le (rightClip _ (Option.mem_map_of_mem (fun clip => clip.x + clip.width) member))⟩,
    topClip _ (Option.mem_map_of_mem _ member),
    high.trans_le (bottomClip _ (Option.mem_map_of_mem (fun clip => clip.y + clip.height) member))⟩

theorem rgbVideoChildGeometry_some (bufferWidth bufferHeight : ℚ) (child : Box)
    (succeeded : rgbVideoChildGeometry destination source bufferWidth bufferHeight = some child) :
    0 < bufferWidth /\ 0 < bufferHeight /\ FiniteRect source /\
      child = ⟨-source.x * (destination.width / source.width),
        -source.y * (destination.height / source.height),
        bufferWidth * (destination.width / source.width),
        bufferHeight * (destination.height / source.height)⟩ := by
  unfold rgbVideoChildGeometry at succeeded
  dsimp only at succeeded
  split at succeeded
  next => cases succeeded
  next admitted =>
    split at succeeded
    next => cases succeeded
    next =>
      simp only [Bool.or_eq_true, Bool.not_eq_true', decide_eq_true_eq, not_or,
        Bool.not_eq_false] at admitted
      obtain ⟨⟨⟨⟨⟨⟨-, finiteSource⟩, allocation⟩, -⟩, -⟩, -⟩, -⟩ := admitted
      have buffer := finiteOverlayRect_sizes _ allocation
      exact ⟨buffer.width, buffer.height, finiteOverlayRect_sizes source finiteSource,
        (Option.some.inj succeeded).symm⟩

/-- The child below its clipping parent, in the coordinates of the parent's own parent. -/
def placedChild (destination child : Box) : Box :=
  ⟨destination.x + child.x, destination.y + child.y, child.width, child.height⟩

theorem rgbVideoChildGeometry_mapping (bufferWidth bufferHeight : ℚ) (child : Box)
    (succeeded : rgbVideoChildGeometry destination source bufferWidth bufferHeight = some child)
    (x y : ℚ) : Box.shownAt ⟨0, 0, bufferWidth, bufferHeight⟩
      (placedChild destination child) x y = source.shownAt destination x y := by
  obtain ⟨wide, high, sizes, rfl⟩ :=
    rgbVideoChildGeometry_some destination source bufferWidth bufferHeight child succeeded
  exact Prod.ext
    (Span.transport_wholeTarget source.horizontal destination.horizontal bufferWidth x
      sizes.width.ne' wide.ne')
    (Span.transport_wholeTarget source.vertical destination.vertical bufferHeight y
      sizes.height.ne' high.ne')

end Clip

/-- What a clipped video shows, where it shows it, and how its child is placed. -/
structure KeepsVideo (primary destination source : Box)
    (clip : Option Box) (result : ClippedBoxes) : Prop where
  inPrimary : result.destination.Inside primary
  inDestination : result.destination.Inside destination
  inClip : ∀ area ∈ clip, result.destination.Inside area
  inSource : result.source.Inside source
  mapping (x y : ℚ) : result.source.shownAt result.destination x y = source.shownAt destination x y
  child (bufferWidth bufferHeight : ℚ) (child : Box) (x y : ℚ) :
    rgbVideoChildGeometry result.destination result.source bufferWidth bufferHeight = some child →
    Box.shownAt ⟨0, 0, bufferWidth, bufferHeight⟩
      (placedChild result.destination child) x y = source.shownAt destination x y

theorem ClippedVideo.keeps {primary destination source : Box}
    {clip : Option Box} {result : ClippedBoxes}
    (clips : ClippedVideo primary destination source clip result) :
    KeepsVideo primary destination source clip result := by
  have mapping (x y : ℚ) :
      result.source.shownAt result.destination x y = source.shownAt destination x y :=
    Prod.ext (clips.horizontal.mapping x) (clips.vertical.mapping y)
  refine
    { inPrimary := ⟨clips.horizontal.inPrimary, clips.vertical.inPrimary⟩
      inDestination := ⟨clips.horizontal.inDestination, clips.vertical.inDestination⟩
      inClip := ?_
      inSource := ⟨clips.horizontal.inSource, clips.vertical.inSource⟩
      mapping := mapping
      child := ?_ }
  · intro area member
    exact ⟨clips.horizontal.inClip _ (Option.mem_map_of_mem _ member),
      clips.vertical.inClip _ (Option.mem_map_of_mem _ member)⟩
  · intro bufferWidth bufferHeight child x y succeeded
    rw [rgbVideoChildGeometry_mapping _ _ _ _ child succeeded, mapping]

theorem video_clip_keeps_mapping (primary destination source : Box)
    (clip : Option Box) :
    (∀ result, clipVideoGeometry primary destination source clip = some result →
        KeepsVideo primary destination source clip result) ∧
      (NothingVisible primary destination clip →
        clipVideoGeometry primary destination source clip = none) ∧
      (ClipAdmits primary destination source clip →
        clipVideoGeometry primary destination source clip = none →
        NothingVisible primary destination clip) := by
  refine ⟨fun result succeeded => ?_, fun nothing => ?_, fun admits refused x y visible => ?_⟩
  · obtain ⟨admits, wide, high, rfl⟩ :=
      clipVideoGeometry_some primary destination source clip result succeeded
    exact (clippedBoxes_clips primary destination source clip admits wide high).keeps
  · cases succeeded : clipVideoGeometry primary destination source clip with
    | none => rfl
    | some result =>
      obtain ⟨-, wide, high, -⟩ :=
        clipVideoGeometry_some primary destination source clip result succeeded
      exact absurd nothing (visible_of_nonempty primary destination clip wide high)
  · obtain ⟨inPrimary, inDestination, inClip⟩ := visible
    have wide : visibleLeft primary destination clip < visibleRight primary destination clip := by
      refine lt_of_le_of_lt
        (clippedStart_le _ _ x _ inPrimary.1.1 inDestination.1.1 ?_)
        (lt_clippedStop _ _ x _ inPrimary.1.2 inDestination.1.2 ?_)
      · intro start member
        obtain ⟨area, held, rfl⟩ := Option.mem_map.mp member
        exact (inClip area held).1.1
      · intro stop member
        obtain ⟨area, held, rfl⟩ := Option.mem_map.mp member
        exact (inClip area held).1.2
    have high : visibleTop primary destination clip < visibleBottom primary destination clip := by
      refine lt_of_le_of_lt
        (clippedStart_le _ _ y _ inPrimary.2.1 inDestination.2.1 ?_)
        (lt_clippedStop _ _ y _ inPrimary.2.2 inDestination.2.2 ?_)
      · intro start member
        obtain ⟨area, held, rfl⟩ := Option.mem_map.mp member
        exact (inClip area held).2.1
      · intro stop member
        obtain ⟨area, held, rfl⟩ := Option.mem_map.mp member
        exact (inClip area held).2.2
    rw [clipVideoGeometry_shows primary destination source clip admits wide high] at refused
    cases refused

def pageArea : Box := ⟨0, 0, 100, 80⟩
def offscreenQuad : Box := ⟨-10, 20, 40, 30⟩
def videoSource : Box := ⟨4, 0, 80, 60⟩
def scrollClip : Box := ⟨0, 25, 100, 50⟩

theorem video_clip_keeps_mapping_offscreen :
    clipVideoGeometry pageArea offscreenQuad videoSource (some scrollClip) =
        some ⟨⟨0, 25, 30, 25⟩, ⟨24, 10, 60, 50⟩⟩ ∧
      KeepsVideo pageArea offscreenQuad videoSource (some scrollClip)
        ⟨⟨0, 25, 30, 25⟩, ⟨24, 10, 60, 50⟩⟩ := by
  have clipped : clipVideoGeometry pageArea offscreenQuad videoSource (some scrollClip) =
      some ⟨⟨0, 25, 30, 25⟩, ⟨24, 10, 60, 50⟩⟩ := by decide +kernel
  exact ⟨clipped, (video_clip_keeps_mapping _ _ _ _).1 _ clipped⟩

end ChromiumHmos.Overlay
