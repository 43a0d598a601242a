import Mathlib

set_option autoImplicit false

/-!
# Cache of shared images

Imports whose frame has been read, kept for the next frame of the same buffer. How many bytes a
format takes at a size is a parameter.
-/

namespace ChromiumHmos.Media

variable {F S C : Type*}

structure ClientSharedImage (F S C : Type*) where
  allocation : Nat
  format : F
  size : S
  colorSpace : C
deriving DecidableEq

structure CachedImage (F S C : Type*) where
  bufferId : UInt32
  image : ClientSharedImage F S C

structure SharedImageCache (F S C : Type*) where
  generation : UInt32 := 0
  bytes : UInt64 := 0
  images : List (CachedImage F S C) := []
  -- Set where a subtraction goes below zero.
  underflowed : Bool := false

inductive CacheCall (F S C : Type*)
  | reset (generation : UInt32)
  | clear
  | take (bufferId : UInt32) (format : F) (size : S) (colorSpace : C)
  | put (generation bufferId : UInt32) (image : ClientSharedImage F S C)

namespace SharedImageCache

def kMaxImages : Nat := 8
def kMaxBytes : UInt64 := 128 * 1024 * 1024

def clear (cache : SharedImageCache F S C) : SharedImageCache F S C :=
  { cache with images := [], bytes := 0 }

def reset (generation : UInt32) (cache : SharedImageCache F S C) : SharedImageCache F S C :=
  { cache.clear with generation }

def subtract (amount : UInt64) (cache : SharedImageCache F S C) : SharedImageCache F S C :=
  { cache with
    bytes := cache.bytes - amount
    underflowed := cache.underflowed || cache.bytes < amount }

section

variable (estimatedSizeInBytes : F → S → UInt64)

def imageBytes (image : ClientSharedImage F S C) : UInt64 :=
  estimatedSizeInBytes image.format image.size

def eraseBuffer (bufferId : UInt32) (cache : SharedImageCache F S C) : SharedImageCache F S C :=
  match cache.images.find? fun entry => entry.bufferId = bufferId with
  | none => cache
  | some entry =>
    { cache.subtract (imageBytes estimatedSizeInBytes entry.image) with
      images := cache.images.eraseP fun entry => entry.bufferId = bufferId }

def take [DecidableEq F] [DecidableEq S] [DecidableEq C] (bufferId : UInt32) (format : F) (size : S)
    (colorSpace : C) (cache : SharedImageCache F S C) :
    Option (ClientSharedImage F S C) × SharedImageCache F S C :=
  match cache.images.find? fun entry => entry.bufferId = bufferId with
  | none => (none, cache)
  | some entry =>
    (if entry.image.format = format ∧ entry.image.size = size ∧
        entry.image.colorSpace = colorSpace then some entry.image else none,
      cache.eraseBuffer estimatedSizeInBytes bufferId)

-- The loop that drops images from the front until `needed` more bytes fit. The list is the cache's.
def evict (needed : UInt64) :
    List (CachedImage F S C) → SharedImageCache F S C → SharedImageCache F S C
  | [], cache => cache
  | first :: rest, cache =>
    if kMaxImages ≤ cache.images.length ∨ kMaxBytes - needed < cache.bytes then
      evict needed rest
        { cache.subtract (imageBytes estimatedSizeInBytes first.image) with images := rest }
    else cache

def put (generation bufferId : UInt32) (image : ClientSharedImage F S C)
    (cache : SharedImageCache F S C) : SharedImageCache F S C :=
  let bytes := imageBytes estimatedSizeInBytes image
  if generation ≠ cache.generation then cache
  else if kMaxBytes < bytes then cache
  else
    let replaced := cache.eraseBuffer estimatedSizeInBytes bufferId
    let roomy := evict estimatedSizeInBytes bytes replaced.images replaced
    { roomy with bytes := roomy.bytes + bytes, images := roomy.images ++ [{ bufferId, image }] }

def call [DecidableEq F] [DecidableEq S] [DecidableEq C] (cache : SharedImageCache F S C) :
    CacheCall F S C → SharedImageCache F S C
  | .reset generation => cache.reset generation
  | .clear => cache.clear
  | .take bufferId format size colorSpace =>
    (cache.take estimatedSizeInBytes bufferId format size colorSpace).2
  | .put generation bufferId image => cache.put estimatedSizeInBytes generation bufferId image

def run [DecidableEq F] [DecidableEq S] [DecidableEq C] (calls : List (CacheCall F S C)) :
    SharedImageCache F S C :=
  calls.foldl (call estimatedSizeInBytes) {}

def heldBytes (images : List (CachedImage F S C)) : Nat :=
  (images.map fun entry => (imageBytes estimatedSizeInBytes entry.image).toNat).sum

structure Counted (cache : SharedImageCache F S C) : Prop where
  exact : cache.bytes.toNat = heldBytes estimatedSizeInBytes cache.images
  noUnderflow : cache.underflowed = false

variable {estimatedSizeInBytes} in
theorem Counted.subtract {cache : SharedImageCache F S C}
    (counted : cache.Counted estimatedSizeInBytes) (image : ClientSharedImage F S C)
    (images : List (CachedImage F S C))
    (parts : heldBytes estimatedSizeInBytes cache.images =
      (imageBytes estimatedSizeInBytes image).toNat + heldBytes estimatedSizeInBytes images) :
    Counted estimatedSizeInBytes
      { cache.subtract (imageBytes estimatedSizeInBytes image) with images } := by
  have held : (imageBytes estimatedSizeInBytes image).toNat <= cache.bytes.toNat := by
    rw [counted.exact, parts]
    exact Nat.le_add_right _ _
  refine ⟨?_, ?_⟩
  · show (cache.bytes - imageBytes estimatedSizeInBytes image).toNat = _
    rw [UInt64.toNat_sub_of_le _ _ (UInt64.le_iff_toNat_le.mpr held), counted.exact, parts,
      Nat.add_sub_cancel_left]
  · show (cache.underflowed || _) = false
    rw [counted.noUnderflow, Bool.false_or]
    exact decide_eq_false (fun below => absurd (UInt64.lt_iff_toNat_lt.mp below) (by omega))

theorem heldBytes_cons (entry : CachedImage F S C) (rest : List (CachedImage F S C)) :
    heldBytes estimatedSizeInBytes (entry :: rest) =
      (imageBytes estimatedSizeInBytes entry.image).toNat + heldBytes estimatedSizeInBytes rest := by
  rw [heldBytes, List.map_cons, List.sum_cons, heldBytes]

theorem heldBytes_eraseP (bufferId : UInt32) (images : List (CachedImage F S C))
    (entry : CachedImage F S C)
    (found : (images.find? fun entry => entry.bufferId = bufferId) = some entry) :
    heldBytes estimatedSizeInBytes images =
      (imageBytes estimatedSizeInBytes entry.image).toNat +
        heldBytes estimatedSizeInBytes
          (images.eraseP fun entry => entry.bufferId = bufferId) := by
  induction images with
  | nil => simp at found
  | cons first rest ih =>
    by_cases same : first.bufferId = bufferId
    · rw [List.find?_cons_of_pos (by simpa using same)] at found
      obtain rfl := Option.some.inj found
      rw [List.eraseP_cons_of_pos (by simpa using same), heldBytes_cons]
    · rw [List.find?_cons_of_neg (by simpa using same)] at found
      rw [List.eraseP_cons_of_neg (by simpa using same), heldBytes_cons, heldBytes_cons, ih found]
      omega

variable {estimatedSizeInBytes} in
theorem Counted.eraseBuffer {cache : SharedImageCache F S C}
    (counted : cache.Counted estimatedSizeInBytes) (bufferId : UInt32) :
    (cache.eraseBuffer estimatedSizeInBytes bufferId).Counted estimatedSizeInBytes := by
  unfold SharedImageCache.eraseBuffer
  split
  next => exact counted
  next entry found =>
    exact counted.subtract entry.image _
      (heldBytes_eraseP estimatedSizeInBytes bufferId cache.images entry found)

theorem eraseBuffer_images (bufferId : UInt32) (cache : SharedImageCache F S C) :
    (cache.eraseBuffer estimatedSizeInBytes bufferId).images =
      cache.images.eraseP fun entry => entry.bufferId = bufferId := by
  unfold eraseBuffer
  split
  next missing =>
    refine (List.eraseP_of_forall_not fun entry member => ?_).symm
    exact List.find?_eq_none.mp missing entry member
  next => rfl

theorem eraseBuffer_generation (bufferId : UInt32) (cache : SharedImageCache F S C) :
    (cache.eraseBuffer estimatedSizeInBytes bufferId).generation = cache.generation := by
  unfold eraseBuffer
  split <;> rfl

theorem evict_spec (needed : UInt64) (small : needed <= kMaxBytes)
    (images : List (CachedImage F S C)) (cache : SharedImageCache F S C)
    (own : cache.images = images) (counted : cache.Counted estimatedSizeInBytes) :
    let left := evict estimatedSizeInBytes needed images cache
    left.Counted estimatedSizeInBytes /\ left.generation = cache.generation /\
      left.images <:+ images /\ left.images.length < kMaxImages /\
      left.bytes.toNat + needed.toNat <= kMaxBytes.toNat := by
  induction images generalizing cache with
  | nil =>
    have empty : cache.bytes.toNat = 0 := by
      rw [counted.exact, own]
      rfl
    have := UInt64.le_iff_toNat_le.mp small
    refine ⟨counted, rfl, ?_, ?_, ?_⟩
    · simp [evict, own]
    · simp [evict, own, kMaxImages]
    · show cache.bytes.toNat + _ <= _
      omega
  | cons first rest ih =>
    unfold evict
    split
    next =>
      have dropped := counted.subtract first.image rest
        (own ▸ heldBytes_cons estimatedSizeInBytes first rest)
      obtain ⟨kept, generation, ends, few, room⟩ := ih _ rfl dropped
      exact ⟨kept, generation, ends.trans (List.suffix_cons _ _), few, room⟩
    next fits =>
      obtain ⟨few, room⟩ := not_or.mp fits
      have below := UInt64.le_iff_toNat_le.mp (UInt64.not_lt.mp room)
      rw [UInt64.toNat_sub_of_le _ _ small] at below
      have := UInt64.le_iff_toNat_le.mp small
      refine ⟨counted, rfl, own ▸ List.suffix_refl _, Nat.lt_of_not_le few, ?_⟩
      show cache.bytes.toNat + _ <= _
      omega

section Put

variable {estimatedSizeInBytes}

theorem put_refused (generation bufferId : UInt32) (image : ClientSharedImage F S C)
    (cache : SharedImageCache F S C)
    (refused : generation ≠ cache.generation \/ kMaxBytes < imageBytes estimatedSizeInBytes image) :
    cache.put estimatedSizeInBytes generation bufferId image = cache := by
  by_cases stale : generation = cache.generation
  · have large := refused.resolve_left (not_not.mpr stale)
    simp [put, stale, large]
  · simp [put, stale]

theorem put_accepted (bufferId : UInt32) (image : ClientSharedImage F S C)
    (cache : SharedImageCache F S C) (small : imageBytes estimatedSizeInBytes image <= kMaxBytes)
    (counted : cache.Counted estimatedSizeInBytes) :
    let after := cache.put estimatedSizeInBytes cache.generation bufferId image
    after.Counted estimatedSizeInBytes /\ after.bytes <= kMaxBytes /\
      after.generation = cache.generation /\ after.images.length <= kMaxImages /\
      ∃ left : List (CachedImage F S C), after.images = left ++ [⟨bufferId, image⟩] /\
        left <:+ cache.images.eraseP fun entry => entry.bufferId = bufferId := by
  let replaced := cache.eraseBuffer estimatedSizeInBytes bufferId
  let needed := imageBytes estimatedSizeInBytes image
  let roomy := evict estimatedSizeInBytes needed replaced.images replaced
  have after : cache.put estimatedSizeInBytes cache.generation bufferId image =
      { roomy with bytes := roomy.bytes + needed, images := roomy.images ++ [{ bufferId, image }] } := by
    simp [put, UInt64.not_lt.mpr small, roomy, needed, replaced]
  obtain ⟨kept, generation, ends, few, room⟩ :=
    evict_spec estimatedSizeInBytes needed small replaced.images replaced rfl
      (counted.eraseBuffer bufferId)
  have total : (roomy.bytes + needed).toNat = roomy.bytes.toNat + needed.toNat := by
    refine (UInt64.toNat_add _ _).trans (Nat.mod_eq_of_lt ?_)
    exact Nat.lt_of_le_of_lt room kMaxBytes.toNat_lt
  simp only [after]
  refine ⟨⟨?_, kept.noUnderflow⟩, ?_, ?_, ?_, roomy.images, rfl, ?_⟩
  · rw [total, kept.exact, heldBytes, heldBytes, List.map_append, List.sum_append]
    rfl
  · rw [UInt64.le_iff_toNat_le, total]
    exact room
  · exact generation.trans (eraseBuffer_generation estimatedSizeInBytes bufferId cache)
  · rw [List.length_append]
    exact few
  · rw [<- eraseBuffer_images estimatedSizeInBytes]
    exact ends

theorem erased_distinct (images : List (CachedImage F S C)) (bufferId : UInt32)
    (distinct : (images.map CachedImage.bufferId).Nodup) (entry : CachedImage F S C)
    (member : entry ∈ images.eraseP fun entry => entry.bufferId = bufferId) :
    entry ∈ images /\ entry.bufferId ≠ bufferId := by
  induction images with
  | nil => simp at member
  | cons first rest ih =>
    obtain ⟨fresh, others⟩ := List.nodup_cons.mp distinct
    by_cases same : first.bufferId = bufferId
    · rw [List.eraseP_cons_of_pos (by simpa using same)] at member
      refine ⟨List.mem_cons_of_mem _ member, fun equal => fresh ?_⟩
      exact List.mem_map.mpr ⟨entry, member, equal.trans same.symm⟩
    · rw [List.eraseP_cons_of_neg (by simpa using same)] at member
      rcases List.mem_cons.mp member with rfl | later
      · exact ⟨List.mem_cons_self, same⟩
      · obtain ⟨old, different⟩ := ih others later
        exact ⟨List.mem_cons_of_mem _ old, different⟩

end Put

section Runs

variable [DecidableEq F] [DecidableEq S] [DecidableEq C]

/-- The call ends what an earlier put of `bufferId` left in the cache of `generation`. -/
def CacheCall.Ends (generation bufferId : UInt32) : CacheCall F S C → Prop
  | .reset _ | .clear => True
  | .take other _ _ _ => other = bufferId
  | .put given other image =>
    given = generation ∧ other = bufferId ∧ imageBytes estimatedSizeInBytes image ≤ kMaxBytes

/-- The image was put under the cache's generation, and no call since then ends that. -/
def Standing (calls : List (CacheCall F S C)) (bufferId : UInt32)
    (image : ClientSharedImage F S C) : Prop :=
  ∃ (earlier later : List (CacheCall F S C)) (generation : UInt32),
    calls = earlier ++ .put generation bufferId image :: later ∧
    (run estimatedSizeInBytes earlier).generation = generation ∧
    (run estimatedSizeInBytes calls).generation = generation ∧
    imageBytes estimatedSizeInBytes image ≤ kMaxBytes ∧
    ∀ call ∈ later, ¬CacheCall.Ends estimatedSizeInBytes generation bufferId call

structure Kept (calls : List (CacheCall F S C)) (cache : SharedImageCache F S C) : Prop where
  counted : cache.Counted estimatedSizeInBytes
  budget : cache.bytes ≤ kMaxBytes
  few : cache.images.length ≤ kMaxImages
  distinct : (cache.images.map CachedImage.bufferId).Nodup
  standing : ∀ entry ∈ cache.images,
    Standing estimatedSizeInBytes calls entry.bufferId entry.image

variable {estimatedSizeInBytes}

theorem run_append (calls : List (CacheCall F S C)) (next : CacheCall F S C) :
    run estimatedSizeInBytes (calls ++ [next]) =
      (run estimatedSizeInBytes calls).call estimatedSizeInBytes next := by
  simp [run]

theorem Standing.extend {calls : List (CacheCall F S C)} {bufferId : UInt32}
    {image : ClientSharedImage F S C} (standing : Standing estimatedSizeInBytes calls bufferId image)
    (next : CacheCall F S C)
    (same : (run estimatedSizeInBytes (calls ++ [next])).generation =
      (run estimatedSizeInBytes calls).generation)
    (unended : ¬CacheCall.Ends estimatedSizeInBytes (run estimatedSizeInBytes calls).generation
      bufferId next) : Standing estimatedSizeInBytes (calls ++ [next]) bufferId image := by
  obtain ⟨earlier, later, generation, split, before, now, small, kept⟩ := standing
  refine ⟨earlier, later ++ [next], generation, by simp [split], before, same.trans now, small, ?_⟩
  intro call member
  rcases List.mem_append.mp member with old | last
  · exact kept call old
  · rw [List.mem_singleton.mp last, <- now]
    exact unended

namespace Kept

variable {calls : List (CacheCall F S C)}

theorem clear (kept : Kept estimatedSizeInBytes calls (run estimatedSizeInBytes calls))
    (next : CacheCall F S C) (cleared : (run estimatedSizeInBytes (calls ++ [next])).images = [])
    (empty : (run estimatedSizeInBytes (calls ++ [next])).bytes = 0)
    (same : (run estimatedSizeInBytes (calls ++ [next])).underflowed =
      (run estimatedSizeInBytes calls).underflowed) :
    Kept estimatedSizeInBytes (calls ++ [next]) (run estimatedSizeInBytes (calls ++ [next])) where
  counted := ⟨by rw [empty, cleared]; rfl, same.trans kept.counted.noUnderflow⟩
  budget := by rw [empty]; decide
  few := by rw [cleared]; exact Nat.zero_le _
  distinct := by rw [cleared]; exact List.nodup_nil
  standing := by simp [cleared]

theorem take (kept : Kept estimatedSizeInBytes calls (run estimatedSizeInBytes calls))
    (bufferId : UInt32) (format : F) (size : S) (colorSpace : C) :
    Kept estimatedSizeInBytes (calls ++ [.take bufferId format size colorSpace])
      (run estimatedSizeInBytes (calls ++ [.take bufferId format size colorSpace])) := by
  let cache := run estimatedSizeInBytes calls
  let after := cache.eraseBuffer estimatedSizeInBytes bufferId
  have moved : run estimatedSizeInBytes (calls ++ [.take bufferId format size colorSpace]) =
      after := by
    rw [run_append]
    show (cache.take estimatedSizeInBytes bufferId format size colorSpace).2 = after
    unfold SharedImageCache.take
    split
    next missing => simp [after, eraseBuffer, missing]
    next => rfl
  have images : after.images = _ := eraseBuffer_images estimatedSizeInBytes bufferId cache
  have generation : after.generation = cache.generation :=
    eraseBuffer_generation estimatedSizeInBytes bufferId cache
  have counted : after.Counted estimatedSizeInBytes := kept.counted.eraseBuffer bufferId
  have fewer : after.images.Sublist cache.images := images ▸ List.eraseP_sublist
  have lighter : heldBytes estimatedSizeInBytes after.images <=
      heldBytes estimatedSizeInBytes cache.images :=
    (fewer.map _).sum_le_sum (fun _ _ => Nat.zero_le _)
  constructor
  case counted => exact moved ▸ counted
  case budget =>
    rw [moved, UInt64.le_iff_toNat_le, counted.exact]
    refine lighter.trans ?_
    rw [<- kept.counted.exact]
    exact UInt64.le_iff_toNat_le.mp kept.budget
  case few => exact moved ▸ fewer.length_le.trans kept.few
  case distinct => exact moved ▸ (fewer.map _).nodup kept.distinct
  case standing =>
    intro entry member
    rw [moved, images] at member
    obtain ⟨old, different⟩ := erased_distinct cache.images bufferId kept.distinct entry member
    exact (kept.standing entry old).extend _ (moved ▸ generation) (Ne.symm different)

theorem put (kept : Kept estimatedSizeInBytes calls (run estimatedSizeInBytes calls))
    (generation bufferId : UInt32) (image : ClientSharedImage F S C) :
    Kept estimatedSizeInBytes (calls ++ [.put generation bufferId image])
      (run estimatedSizeInBytes (calls ++ [.put generation bufferId image])) := by
  let cache := run estimatedSizeInBytes calls
  have moved : run estimatedSizeInBytes (calls ++ [.put generation bufferId image]) =
      cache.put estimatedSizeInBytes generation bufferId image := run_append calls _
  by_cases accepted : generation = cache.generation /\
      imageBytes estimatedSizeInBytes image <= kMaxBytes
  case neg =>
    have same : cache.put estimatedSizeInBytes generation bufferId image = cache :=
      put_refused generation bufferId image cache ((not_and_or.mp accepted).imp id UInt64.not_le.mp)
    rw [moved, same]
    refine ⟨kept.counted, kept.budget, kept.few, kept.distinct, fun entry member => ?_⟩
    refine (kept.standing entry member).extend _ (by rw [moved, same]) ?_
    exact fun ends => accepted ⟨ends.1, ends.2.2⟩
  case pos =>
    obtain ⟨rfl, small⟩ := accepted
    obtain ⟨counted, budget, generation, few, left, images, ends⟩ :=
      put_accepted bufferId image cache small kept.counted
    have fewer : left.Sublist cache.images := ends.sublist.trans List.eraseP_sublist
    have others (entry : CachedImage F S C) (member : entry ∈ left) :=
      erased_distinct cache.images bufferId kept.distinct entry (ends.subset member)
    rw [moved]
    refine ⟨counted, budget, few, ?_, fun entry member => ?_⟩
    · rw [images, List.map_append]
      refine ((fewer.map _).nodup kept.distinct).append (List.nodup_singleton _) ?_
      intro id ours last
      obtain ⟨entry, member, rfl⟩ := List.mem_map.mp ours
      exact (others entry member).2 (List.mem_singleton.mp last)
    · rw [images] at member
      rcases List.mem_append.mp member with old | last
      · obtain ⟨before, different⟩ := others entry old
        refine (kept.standing entry before).extend _ (moved ▸ generation) ?_
        exact fun ended => different ended.2.1.symm
      · rw [List.mem_singleton.mp last]
        exact ⟨calls, [], cache.generation, rfl, rfl, moved ▸ generation, small, by simp⟩

end Kept

theorem run_kept (calls : List (CacheCall F S C)) :
    Kept estimatedSizeInBytes calls (run estimatedSizeInBytes calls) := by
  induction calls using List.reverseRecOn with
  | nil =>
    have none : (0 : UInt64) <= kMaxBytes := by decide
    exact ⟨⟨rfl, rfl⟩, none, Nat.zero_le _, List.nodup_nil, by simp [run]⟩
  | append_singleton calls next ih =>
    cases next with
    | reset generation =>
      exact ih.clear _ (by rw [run_append]; rfl) (by rw [run_append]; rfl) (by rw [run_append]; rfl)
    | clear =>
      exact ih.clear _ (by rw [run_append]; rfl) (by rw [run_append]; rfl) (by rw [run_append]; rfl)
    | take bufferId format size colorSpace => exact ih.take bufferId format size colorSpace
    | put generation bufferId image => exact ih.put generation bufferId image

theorem take_found (bufferId : UInt32) (format : F) (size : S) (colorSpace : C)
    (cache : SharedImageCache F S C) (image : ClientSharedImage F S C)
    (taken : (cache.take estimatedSizeInBytes bufferId format size colorSpace).1 = some image) :
    { bufferId, image } ∈ cache.images /\ image.format = format /\ image.size = size /\
      image.colorSpace = colorSpace := by
  unfold SharedImageCache.take at taken
  split at taken
  next => simp at taken
  next entry found =>
    have same : entry.bufferId = bufferId := by simpa using List.find?_some found
    obtain ⟨fits, equal⟩ := Option.ite_none_right_eq_some.mp taken
    obtain rfl := Option.some.inj equal
    refine ⟨?_, fits⟩
    have member := List.mem_of_find?_eq_some found
    rw [<- same]
    exact member

/-- Over any calls the count is exact and within its bounds, and what a take returns still stands. -/
theorem sharedImageCache_kept (calls : List (CacheCall F S C)) :
    let cache := run estimatedSizeInBytes calls
    cache.bytes.toNat = heldBytes estimatedSizeInBytes cache.images ∧
      cache.underflowed = false ∧
      cache.bytes ≤ kMaxBytes ∧ cache.images.length ≤ kMaxImages ∧
      (cache.images.map CachedImage.bufferId).Nodup ∧
      (∀ entry ∈ cache.images, Standing estimatedSizeInBytes calls entry.bufferId entry.image) ∧
      ∀ (bufferId : UInt32) (format : F) (size : S) (colorSpace : C)
        (image : ClientSharedImage F S C),
        (cache.take estimatedSizeInBytes bufferId format size colorSpace).1 = some image →
        image.format = format ∧ image.size = size ∧ image.colorSpace = colorSpace ∧
          Standing estimatedSizeInBytes calls bufferId image := by
  have kept : Kept estimatedSizeInBytes calls _ := run_kept calls
  refine ⟨kept.counted.exact, kept.counted.noUnderflow, kept.budget, kept.few, kept.distinct,
    kept.standing, ?_⟩
  intro bufferId format size colorSpace image taken
  obtain ⟨member, sameFormat, sameSize, sameColor⟩ := take_found bufferId format size colorSpace _
    image taken
  exact ⟨sameFormat, sameSize, sameColor, kept.standing _ member⟩

def latestPut (bufferId : UInt32) (calls : List (CacheCall F S C)) :
    Option (ClientSharedImage F S C) :=
  calls.reverse.findSome? fun call =>
    match call with
    | .put _ other image => if other = bufferId then some image else none
    | _ => none

-- A put that the cache refuses, here of an older generation, leaves the image before it.
theorem refused_put_passed_over :
    ¬∀ (calls : List (CacheCall Unit Unit Unit)) (bufferId : UInt32)
        (image : ClientSharedImage Unit Unit Unit),
      ((run (fun _ _ => 1) calls).take (fun _ _ => 1) bufferId () () ()).1 = some image →
        latestPut bufferId calls = some image := by
  intro latest
  have returned := latest
    [.reset 1, .put 1 7 ⟨1, (), (), ()⟩, .put 0 7 ⟨2, (), (), ()⟩] 7 ⟨1, (), (), ()⟩ (by decide)
  exact absurd returned (by decide)

end Runs

end

end SharedImageCache

end ChromiumHmos.Media
