import ChromiumHmos.Media.VideoSurface

set_option autoImplicit false

/-!
# Who holds the buffers of a video surface

References, fences and the notice of a lease come once. The log says when each goes, and the state who
holds it until then.
-/

namespace ChromiumHmos.Media

open Lib Transition History

inductive Resource
  | buffer (id : Nat) (reference : Reference)
  | fence (id : Nat) (fence : Fence)
  | notice (id : Nat)
deriving DecidableEq

def Resource.id : Resource → Nat
  | .buffer id _ | .fence id _ | .notice id => id

namespace SurfaceEvent

def came : SurfaceEvent → Option Resource
  | .took id => some (.buffer id .acquired)
  | .referenced id => some (.buffer id .extra)
  | .opened id fence => some (.fence id fence)
  | .told id .kAcquired => some (.notice id)
  | _ => none

def went : SurfaceEvent → Option Resource
  | .returned id => some (.buffer id .acquired)
  | .unreferenced id reference => some (.buffer id reference)
  | .handed id fence | .closed id fence => some (.fence id fence)
  | .noticed id => some (.notice id)
  | _ => none

-- The buffer is back, or its reference dropped.
def GivenBack (log : List SurfaceEvent) (id : Nat) : Prop :=
  .returned id ∈ log ∨ .unreferenced id .acquired ∈ log

def Rightful (before : List SurfaceEvent) : SurfaceEvent → Prop
  | .returned _ => .retired ∉ before
  | .noticed id => GivenBack before id
  | _ => True

end SurfaceEvent

open SurfaceEvent

/-- What is left to a release once the buffer was given back. -/
def Release.rest (release : Release) : List Resource :=
  (release.producerFence.map (.fence release.id)).toList ++
    if release.onReleased then [.notice release.id] else []

def Release.owes (release : Release) : List Resource :=
  [.buffer release.id .acquired, .buffer release.id .extra] ++ release.rest

namespace Acquiring

def id : Acquiring → Nat
  | .checked id | .took id _ | .referenced id _ | .giving id => id

def owes : Acquiring → List Resource
  | .checked _ => []
  | .took id fence => .buffer id .acquired :: if fence then [.fence id .acquire] else []
  | .referenced id fence =>
    .buffer id .acquired :: ((if fence then [.fence id .acquire] else []) ++ [.buffer id .extra])
  | .giving id => Release.owes ⟨id, some .acquire, false⟩

def rank : Acquiring → Nat
  | .checked _ => 8
  | .took .. => 7
  | .referenced .. => 6
  | .giving _ => 1

end Acquiring

namespace VideoSurface

def held (s : VideoSurface) : List Resource :=
  s.acquiring.toList.flatMap Acquiring.owes ++ s.leases.flatMap Release.owes ++
    s.posted.flatMap Release.owes ++ s.leaving.toList.flatMap Release.rest

def Idle (s : VideoSurface) : Prop :=
  s.acquiring = none ∧ s.leases = [] ∧ s.posted = [] ∧ s.leaving = none

instance decidableIdle (s : VideoSurface) : Decidable s.Idle := inferInstanceAs (Decidable (_ ∧ _))

def rank (s : VideoSurface) : Nat :=
  (s.acquiring.map Acquiring.rank).getD 0 + 3 * s.leases.length + 2 * s.posted.length +
    s.leaving.toList.length

structure Sane (s : VideoSurface) : Prop where
  custody : Custody (s.log.filterMap came) (s.log.filterMap went) s.held
  known : ∀ r ∈ s.log.filterMap came, r.id < s.calls
  -- What came with the call under way is still owed.
  underway : ∀ acquiring ∈ s.acquiring, acquiring.id < s.calls ∧ s.retired = false ∧
    ∀ r ∈ s.log.filterMap came, r.id = acquiring.id → r ∈ acquiring.owes
  retirement : s.retired = false → .retired ∉ s.log
  given : ∀ release ∈ s.leaving, GivenBack s.log release.id
  rightful : Throughout Rightful s.log

theorem Sane.move {s t : VideoSurface} (sane : s.Sane) (events : List SurfaceEvent) (log : t.log = s.log ++ events)
    (calls : s.calls <= t.calls) (distinct : (events.filterMap came).Nodup)
    (fresh : ∀ r ∈ events.filterMap came, r ∉ s.log.filterMap came /\ r.id < t.calls)
    (moved : (s.held ++ events.filterMap came).Perm (events.filterMap went ++ t.held))
    (underway : ∀ acquiring ∈ t.acquiring, acquiring.id < t.calls /\ t.retired = false /\
      ∀ r ∈ t.log.filterMap came, r.id = acquiring.id -> r ∈ acquiring.owes)
    (retirement : t.retired = false -> s.retired = false /\ .retired ∉ events)
    (given : ∀ release ∈ t.leaving, release ∈ s.leaving \/ GivenBack events release.id)
    (rightful : Throughout Rightful (s.log ++ events)) : t.Sane := by
  refine ⟨?_, ?_, underway, ?_, ?_, log ▸ rightful⟩
  · rw [log, List.filterMap_append, List.filterMap_append]
    exact sane.custody.move distinct (fun r mem => (fresh r mem).1) moved
  · intro r mem
    rw [log, List.filterMap_append] at mem
    rcases List.mem_append.mp mem with old | new
    · exact (sane.known r old).trans_le calls
    · exact (fresh r new).2
  · intro live mem
    obtain ⟨before, quiet⟩ := retirement live
    rw [log] at mem
    rcases List.mem_append.mp mem with old | new
    · exact sane.retirement before old
    · exact quiet new
  · intro release leaves
    rcases given release leaves with old | new
    · rw [log]
      exact (sane.given release old).imp (List.mem_append_left _) (List.mem_append_left _)
    · rw [log]
      exact new.imp (List.mem_append_right _) (List.mem_append_right _)

theorem Sane.rightfully {s : VideoSurface} (sane : s.Sane) {events : List SurfaceEvent} (quiet : .retired ∉ events)
    (returns : ∀ id, .returned id ∈ events -> s.retired = false)
    (notices : ∀ id, .noticed id ∈ events -> GivenBack s.log id) : Throughout Rightful (s.log ++ events) := by
  induction events using List.reverseRecOn with
  | nil => simpa using sane.rightful
  | append_singleton first event ih =>
    rw [<- List.append_assoc]
    have last : event ∈ first ++ [event] := by simp
    refine (ih (fun mem => quiet (by simp [mem])) (fun id mem => returns id (by simp [mem]))
      fun id mem => notices id (by simp [mem])).snoc ?_
    cases event with
    | returned id =>
      have fresh : .retired ∉ s.log := sane.retirement (returns id last)
      intro mem
      rcases List.mem_append.mp mem with old | new
      · exact fresh old
      · exact quiet (List.mem_append_left _ new)
    | noticed id => exact (notices id last).imp (List.mem_append_left _) (List.mem_append_left _)
    | took | referenced | opened | handed | closed | unreferenced | told | retired => trivial

theorem sane_new (releaseOnWorker : Bool) : Sane { releaseOnWorker } where
  custody := custody_none
  known := by simp
  underway := by simp
  retirement := by simp
  given := by simp
  rightful := .nil _

variable {s : VideoSurface}

theorem sane_acquire (sane : s.Sane) (free : s.acquiring = none) : s.acquire.Sane := by
  unfold acquire
  extract_lets id after
  split
  next =>
    refine sane.move [.told id .kError] rfl (Nat.le_succ _) .nil (by simp [List.filterMap_cons, came]) ?_
      (by simp [tell, note]) ?_ (fun release leaves => .inl leaves) (sane.rightful.snoc trivial)
    · simp [held, tell, note, after, free, List.filterMap_cons, came, went]
    · simp [tell, note, after]
  next live =>
    have live : s.retired = false := by simpa [after] using live
    refine sane.move [] (List.append_nil _).symm (Nat.le_succ _) .nil (by simp) ?_ ?_ (by simp [live])
      (fun release leaves => .inl leaves) (by simpa using sane.rightful)
    · simp [held, after, free, Acquiring.owes]
    · rintro _ ⟨rfl⟩
      refine ⟨Nat.lt_succ_self _, live, fun r mem same => ?_⟩
      have earlier : r.id < s.calls := sane.known r mem
      exact absurd same (Nat.ne_of_lt earlier)

theorem Sane.proceed (sane : s.Sane) {before : Acquiring} (under : s.acquiring = some before)
    (events : List SurfaceEvent) (after : Option Acquiring) (extra : List Release)
    (new : ∀ r ∈ events.filterMap came, r.id = before.id /\ r ∉ before.owes)
    (distinct : (events.filterMap came).Nodup)
    (moved : (before.owes ++ events.filterMap came).Perm
      (events.filterMap went ++ (after.toList.flatMap Acquiring.owes ++ extra.flatMap Release.owes)))
    (goes : ∀ next ∈ after, next.id = before.id /\ events.filterMap went = [] /\ extra = [])
    (quiet : ∀ event ∈ events, event ≠ .retired /\ ∀ id, event ≠ .noticed id) :
    Sane ({ s with acquiring := after, leases := extra ++ s.leases }.note events) := by
  obtain ⟨below, live, owed⟩ := sane.underway before under
  refine sane.move events rfl le_rfl distinct ?_ ?_ ?_ ?_ (fun release leaves => .inl leaves) ?_
  · intro r mem
    obtain ⟨same, missing⟩ := new r mem
    exact ⟨fun old => missing (owed r old same), same ▸ below⟩
  · rw [List.perm_iff_count] at moved ⊢
    intro r
    have balance := moved r
    simp only [held, note, under, Option.toList_some, List.flatMap_singleton, List.count_append,
      List.flatMap_append] at balance ⊢
    omega
  · intro next mem
    obtain ⟨same, none, rfl⟩ := goes next mem
    refine ⟨same ▸ below, live, fun r came known => ?_⟩
    have kept : r ∈ before.owes ++ events.filterMap SurfaceEvent.came := by
      simp only [note, List.filterMap_append, List.mem_append] at came
      rcases came with old | fresh
      · exact List.mem_append_left _ (owed r old (known.trans same))
      · exact List.mem_append_right _ fresh
    have owes := moved.mem_iff.mp kept
    have mem : after = some next := mem
    rw [none, mem] at owes
    simpa using owes
  · exact fun _ => ⟨live, fun mem => (quiet _ mem).1 rfl⟩
  · exact sane.rightfully (fun mem => (quiet _ mem).1 rfl) (fun _ _ => live) fun id mem => absurd rfl ((quiet _ mem).2 id)

variable {id : Nat}

theorem sane_acquireNativeWindowBuffer (sane : s.Sane) (under : s.acquiring = some (.checked id))
    (result : GraphicError) (buffer fence : Bool) :
    (s.acquireNativeWindowBuffer id result buffer fence).Sane := by
  unfold acquireNativeWindowBuffer
  split
  next =>
    have kept := sane.proceed under (.took id :: withFence fence (.opened id .acquire)) (some (.took id fence)) []
    cases fence <;> simpa [List.filterMap_cons, note, withFence, came, went, Acquiring.owes, Acquiring.id, Resource.id,
      Release.owes, Release.rest] using kept
  next =>
    have kept (result : AcquireResult) := sane.proceed under
      (withFence fence (.opened id .acquire) ++ withFence fence (.handed id .acquire) ++ [.told id result]) none []
    split <;> cases fence
    · simpa [List.filterMap_cons, note, withFence, came, went, Acquiring.owes, Acquiring.id, Resource.id,
      Release.owes, Release.rest, tell] using kept .kEmpty
    · simpa [List.filterMap_cons, note, withFence, came, went, Acquiring.owes, Acquiring.id, Resource.id,
      Release.owes, Release.rest, tell] using kept .kEmpty
    · simpa [List.filterMap_cons, note, withFence, came, went, Acquiring.owes, Acquiring.id, Resource.id,
      Release.owes, Release.rest, tell] using kept .kError
    · simpa [List.filterMap_cons, note, withFence, came, went, Acquiring.owes, Acquiring.id, Resource.id,
      Release.owes, Release.rest, tell] using kept .kError

variable {fence : Bool}

theorem sane_nativeObjectReference (sane : s.Sane)
    (under : s.acquiring = some (.took id fence)) (ok returned : Bool) :
    (s.nativeObjectReference id fence ok returned).Sane := by
  unfold nativeObjectReference
  split
  next =>
    have kept := sane.proceed under [.referenced id] (some (.referenced id fence)) []
    cases fence <;> simpa [List.filterMap_cons, note, withFence, came, went, Acquiring.owes, Acquiring.id, Resource.id,
      Release.owes, Release.rest] using kept
  next =>
    have kept := sane.proceed under (withFence fence (.handed id .acquire) ++
      [releaseNativeWindowBuffer id returned, .told id .kError]) none []
    cases fence <;> cases returned <;> simpa [List.filterMap_cons, note, withFence, came, went, Acquiring.owes, Acquiring.id, Resource.id,
      Release.owes, Release.rest, tell, releaseNativeWindowBuffer, List.Perm.swap] using kept

theorem sane_dup (sane : s.Sane) (under : s.acquiring = some (.referenced id fence))
    (ok : Bool) : (s.dup id fence ok).Sane := by
  unfold dup
  split
  next bare =>
    obtain rfl : fence = false := by simpa using bare
    have kept := sane.proceed under [.told id .kAcquired] none [⟨id, none, true⟩]
    simpa [List.filterMap_cons, note, withFence, came, went, Acquiring.owes, Acquiring.id, Resource.id,
      Release.owes, Release.rest, tell, lease] using kept
  next fenced =>
    obtain rfl : fence = true := by simpa using fenced
    split
    next =>
      have kept := sane.proceed under [.opened id .producer, .handed id .acquire, .told id .kAcquired] none
        [⟨id, some .producer, true⟩]
      simpa [List.filterMap_cons, note, withFence, came, went, Acquiring.owes, Acquiring.id, Resource.id,
      Release.owes, Release.rest, tell, lease, List.Perm.swap] using kept
    next =>
      have kept := sane.proceed under [] (some (.giving id)) []
      simpa [List.filterMap_cons, note, withFence, came, went, Acquiring.owes, Acquiring.id, Resource.id,
      Release.owes, Release.rest, List.Perm.swap] using kept

theorem sane_giveBack (sane : s.Sane) (under : s.acquiring = some (.giving id)) (returned : Bool) :
    (s.continueAcquire (.giveBack returned) (.giving id)).Sane := by
  obtain ⟨-, live, -⟩ := sane.underway _ under
  have kept := sane.proceed under [.handed id .acquire, releaseNativeWindowBuffer id returned,
    .unreferenced id .extra, .told id .kError] none []
  have rotated (first second third : Resource) : [first, second, third].Perm [third, first, second] :=
    (List.perm_append_comm : ([first, second] ++ [third]).Perm ([third] ++ [first, second]))
  cases returned <;>
    simpa [List.filterMap_cons, note, withFence, came, went, Acquiring.owes, Acquiring.id, Resource.id,
      Release.owes, Release.rest, continueAcquire, releaseBuffer, live, leave, tell, releaseNativeWindowBuffer, rotated]
      using kept

theorem Sane.beside (sane : s.Sane) (events : List SurfaceEvent) (none : events.filterMap came = [])
    (leases posted : List Release) (leaving : Option Release)
    (moved : (s.leases.flatMap Release.owes ++ s.posted.flatMap Release.owes ++ s.leaving.toList.flatMap Release.rest).Perm
      (events.filterMap went ++ (leases.flatMap Release.owes ++ posted.flatMap Release.owes ++
        leaving.toList.flatMap Release.rest)))
    (given : ∀ release ∈ leaving, release ∈ s.leaving \/ GivenBack events release.id)
    (quiet : .retired ∉ events) (rightful : Throughout Rightful (s.log ++ events)) :
    Sane ({ s with leases, posted, leaving }.note events) := by
  refine sane.move events rfl le_rfl (by simp [none]) (by simp [none]) ?_ ?_ (fun live => ⟨live, quiet⟩) given rightful
  · rw [List.perm_iff_count] at moved ⊢
    intro r
    have balance := moved r
    simp only [held, note, none, List.count_append, List.count_nil] at balance ⊢
    omega
  · intro acquiring under
    simpa [note, List.filterMap_append, none] using sane.underway acquiring under

theorem sane_retire (sane : s.Sane) (free : s.acquiring = none) : (s.next .retire).Sane := by
  refine sane.move [.retired] rfl le_rfl .nil (by simp [List.filterMap_cons, came]) ?_ ?_ ?_
    (fun release leaves => .inl leaves) (sane.rightful.snoc trivial)
  · simp [next, held, note, List.filterMap_cons, came, went]
  · simp [next, note, free]
  · simp [next, note]

variable {release : Release}

theorem sane_post (sane : s.Sane) (out : release ∈ s.leases) : (s.post release).Sane := by
  have kept := sane.beside [] rfl (s.leases.erase release) (s.posted ++ [release]) s.leaving ?_
    (fun _ leaves => .inl leaves) (by simp) (by simpa using sane.rightful)
  · simpa [note, post] using kept
  · have taken := ((List.perm_cons_erase out).flatMap_right Release.owes)
    rw [List.perm_iff_count] at taken ⊢
    intro r
    have balance := taken r
    simp only [List.flatMap_cons, List.flatMap_append, List.flatMap_nil, List.count_append, List.filterMap_nil,
      List.count_nil] at balance ⊢
    omega

theorem sane_releaseBuffer (sane : s.Sane) {rest : List Release}
    (waiting : s.posted = release :: rest) (free : s.leaving = none) (returned : Bool) :
    (s.next (.releaseBuffer returned)).Sane := by
  obtain ⟨id, fence, onReleased⟩ := release
  simp only [next, waiting, releaseBuffer]
  split
  next =>
    refine sane.beside [.unreferenced id .acquired, .unreferenced id .extra] rfl s.leases rest (some ⟨id, fence, onReleased⟩)
      ?_ ?_ (by simp) (sane.rightful.append _ (by simp [Rightful]))
    · rw [List.perm_iff_count]
      intro r
      simp only [waiting, free, List.flatMap_cons, Release.owes, went, List.filterMap_cons, List.filterMap_nil,
        Option.toList_none, Option.toList_some, List.flatMap_nil, List.count_append, List.count_nil]
      omega
    · rintro _ ⟨rfl⟩
      exact .inr (.inr (by simp))
  next live =>
    have live : s.retired = false := by simpa using live
    refine sane.beside ((fence.map (.handed id)).toList ++
        [releaseNativeWindowBuffer id returned, .unreferenced id .extra]) ?_ s.leases rest
      (some ⟨id, none, onReleased⟩) ?_ ?_ ?_ ?_
    · cases fence <;> cases returned <;> rfl
    · rw [List.perm_iff_count]
      intro r
      cases fence <;> cases returned <;>
        simp [waiting, free, Release.owes, Release.rest, releaseNativeWindowBuffer, went, List.count_cons] <;> omega
    · rintro _ ⟨rfl⟩
      cases returned
      · exact .inr (.inr (by simp [releaseNativeWindowBuffer]))
      · exact .inr (.inl (by simp [releaseNativeWindowBuffer]))
    · cases fence <;> cases returned <;> simp [releaseNativeWindowBuffer]
    · refine sane.rightfully ?_ (fun _ _ => live) ?_ <;>
        cases fence <;> cases returned <;> simp [releaseNativeWindowBuffer]

theorem sane_leave (sane : s.Sane) (leaves : s.leaving = some release) : (s.next .leave).Sane := by
  obtain ⟨id, fence, onReleased⟩ := release
  have given : GivenBack s.log id := sane.given _ leaves
  simp only [next, leaves, leave]
  refine sane.beside (withFence onReleased (.noticed id) ++ (fence.map (.closed id)).toList) ?_ s.leases s.posted none
    ?_ (by simp) ?_ ?_
  · cases onReleased <;> cases fence <;> rfl
  · rw [List.perm_iff_count]
    intro r
    cases onReleased <;> cases fence <;>
      simp [leaves, Release.rest, withFence, went, List.count_cons] <;> omega
  · cases onReleased <;> cases fence <;> simp [withFence]
  · refine sane.rightfully ?_ ?_ fun noticed mem => ?_
    · cases onReleased <;> cases fence <;> simp [withFence]
    · cases onReleased <;> cases fence <;> simp [withFence]
    · cases onReleased <;> cases fence <;> simp [withFence] at mem
      · exact mem ▸ given
      · exact mem ▸ given

variable {t : VideoSurface} {op : SurfaceOp}

theorem sane_step (sane : s.Sane) (moved : step s op t) : t.Sane := by
  obtain ⟨allowed, rfl⟩ := moved
  cases op with
  | acquire => exact sane_acquire sane allowed.1
  | retire => exact sane_retire sane allowed.1
  | run release | drop release => exact sane_post sane allowed
  | releaseBuffer returned =>
    obtain ⟨some, free, -⟩ := allowed
    obtain ⟨release, rest, waiting⟩ := List.exists_cons_of_ne_nil some
    exact sane_releaseBuffer sane waiting free returned
  | leave =>
    obtain ⟨release, leaves⟩ := Option.ne_none_iff_exists'.mp allowed
    exact sane_leave sane leaves
  | acquireNativeWindowBuffer result buffer fence =>
    obtain ⟨acquiring, under, awaited⟩ := (Option.any_eq_true _ _).mp allowed
    cases acquiring <;> cases awaited
    simpa only [next, under, continueAcquire] using sane_acquireNativeWindowBuffer sane under result buffer fence
  | nativeObjectReference ok returned =>
    obtain ⟨acquiring, under, awaited⟩ := (Option.any_eq_true _ _).mp allowed
    cases acquiring <;> cases awaited
    simpa only [next, under, continueAcquire] using sane_nativeObjectReference sane under ok returned
  | dup ok =>
    obtain ⟨acquiring, under, awaited⟩ := (Option.any_eq_true _ _).mp allowed
    cases acquiring <;> cases awaited
    simpa only [next, under, continueAcquire] using sane_dup sane under ok
  | giveBack returned =>
    obtain ⟨acquiring, under, awaited⟩ := (Option.any_eq_true _ _).mp allowed
    cases acquiring <;> cases awaited
    simpa only [next, under] using sane_giveBack sane under returned

theorem sane_run {releaseOnWorker : Bool} {trace : List (VideoSurface × SurfaceOp)}
    (run : Trace step { releaseOnWorker } trace s) : s.Sane :=
  run.preserves (fun _ _ _ sane moved => sane_step sane moved) (sane_new releaseOnWorker)

theorem held_of_idle (idle : s.Idle) : s.held = [] := by
  obtain ⟨free, none, empty, left⟩ := idle
  simp [held, free, none, empty, left]

theorem rank_next (moved : step s op t) (old : op ≠ .acquire)
    (alive : op ≠ .retire) : t.rank < s.rank := by
  obtain ⟨allowed, rfl⟩ := moved
  cases op with
  | acquire => exact absurd rfl old
  | retire => exact absurd rfl alive
  | run release | drop release =>
    have out : release ∈ s.leases := allowed
    have some : 0 < s.leases.length := List.length_pos_of_mem out
    have fewer := List.length_erase_of_mem out
    simp only [next, post, rank, fewer, List.length_append, List.length_singleton]
    omega
  | releaseBuffer returned =>
    obtain ⟨some, free, -⟩ := allowed
    obtain ⟨release, rest, waiting⟩ := List.exists_cons_of_ne_nil some
    simp only [next, waiting, releaseBuffer]
    split <;> simp [rank, note, waiting, free] <;> omega
  | leave =>
    obtain ⟨release, leaves⟩ := Option.ne_none_iff_exists'.mp allowed
    simp [next, leaves, leave, rank, note]
  | acquireNativeWindowBuffer result buffer fence =>
    obtain ⟨acquiring, under, awaited⟩ := (Option.any_eq_true _ _).mp allowed
    cases acquiring <;> cases awaited
    simp only [next, under, continueAcquire, acquireNativeWindowBuffer]
    split <;> simp [rank, note, tell, under, Acquiring.rank]
  | nativeObjectReference ok returned =>
    obtain ⟨acquiring, under, awaited⟩ := (Option.any_eq_true _ _).mp allowed
    cases acquiring <;> cases awaited
    simp only [next, under, continueAcquire, nativeObjectReference]
    split <;> simp [rank, note, tell, under, Acquiring.rank]
  | dup ok =>
    obtain ⟨acquiring, under, awaited⟩ := (Option.any_eq_true _ _).mp allowed
    cases acquiring <;> cases awaited
    simp only [next, under, continueAcquire, dup, lease]
    split <;> try split
    all_goals simp [rank, note, tell, under, Acquiring.rank] <;> omega
  | giveBack returned =>
    obtain ⟨acquiring, under, awaited⟩ := (Option.any_eq_true _ _).mp allowed
    cases acquiring <;> cases awaited
    simp only [next, under, continueAcquire, releaseBuffer]
    split <;> simp [rank, note, tell, leave, under, Acquiring.rank]

theorem progress (busy : ¬ s.Idle) : ∃ op, op ≠ .acquire /\ op ≠ .retire /\ s.permitted op := by
  cases under : s.acquiring with
  | some acquiring =>
    cases acquiring with
    | checked id =>
      exact ⟨.acquireNativeWindowBuffer .ok true true, by simp, by simp, by simp [permitted, under, awaits]⟩
    | took id fence => exact ⟨.nativeObjectReference true true, by simp, by simp, by simp [permitted, under, awaits]⟩
    | referenced id fence => exact ⟨.dup true, by simp, by simp, by simp [permitted, under, awaits]⟩
    | giving id => exact ⟨.giveBack true, by simp, by simp, by simp [permitted, under, awaits]⟩
  | none =>
    cases leaves : s.leaving with
    | some release => exact ⟨.leave, by simp, by simp, by simp [permitted, leaves]⟩
    | none =>
      by_cases waiting : s.posted = []
      next =>
        have out : s.leases ≠ [] := fun none => busy ⟨under, none, waiting, leaves⟩
        obtain ⟨release, rest, leased⟩ := List.exists_cons_of_ne_nil out
        exact ⟨.run release, by simp, by simp, by simp [permitted, leased]⟩
      next => exact ⟨.releaseBuffer true, by simp, by simp, waiting, leaves, .inr under⟩

theorem buffers_given_back {releaseOnWorker : Bool} {trace : List (VideoSurface × SurfaceOp)}
    (run : Trace step { releaseOnWorker } trace s) :
    (∀ r, (s.log.filterMap came).count r ≤ 1 ∧
      (s.log.filterMap went).count r + s.held.count r = (s.log.filterMap came).count r) ∧
    Throughout Rightful s.log ∧ (s.Idle → s.held = []) ∧
    (¬ s.Idle → ∃ op, op ≠ .acquire ∧ op ≠ .retire ∧ s.permitted op) ∧
    ∀ op t, op ≠ .acquire → op ≠ .retire → step s op t → t.rank < s.rank := by
  have sane := sane_run run
  refine ⟨fun r => sane.custody.count r, sane.rightful, held_of_idle, progress, ?_⟩
  intro op t old alive moved
  exact rank_next moved old alive

def droppedLate : List SurfaceOp :=
  [.acquire, .acquireNativeWindowBuffer .ok true true, .nativeObjectReference true true, .dup true, .retire,
    .drop ⟨0, some .producer, true⟩, .releaseBuffer true, .leave]

theorem buffers_given_back_retired : ∃ s : VideoSurface,
    .noticed 0 ∈ s.log ∧ .unreferenced 0 .acquired ∈ s.log ∧ .returned 0 ∉ s.log ∧
    ∀ r, (s.log.filterMap went).count r = (s.log.filterMap came).count r := by
  have follows : Follows permitted next { releaseOnWorker := true } droppedLate := by decide
  obtain ⟨trace, run, -⟩ := follows.trace
  obtain ⟨count, -, none, -⟩ := buffers_given_back run
  have idle : (droppedLate.foldl next { releaseOnWorker := true }).Idle := by decide
  refine ⟨droppedLate.foldl next { releaseOnWorker := true }, by decide, by decide,
    by decide, fun r => ?_⟩
  have balance := (count r).2
  rwa [none idle, List.count_nil, Nat.add_zero] at balance

def unreferencedBuffer : List SurfaceOp :=
  [.acquire, .acquireNativeWindowBuffer .ok true true, .nativeObjectReference false true]

/-- The buffer goes back, and `on_released` is never run. -/
theorem failed_acquire_unnoticed : ∃ s : VideoSurface, (∃ trace, Trace step { releaseOnWorker := true } trace s) ∧
    s.Idle ∧ .took 0 ∈ s.log ∧ .returned 0 ∈ s.log ∧ .noticed 0 ∉ s.log := by
  have follows : Follows permitted next { releaseOnWorker := true } unreferencedBuffer := by decide
  obtain ⟨trace, run, -⟩ := follows.trace
  exact ⟨unreferencedBuffer.foldl next { releaseOnWorker := true }, ⟨trace, run⟩, by decide, by decide,
    by decide, by decide⟩

end VideoSurface

end ChromiumHmos.Media
