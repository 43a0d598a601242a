import ChromiumHmos.Launch.NativeChildren

set_option autoImplicit false

/-!
# One generation of a process id

What the registry has under a process id is of the newest child under it, or older than that child's launch.
-/

namespace ChromiumHmos.Launch.NativeChildren

open Transition

variable {s t : NativeChildren} {child other : NativeChild} {id pid : Nat}

structure Books (s : NativeChildren) : Prop where
  positive : 0 < s.now
  numbered : (s.children.map (·.id)).Nodup
  bounded : forall child, child ∈ s.children -> child.id < s.children.length
  seen : forall id, id ∈ s.seen -> id < s.children.length
  started : forall child, child ∈ s.children -> 0 < child.launchStarted ∧ child.launchStarted <= s.now
  launches : forall time, time ∈ s.launches -> 0 < time ∧ time <= s.now

theorem Books.same (books : Books s) (first : child ∈ s.children) (second : other ∈ s.children)
    (ids : child.id = other.id) : child = other :=
  List.inj_on_of_nodup_map books.numbered first second ids

theorem found (is : s.find id = some child) : child ∈ s.children /\ child.id = id :=
  ⟨List.mem_of_find?_eq_some is, by simpa using List.find?_some is⟩

theorem Books.finds (books : Books s) (member : child ∈ s.children) : s.find child.id = some child := by
  cases is : s.find child.id with
  | none => exact absurd (List.find?_eq_none.mp is child member) (by simp)
  | some other =>
    obtain ⟨inside, same⟩ := found is
    exact congrArg some (books.same inside member same)

theorem newest_found (is : s.newest pid = some child) : child ∈ s.children /\ child.pid = pid :=
  ⟨List.mem_of_find?_eq_some is, by simpa using List.find?_some is⟩

theorem newest_there (member : child ∈ s.children) : ∃ newest, s.newest child.pid = some newest := by
  cases is : s.newest child.pid with
  | none => exact absurd (List.find?_eq_none.mp is child member) (by simp)
  | some newest => exact ⟨newest, rfl⟩

structure Keeps (edit : NativeChild -> NativeChild) : Prop where
  id : forall child, (edit child).id = child.id
  pid : forall child, (edit child).pid = child.pid
  launchStarted : forall child, (edit child).launchStarted = child.launchStarted

variable {edit : NativeChild -> NativeChild}

theorem newest_change (keeps : Keeps edit) :
    (s.change id edit).newest pid =
      (s.newest pid).map fun child => if child.id = id then edit child else child := by
  have same : ((fun child : NativeChild => decide (child.pid = pid)) ∘ fun child => if child.id = id then edit child else child) =
      fun child => decide (child.pid = pid) := by
    funext child
    by_cases own : child.id = id <;> simp [own, keeps.pid]
  simp only [newest, change, List.find?_map, same]

def Alike (s t : NativeChildren) : Prop :=
  t.children.map (fun child => (child.pid, child.launchStarted)) =
    s.children.map fun child => (child.pid, child.launchStarted)

theorem Alike.member (alike : Alike s t) (member : other ∈ t.children) :
    ∃ before, before ∈ s.children /\ before.pid = other.pid /\ before.launchStarted = other.launchStarted := by
  have inside : (other.pid, other.launchStarted) ∈ t.children.map fun child => (child.pid, child.launchStarted) :=
    List.mem_map_of_mem member
  rw [alike] at inside
  obtain ⟨before, there, same⟩ := List.mem_map.mp inside
  exact ⟨before, there, (Prod.mk.inj same).1, (Prod.mk.inj same).2⟩

theorem change_alike (keeps : Keeps edit) : Alike s (s.change id edit) := by
  simp only [Alike, change, List.map_map]
  apply List.map_congr_left
  intro child _
  by_cases own : child.id = id <;> simp [own, keeps.pid, keeps.launchStarted]

theorem Books.change (books : Books s) (keeps : Keeps edit) : Books (s.change id edit) := by
  have ids : (s.change id edit).children.map (·.id) = s.children.map (·.id) := by
    simp only [NativeChildren.change, List.map_map]
    apply List.map_congr_left
    intro child _
    by_cases own : child.id = id <;> simp [own, keeps.id]
  have length : (s.change id edit).children.length = s.children.length := List.length_map _
  constructor
  case positive => exact books.positive
  case numbered => exact ids ▸ books.numbered
  case bounded =>
    intro other member
    have inside : other.id ∈ s.children.map (·.id) := ids ▸ List.mem_map_of_mem member
    obtain ⟨before, there, same⟩ := List.mem_map.mp inside
    rw [length, <- same]
    exact books.bounded before there
  case seen =>
    rw [length]
    exact books.seen
  case started =>
    intro other member
    obtain ⟨before, there, -, same⟩ := (change_alike keeps).member member
    rw [<- same]
    exact books.started before there
  case launches => exact books.launches

/-- What a poll may make of an entry. -/
structure Later (s : NativeChildren) (before after : NativeChildExitInfo) : Prop where
  signal : after.signal = before.signal
  signalTime : after.signalTime = before.signalTime
  exited : before.exited = true -> after.exited = true
  gone : after.exited = true -> before.exited = true ∨ exists pidfd, before.pidfd = some pidfd ∧ s.gone pidfd = true
  pidfd : forall pidfd, after.pidfd = some pidfd -> before.pidfd = some pidfd

theorem later_self (info : NativeChildExitInfo) : Later s info info := ⟨rfl, rfl, id, .inl, fun _ => id⟩

theorem polled_ready {pidfd : Pidfd} {poll : Poll} (ready : s.polled pidfd poll = .ready) : s.gone pidfd = true := by
  cases poll with
  | failed => cases ready
  | quiet => cases ready
  | ready =>
    by_contra alive
    simp [polled, alive] at ready

theorem poll_later (info : NativeChildExitInfo) (poll : Poll) : Later s info (s.pollNativeChildExit info poll).1 := by
  unfold pollNativeChildExit
  split
  next => exact later_self info
  next running =>
    split
    next => exact later_self info
    next pidfd held =>
      split
      next => exact ⟨rfl, rfl, id, .inl, fun _ is => absurd is (by simp)⟩
      next ready =>
        exact ⟨rfl, rfl, fun _ => rfl, fun _ => .inr ⟨pidfd, held, polled_ready ready⟩, fun _ is => absurd is (by simp)⟩
      next => exact later_self info

variable {info : NativeChildExitInfo}

theorem poll_true {poll : Poll} (answer : (s.pollNativeChildExit info poll).2 = some true) :
    (s.pollNativeChildExit info poll).1.exited = true := by
  unfold pollNativeChildExit at answer ⊢
  split
  next exited => exact exited
  next running =>
    rw [if_neg running] at answer
    split <;> simp_all
    split <;> simp_all

theorem poll_exited (exited : info.exited = true) (poll : Poll) :
    (s.pollNativeChildExit info poll).2 = some true := by
  simp [pollNativeChildExit, exited]

/-- An exit, a descriptor or the lack of a process is the child's own. -/
structure Own (child : NativeChild) (exited : Prop) (pidfd : Option Pidfd) : Prop where
  exited : exited -> child.ended.isSome
  pidfd : forall process, pidfd = some process -> process = .child child.id ∨ child.ended.isSome

/-- What the registry has under the process id of the newest child. -/
structure Standing (s : NativeChildren) (child : NativeChild) : Prop where
  delivered : forall time, child.delivered = some time ->
    (exists info, s.registry child.pid = some info ∧ info.exited = true ∧ info.signal = child.ended ∧
        info.signalTime = time) ∧
      child.ended.isSome ∧
      forall other, other ∈ s.children -> other.pid = child.pid -> other.launchStarted <= time
  tracked : child.tracked = true -> child.delivered = none ->
    exists info, s.registry child.pid = some info ∧ info.signal = none ∧ Own child (info.exited = true) info.pidfd
  fresh : child.tracked = false -> child.delivered = none ->
    child.id ∉ s.seen ∧ forall info, s.registry child.pid = some info -> info.signalTime < child.launchStarted
  seen : child.id ∈ s.seen -> exists info, s.registry child.pid = some info ∧ info.exited = true
  opening : forall opening, child.opening = some opening -> Own child (opening = .missing) (PidfdOpen.pidfd opening)

structure Sane (s : NativeChildren) : Prop extends Books s where
  times : forall pid info, s.registry pid = some info -> info.signalTime = 0 ∨
    exists child, child ∈ s.children ∧ child.pid = pid ∧ child.delivered = some info.signalTime
  absent : forall pid, s.newest pid = none -> s.registry pid = none
  standing : forall pid child, s.newest pid = some child -> Standing s child

theorem sane_initial : Sane {} where
  positive := Nat.one_pos
  numbered := List.nodup_nil
  bounded := fun _ member => absurd member List.not_mem_nil
  seen := fun _ member => absurd member List.not_mem_nil
  started := fun _ member => absurd member List.not_mem_nil
  launches := fun _ member => absurd member List.not_mem_nil
  times := fun _ _ is => absurd is (by simp)
  absent := fun _ _ => rfl
  standing := fun _ _ is => absurd is (by simp [newest])

theorem Books.gone_own (books : Books s) (member : child ∈ s.children) {process : Pidfd}
    (own : process = .child child.id \/ child.ended.isSome) (gone : s.gone process = true) : child.ended.isSome := by
  rcases own with rfl | ended
  · simpa [NativeChildren.gone, books.finds member] using gone
  · exact ended

theorem Standing.later (standing : Standing s child) (books : Books s) (member : child ∈ s.children)
    (alike : Alike s t) (after : NativeChildExitInfo -> NativeChildExitInfo)
    (registry : t.registry child.pid = (s.registry child.pid).map after) (later : ∀ info, Later s info (after info))
    (seen : child.id ∈ t.seen -> child.id ∈ s.seen) : Standing t child := by
  have there {info : NativeChildExitInfo} (is : s.registry child.pid = some info) :
      t.registry child.pid = some (after info) := by
    rw [registry, is]
    rfl
  constructor
  case delivered =>
    intro time is
    obtain ⟨⟨info, held, exited, signal, at_time⟩, ended, earlier⟩ := standing.delivered time is
    refine ⟨⟨after info, there held, (later info).exited exited, (later info).signal.trans signal,
      (later info).signalTime.trans at_time⟩, ended, fun other inside own => ?_⟩
    obtain ⟨before, present, pids, launches⟩ := alike.member inside
    rw [<- launches]
    exact earlier before present (pids.trans own)
  case tracked =>
    intro is undelivered
    obtain ⟨info, held, signal, own⟩ := standing.tracked is undelivered
    refine ⟨after info, there held, (later info).signal.trans signal, ?_, ?_⟩
    · intro exited
      rcases (later info).gone exited with before | ⟨process, descriptor, gone⟩
      · exact own.exited before
      · exact books.gone_own member (own.pidfd process descriptor) gone
    · exact fun process descriptor => own.pidfd process ((later info).pidfd process descriptor)
  case fresh =>
    intro untracked undelivered
    obtain ⟨unseen, old⟩ := standing.fresh untracked undelivered
    refine ⟨fun inside => unseen (seen inside), fun info held => ?_⟩
    rw [registry] at held
    obtain ⟨before, is, rfl⟩ := Option.map_eq_some_iff.mp held
    rw [(later before).signalTime]
    exact old before is
  case seen =>
    intro inside
    obtain ⟨info, held, exited⟩ := standing.seen (seen inside)
    exact ⟨after info, there held, (later info).exited exited⟩
  case opening => exact standing.opening

theorem Standing.beside (standing : Standing s child) (books : Books s) (member : child ∈ s.children)
    (alike : Alike s t) (registry : t.registry child.pid = s.registry child.pid) (seen : t.seen = s.seen) :
    Standing t child :=
  standing.later books member alike id (by rw [registry, Option.map_id, id]) (fun _ => later_self _)
    fun inside => seen ▸ inside

theorem Standing.answered (standing : Standing s child) (known : child.tracked = true \/ child.delivered.isSome)
    (exited : ∃ info, s.registry child.pid = some info /\ info.exited = true) (more : List Nat) :
    Standing { s with seen := more ++ s.seen } child where
  delivered := standing.delivered
  tracked := standing.tracked
  fresh := fun untracked undelivered => by
    rcases known with is | is
    · exact absurd (untracked.symm.trans is) Bool.false_ne_true
    · rw [undelivered] at is
      exact absurd is Bool.false_ne_true
  seen := fun _ => exited
  opening := standing.opening

theorem tick_sane (sane : Sane s) (elapsed : Nat) : Sane (s.next (.tick elapsed)) where
  positive := Nat.lt_add_right _ sane.positive
  numbered := sane.numbered
  bounded := sane.bounded
  seen := sane.seen
  started := fun child member => ⟨(sane.started child member).1, (sane.started child member).2.trans (Nat.le_add_right _ _)⟩
  launches := fun time member => ⟨(sane.launches time member).1, (sane.launches time member).2.trans (Nat.le_add_right _ _)⟩
  times := sane.times
  absent := sane.absent
  standing := fun pid child is =>
    (sane.standing pid child is).beside sane.toBooks (newest_found is).1 rfl rfl rfl

theorem launches_sane (sane : Sane s) {launches : List Nat}
    (began : ∀ time ∈ launches, 0 < time /\ time <= s.now) : Sane { s with launches } where
  positive := sane.positive
  numbered := sane.numbered
  bounded := sane.bounded
  seen := sane.seen
  started := sane.started
  launches := began
  times := sane.times
  absent := sane.absent
  standing := fun pid child is =>
    (sane.standing pid child is).beside sane.toBooks (newest_found is).1 rfl rfl rfl

theorem started_sane (sane : Sane s) {launchStarted : Nat} (began : 0 < launchStarted /\ launchStarted <= s.now)
    (pid : Nat) (told : ∀ child ∈ s.children, child.pid = pid -> ∀ time,
      child.delivered = some time -> time < launchStarted) :
    Sane { s with children := { id := s.children.length, pid, launchStarted } :: s.children } := by
  let new : NativeChild := { id := s.children.length, pid, launchStarted }
  let t : NativeChildren := { s with children := new :: s.children }
  have newest_own : t.newest pid = some new := by simp [t, newest, new]
  have newest_other {other : Nat} (apart : pid ≠ other) : t.newest other = s.newest other := by
    simp [t, newest, new, apart]
  have unnumbered : new.id ∉ s.children.map (·.id) := by
    intro inside
    obtain ⟨child, member, same⟩ := List.mem_map.mp inside
    have bound := sane.bounded child member
    rw [same] at bound
    exact Nat.lt_irrefl _ bound
  change Sane t
  constructor
  case toBooks =>
    constructor
    case positive => exact sane.positive
    case numbered => exact List.nodup_cons.mpr ⟨unnumbered, sane.numbered⟩
    case bounded =>
      intro child member
      rcases List.mem_cons.mp member with rfl | before
      · exact Nat.lt_succ_self _
      · exact (sane.bounded child before).trans (Nat.lt_succ_self _)
    case seen => exact fun id member => (sane.seen id member).trans (Nat.lt_succ_self _)
    case started =>
      intro child member
      rcases List.mem_cons.mp member with rfl | before
      · exact began
      · exact sane.started child before
    case launches => exact sane.launches
  case times =>
    intro other info held
    refine (sane.times other info held).imp id fun ⟨child, member, rest⟩ => ?_
    exact ⟨child, List.mem_cons_of_mem _ member, rest⟩
  case absent =>
    intro other none_there
    by_cases own : pid = other
    · subst own
      rw [newest_own] at none_there
      cases none_there
    · exact sane.absent other (newest_other own ▸ none_there)
  case standing =>
    intro other child is
    by_cases own : pid = other
    · subst own
      obtain rfl := Option.some.inj (newest_own.symm.trans is)
      have old (info : NativeChildExitInfo) (held : s.registry pid = some info) : info.signalTime < launchStarted := by
        rcases sane.times pid info held with zero | ⟨child, member, pids, delivered⟩
        · rw [zero]
          exact began.1
        · exact told child member pids _ delivered
      have unseen : new.id ∉ s.seen := fun inside => Nat.lt_irrefl _ (sane.seen _ inside)
      exact ⟨fun _ is => absurd is (by simp [new]), fun is => absurd is Bool.false_ne_true, fun _ _ => ⟨unseen, old⟩,
        fun inside => absurd inside unseen, fun _ is => absurd is (by simp [new])⟩
    · have before : s.newest other = some child := (newest_other own).symm.trans is
      have standing := sane.standing other child before
      refine ⟨fun time delivered => ?_, standing.tracked, standing.fresh, standing.seen, standing.opening⟩
      obtain ⟨entry, ended, earlier⟩ := standing.delivered time delivered
      refine ⟨entry, ended, fun third inside pids => ?_⟩
      rcases List.mem_cons.mp inside with rfl | there
      · exact absurd (pids.trans (newest_found before).2) own
      · exact earlier third there pids

theorem eraseIdx_began (sane : Sane s) (index : Nat) (time : Nat) (member : time ∈ s.launches.eraseIdx index) :
    0 < time /\ time <= s.now :=
  sane.launches time (List.mem_of_mem_eraseIdx member)

theorem start_sane (sane : Sane s) (index pid : Nat) (careful : s.careful (.start index pid) = true) :
    Sane (s.next (.start index pid)) := by
  simp only [next, start]
  split
  next => exact sane
  next launchStarted begun =>
    split
    next =>
      simp only [NativeChildren.careful, begun, Option.all_some, List.all_eq_true] at careful
      refine started_sane (launches_sane sane (eraseIdx_began sane index))
        (sane.launches _ (List.mem_of_getElem? begun)) pid fun child member pids time delivered => ?_
      simpa [pids, delivered] using careful child member
    next => exact sane

theorem edited_sane (sane : Sane s) (keeps : Keeps edit) (delivered : ∀ child, (edit child).delivered = child.delivered)
    (stands : ∀ child, s.newest child.pid = some child -> child.id = id -> Standing s (edit child)) :
    Sane (s.change id edit) := by
  have alike : Alike s (s.change id edit) := change_alike keeps
  constructor
  case toBooks => exact sane.toBooks.change keeps
  case times =>
    intro pid info held
    refine (sane.times pid info held).imp (fun zero => zero) fun ⟨child, member, pids, told⟩ => ?_
    refine ⟨if child.id = id then edit child else child, List.mem_map_of_mem member, ?_⟩
    split
    · exact ⟨(keeps.pid child).trans pids, (delivered child).trans told⟩
    · exact ⟨pids, told⟩
  case absent =>
    intro pid none_there
    rw [newest_change keeps, Option.map_eq_none_iff] at none_there
    exact sane.absent pid none_there
  case standing =>
    intro pid child is
    rw [newest_change keeps] at is
    obtain ⟨before, there, rfl⟩ := Option.map_eq_some_iff.mp is
    obtain ⟨member, rfl⟩ := newest_found there
    split
    next own =>
      have standing := stands before there own
      refine ⟨fun time told => ?_, standing.tracked, standing.fresh, standing.seen, standing.opening⟩
      obtain ⟨entry, ended, earlier⟩ := standing.delivered time told
      refine ⟨entry, ended, fun other inside pids => ?_⟩
      obtain ⟨original, present, same, launches⟩ := alike.member inside
      rw [<- launches]
      exact earlier original present (same.trans pids)
    next => exact (sane.standing _ before there).beside sane.toBooks member alike rfl rfl

theorem exit_sane (sane : Sane s) (id : Nat) (signal : Int) : Sane (s.next (.exit id signal)) := by
  simp only [next, exit]
  split
  next running =>
    refine edited_sane sane ⟨fun _ => rfl, fun _ => rfl, fun _ => rfl⟩ (fun _ => rfl) fun child is own => ?_
    have member := (newest_found is).1
    have alive : child.ended = none := by
      rw [<- own, sane.finds member] at running
      simpa using running
    have standing := sane.standing _ child is
    have untold (time : Nat) : child.delivered ≠ some time := fun told =>
      absurd (standing.delivered time told).2.1 (by simp [alive])
    refine ⟨fun time told => absurd told (untold time), fun tracked undelivered => ?_, standing.fresh, standing.seen,
      fun opening is => ⟨fun _ => rfl, fun _ _ => .inr rfl⟩⟩
    obtain ⟨info, held, none_there, -⟩ := standing.tracked tracked undelivered
    exact ⟨info, held, none_there, fun _ => rfl, fun _ _ => .inr rfl⟩
  next => exact sane

theorem pidfdOpen_sane (sane : Sane s) (id : Nat) (opening : PidfdOpen) : Sane (s.next (.pidfdOpen id opening)) := by
  simp only [next, pidfdOpen]
  split
  next may =>
    refine edited_sane sane ⟨fun _ => rfl, fun _ => rfl, fun _ => rfl⟩ (fun _ => rfl) fun child is own => ?_
    have standing := sane.standing _ child is
    refine ⟨standing.delivered, fun tracked undelivered => ?_, standing.fresh, standing.seen, fun other given => ?_⟩
    · obtain ⟨info, held, none_there, ours⟩ := standing.tracked tracked undelivered
      exact ⟨info, held, none_there, ours.exited, ours.pidfd⟩
    · obtain rfl := Option.some.inj given
      rw [<- own, sane.finds (newest_found is).1] at may
      have fits : s.fits child.pid opening = true := by
        simp only [Option.any_some, Bool.and_eq_true] at may
        exact may.2
      cases opening with
      | failed => exact ⟨nofun, nofun⟩
      | missing => exact ⟨fun _ => by simpa [NativeChildren.fits, is] using fits, nofun⟩
      | opened process =>
        refine ⟨nofun, fun other same => ?_⟩
        obtain rfl := Option.some.inj same
        cases process with
        | child number =>
          have number_own : child.id = number := by simpa [NativeChildren.fits, is] using fits
          exact .inl (congrArg Pidfd.child number_own.symm)
        | foreign => exact .inr (by simpa [NativeChildren.fits, is] using fits)
  next => exact sane

theorem told_sane (sane : Sane s) (is : s.newest child.pid = some child) {signal : Int}
    (ended : child.ended = some signal) (untold : child.delivered = none) :
    Sane ((s.onNativeChildProcessExit child.pid signal).change child.id fun child =>
      { child with delivered := some s.now }) := by
  have member := (newest_found is).1
  have keeps : Keeps fun child : NativeChild => { child with delivered := some s.now } :=
    ⟨fun _ => rfl, fun _ => rfl, fun _ => rfl⟩
  have books : Books (s.onNativeChildProcessExit child.pid signal) :=
    ⟨sane.positive, sane.numbered, sane.bounded, sane.seen, sane.started, sane.launches⟩
  have alike : Alike s ((s.onNativeChildProcessExit child.pid signal).change child.id fun child =>
      { child with delivered := some s.now }) := change_alike (s := s.onNativeChildProcessExit child.pid signal) keeps
  have entry : ((s.onNativeChildProcessExit child.pid signal).change child.id fun child =>
      { child with delivered := some s.now }).registry child.pid =
        some { (s.registry child.pid).getD {} with
          signal := some signal, signalTime := s.now, exited := true, pidfd := none } :=
    Function.update_self ..
  have others {pid : Nat} (apart : pid ≠ child.pid) :
      ((s.onNativeChildProcessExit child.pid signal).change child.id fun child =>
        { child with delivered := some s.now }).registry pid = s.registry pid :=
    Function.update_of_ne apart ..
  constructor
  case toBooks => exact books.change keeps
  case times =>
    intro pid info held
    by_cases own : pid = child.pid
    · subst own
      rw [entry] at held
      obtain rfl := Option.some.inj held
      exact .inr ⟨{ child with delivered := some s.now }, List.mem_map.mpr ⟨child, member, if_pos rfl⟩, rfl, rfl⟩
    · rw [others own] at held
      refine (sane.times pid info held).imp (fun zero => zero) fun ⟨other, inside, pids, told⟩ => ?_
      have apart : other.id ≠ child.id := fun ids => own (pids.symm.trans (congrArg _ (sane.same inside member ids)))
      exact ⟨other, List.mem_map.mpr ⟨other, inside, if_neg apart⟩, pids, told⟩
  case absent =>
    intro pid none_there
    rw [newest_change keeps, Option.map_eq_none_iff] at none_there
    have apart : pid ≠ child.pid := by
      rintro rfl
      exact absurd (is.symm.trans none_there) (by simp)
    rw [others apart]
    exact sane.absent pid none_there
  case standing =>
    intro pid newest found_there
    rw [newest_change keeps] at found_there
    obtain ⟨before, there, rfl⟩ := Option.map_eq_some_iff.mp found_there
    obtain ⟨inside, rfl⟩ := newest_found there
    split
    next own =>
      obtain rfl := sane.same inside member own
      have standing := sane.standing _ before is
      refine ⟨fun time delivered => ?_, fun _ undelivered => absurd undelivered (by simp),
        fun _ undelivered => absurd undelivered (by simp), fun _ => ⟨_, entry, rfl⟩,
        fun opening given => ⟨(standing.opening opening given).exited, (standing.opening opening given).pidfd⟩⟩
      obtain rfl := Option.some.inj delivered
      refine ⟨⟨_, entry, rfl, ended.symm, rfl⟩, by simp [ended], fun other present pids => ?_⟩
      obtain ⟨original, there, -, launches⟩ := alike.member present
      rw [<- launches]
      exact (sane.started original there).2
    next apart =>
      have elsewhere : before.pid ≠ child.pid := by
        intro pids
        have same : s.newest before.pid = some child := pids ▸ is
        exact apart (congrArg _ (Option.some.inj (there.symm.trans same)))
      exact (sane.standing _ before there).beside sane.toBooks inside alike (others elsewhere) rfl

theorem callback_sane (sane : Sane s) (id : Nat) (careful : s.careful (.callback id) = true) :
    Sane (s.next (.callback id)) := by
  simp only [next, callback]
  split
  next => exact sane
  next child there =>
    split
    next signal ended untold =>
      obtain ⟨member, rfl⟩ := found there
      obtain ⟨newest, is⟩ := newest_there member
      have ids : newest.id = child.id := by simpa [NativeChildren.careful, there, is] using careful
      obtain rfl := sane.same (newest_found is).1 member ids
      exact told_sane sane is ended untold
    next => exact sane

theorem trackedEntry_time (info : NativeChildExitInfo) (launchStarted : Nat) (opening : PidfdOpen) :
    (trackedEntry info launchStarted opening).signalTime = 0 \/
      (trackedEntry info launchStarted opening).signalTime = info.signalTime := by
  unfold trackedEntry
  by_cases old : info.signalTime < launchStarted
  · simp [old]
  · by_cases exited : info.exited = true <;> simp [old, exited]

theorem trackedEntry_kept {launchStarted : Nat} (late : launchStarted <= info.signalTime)
    (exited : info.exited = true) (opening : PidfdOpen) : trackedEntry info launchStarted opening = info := by
  simp [trackedEntry, Nat.not_lt.mpr late, exited]

theorem trackedEntry_new {launchStarted : Nat} (old : info.signalTime < launchStarted)
    (opening : PidfdOpen) :
    trackedEntry info launchStarted opening = { pidfd := PidfdOpen.pidfd opening, exited := opening = .missing } := by
  simp [trackedEntry, old]

section Track

variable {opening : PidfdOpen}

theorem tracked_own (sane : Sane s) (is : s.newest child.pid = some child) (untracked : child.tracked = false)
    (given : child.opening = some opening) (alike : Alike s t) (seen : t.seen = s.seen)
    (entry : t.registry child.pid =
      some (trackedEntry ((s.registry child.pid).getD {}) child.launchStarted opening)) :
    Standing t { child with tracked := true } := by
  have member := (newest_found is).1
  have standing := sane.standing _ child is
  have own := standing.opening opening given
  rcases told : child.delivered with _ | time
  · obtain ⟨unseen, old⟩ := standing.fresh untracked told
    have discarded : ((s.registry child.pid).getD {}).signalTime < child.launchStarted := by
      rcases held : s.registry child.pid with _ | info
      · exact (sane.started child member).1
      · exact old info held
    rw [trackedEntry_new discarded] at entry
    refine ⟨fun time delivered => absurd delivered (by simp), fun _ _ => ?_,
      fun is => absurd is.symm Bool.false_ne_true, fun inside => absurd (seen ▸ inside) unseen, ?_⟩
    · exact ⟨_, entry, rfl, fun exited => own.exited (by simpa using exited), own.pidfd⟩
    · exact fun other same => ⟨(standing.opening other same).exited, (standing.opening other same).pidfd⟩
  · obtain ⟨⟨info, held, exited, signal, at_time⟩, ended, earlier⟩ := standing.delivered time told
    have late : child.launchStarted <= info.signalTime := at_time.symm ▸ earlier child member rfl
    rw [held, Option.getD_some, trackedEntry_kept late exited] at entry
    refine ⟨fun other delivered => ?_, fun _ undelivered => absurd undelivered (by simp),
      fun is => absurd is.symm Bool.false_ne_true, fun _ => ⟨info, entry, exited⟩, ?_⟩
    · obtain rfl := Option.some.inj delivered
      refine ⟨⟨info, entry, exited, signal, at_time⟩, ended, fun other inside pids => ?_⟩
      obtain ⟨original, present, same, launches⟩ := alike.member inside
      rw [<- launches]
      exact earlier original present (same.trans pids)
    · exact fun other same => ⟨(standing.opening other same).exited, (standing.opening other same).pidfd⟩

theorem tracked_older (sane : Sane s) (is : s.newest child.pid = some child) (untracked : child.tracked = false)
    {older : NativeChild} (member : older ∈ s.children) (pids : older.pid = child.pid) (alike : Alike s t)
    (seen : t.seen = s.seen)
    (entry : t.registry child.pid =
      some (trackedEntry ((s.registry child.pid).getD {}) older.launchStarted opening)) :
    Standing t child := by
  have standing := sane.standing _ child is
  rcases told : child.delivered with _ | time
  · obtain ⟨unseen, old⟩ := standing.fresh untracked told
    have before : ((s.registry child.pid).getD {}).signalTime < child.launchStarted := by
      rcases held : s.registry child.pid with _ | info
      · exact (sane.started child (newest_found is).1).1
      · exact old info held
    refine ⟨fun time delivered => absurd (told.symm.trans delivered) (by simp),
      fun is => absurd (untracked.symm.trans is) Bool.false_ne_true, fun _ _ => ⟨seen ▸ unseen, fun info held => ?_⟩,
      fun inside => absurd (seen ▸ inside) unseen, standing.opening⟩
    obtain rfl := Option.some.inj (entry.symm.trans held)
    rcases trackedEntry_time ((s.registry child.pid).getD {}) older.launchStarted opening with zero | same
    · rw [zero]
      exact (sane.started child (newest_found is).1).1
    · rw [same]
      exact before
  · obtain ⟨⟨info, held, exited, signal, at_time⟩, ended, earlier⟩ := standing.delivered time told
    have late : older.launchStarted <= info.signalTime := at_time.symm ▸ earlier older member pids
    have kept : t.registry child.pid = s.registry child.pid := by
      rw [entry, held, Option.getD_some, trackedEntry_kept late exited]
    exact standing.beside sane.toBooks (newest_found is).1 alike kept seen

theorem tracked_sane (sane : Sane s) (member : child ∈ s.children) (given : child.opening = some opening)
    (untracked : child.tracked = false)
    (careful : ∀ newest, s.newest child.pid = some newest -> newest.id = child.id \/ newest.tracked = false)
    (polls : Nat -> Poll) :
    Sane ((s.trackNativeChild child.pid child.launchStarted opening polls).change child.id fun child =>
      { child with tracked := true }) := by
  let t : NativeChildren := (s.trackNativeChild child.pid child.launchStarted opening polls).change child.id fun child =>
    { child with tracked := true }
  have keeps : Keeps fun child : NativeChild => { child with tracked := true } := ⟨fun _ => rfl, fun _ => rfl, fun _ => rfl⟩
  have books : Books (s.trackNativeChild child.pid child.launchStarted opening polls) :=
    ⟨sane.positive, sane.numbered, sane.bounded, sane.seen, sane.started, sane.launches⟩
  have alike : Alike s t :=
    change_alike (s := s.trackNativeChild child.pid child.launchStarted opening polls) keeps
  have entry : t.registry child.pid =
      some (trackedEntry ((s.registry child.pid).getD {}) child.launchStarted opening) := if_pos rfl
  have others {pid : Nat} (apart : pid ≠ child.pid) : t.registry pid = (s.registry pid).map fun info =>
      if info.pidfd.isSome then (s.pollNativeChildExit info (polls pid)).1 else info := if_neg apart
  have polled (pid : Nat) (info : NativeChildExitInfo) :
      Later s info (if info.pidfd.isSome then (s.pollNativeChildExit info (polls pid)).1 else info) := by
    split
    · exact poll_later info _
    · exact later_self info
  have stays {other : NativeChild} (inside : other ∈ s.children) :
      ∃ after, after ∈ t.children /\ after.pid = other.pid /\ after.delivered = other.delivered := by
    refine ⟨_, List.mem_map_of_mem inside, ?_⟩
    split <;> exact ⟨rfl, rfl⟩
  change Sane t
  constructor
  case toBooks => exact books.change keeps
  case times =>
    intro pid info held
    by_cases own : pid = child.pid
    · subst own
      obtain rfl := Option.some.inj (entry.symm.trans held)
      rcases trackedEntry_time ((s.registry child.pid).getD {}) child.launchStarted opening with zero | same
      · exact .inl zero
      · rw [same]
        rcases before : s.registry child.pid with _ | info
        · exact .inl rfl
        · refine (sane.times _ info before).imp (fun zero => zero) fun ⟨other, inside, pids, told⟩ => ?_
          obtain ⟨after, present, same_pid, same_time⟩ := stays inside
          exact ⟨after, present, same_pid.trans pids, same_time.trans told⟩
    · rw [others own] at held
      obtain ⟨before, there, rfl⟩ := Option.map_eq_some_iff.mp held
      rw [(polled pid before).signalTime]
      refine (sane.times pid before there).imp (fun zero => zero) fun ⟨other, inside, pids, told⟩ => ?_
      obtain ⟨after, present, same_pid, same_time⟩ := stays inside
      exact ⟨after, present, same_pid.trans pids, same_time.trans told⟩
  case absent =>
    intro pid none_there
    rw [newest_change keeps, Option.map_eq_none_iff] at none_there
    have apart : pid ≠ child.pid := by
      rintro rfl
      obtain ⟨newest, is⟩ := newest_there member
      exact absurd (is.symm.trans none_there) (by simp)
    rw [others apart, sane.absent pid none_there]
    rfl
  case standing =>
    intro pid newest found_there
    rw [newest_change keeps] at found_there
    obtain ⟨before, there, rfl⟩ := Option.map_eq_some_iff.mp found_there
    obtain ⟨inside, rfl⟩ := newest_found there
    have there : s.newest before.pid = some before := there
    split
    next own =>
      obtain rfl := sane.same inside member own
      exact tracked_own sane there untracked given alike rfl entry
    next apart =>
      by_cases pids : before.pid = child.pid
      · have waits : before.tracked = false := (careful before (pids ▸ there)).resolve_left apart
        exact tracked_older sane there waits member pids.symm alike rfl (by rw [pids]; exact entry)
      · exact (sane.standing _ before there).later sane.toBooks inside alike _ (others pids) (polled _) id

end Track

theorem track_sane (sane : Sane s) (id : Nat) (polls : Nat -> Poll) (careful : s.careful (.track id polls) = true) :
    Sane (s.next (.track id polls)) := by
  simp only [next, track]
  split
  next => exact sane
  next child there =>
    split
    next => exact sane
    next opening given =>
      split
      next => exact sane
      next untracked =>
        obtain ⟨member, rfl⟩ := found there
        refine tracked_sane sane member given (Bool.eq_false_iff.mpr untracked) (fun newest is => ?_) polls
        simpa [NativeChildren.careful, there, is] using careful

theorem known_cases (known : s.known pid = true) (is : s.newest pid = some child) :
    (child.tracked = true \/ child.delivered.isSome) \/ s.registry pid = none := by
  simpa [NativeChildren.known, is, or_assoc] using known

theorem query_sane (sane : Sane s) (pid : Nat) (poll : Poll) (known : s.known pid = true) :
    Sane (s.next (.query pid poll)) := by
  let asked : NativeChildren := { s with
    registry := Function.update s.registry pid ((s.registry pid).map fun child => (s.pollNativeChildExit child poll).1) }
  have own : asked.registry pid = (s.registry pid).map fun child => (s.pollNativeChildExit child poll).1 :=
    Function.update_self ..
  have others {other : Nat} (apart : other ≠ pid) : asked.registry other = s.registry other :=
    Function.update_of_ne apart ..
  have polled : Sane asked := by
    refine ⟨⟨sane.positive, sane.numbered, sane.bounded, sane.seen, sane.started, sane.launches⟩, ?_, ?_, ?_⟩
    · intro other info held
      by_cases same : other = pid
      · subst same
        rw [own] at held
        obtain ⟨before, there, rfl⟩ := Option.map_eq_some_iff.mp held
        rw [(poll_later before poll).signalTime]
        exact sane.times other before there
      · exact sane.times other info (others same ▸ held)
    · intro other none_there
      have absent := sane.absent other none_there
      by_cases same : other = pid
      · subst same
        rw [own, absent]
        rfl
      · rw [others same]
        exact absent
    · intro other child is
      obtain ⟨member, rfl⟩ := newest_found is
      have standing := sane.standing _ child is
      by_cases same : child.pid = pid
      · subst same
        exact standing.later sane.toBooks member rfl _ own (fun info => poll_later info poll) id
      · exact standing.beside sane.toBooks member rfl (others same) rfl
  change Sane { asked with seen := _ }
  split
  next answer =>
    rcases is : s.newest pid with _ | newest
    · exact polled
    · obtain ⟨member, pids⟩ := newest_found is
      obtain ⟨info, held, exited⟩ := Option.bind_eq_some_iff.mp answer
      have entry : asked.registry newest.pid = some (s.pollNativeChildExit info poll).1 := by
        rw [pids, own, held]
        rfl
      have sure : newest.tracked = true \/ newest.delivered.isSome :=
        (known_cases known is).resolve_right (by simp [held])
      refine ⟨⟨polled.positive, polled.numbered, polled.bounded, fun id inside => ?_, polled.started, polled.launches⟩,
        polled.times, polled.absent, fun other child found_there => ?_⟩
      · rcases List.mem_append.mp inside with new | before
        · obtain rfl : id = newest.id := by simpa using new
          exact sane.bounded newest member
        · exact sane.seen id before
      · have standing := polled.standing other child found_there
        obtain ⟨inside, rfl⟩ := newest_found found_there
        by_cases same : child.pid = pid
        · have whole : s.newest child.pid = some newest := same ▸ is
          obtain rfl := Option.some.inj (whole.symm.trans found_there)
          exact standing.answered sure ⟨_, entry, poll_true exited⟩ _
        · refine standing.later polled.toBooks inside rfl id (by rw [Option.map_id, id]) (fun _ => later_self _)
            fun seen => ?_
          refine (List.mem_append.mp seen).resolve_left fun new => same ?_
          have ids : child.id = newest.id := by simpa using new
          rw [sane.same inside member ids]
          exact pids
  next => exact polled

theorem next_sane (sane : Sane s) (step : Step) (careful : s.careful step = true) : Sane (s.next step) := by
  cases step with
  | tick elapsed => exact tick_sane sane elapsed
  | launch =>
    refine launches_sane sane fun time member => ?_
    rcases List.mem_append.mp member with before | new
    · exact sane.launches time before
    · obtain rfl := List.mem_singleton.mp new
      exact ⟨sane.positive, le_refl _⟩
  | refuse index => exact launches_sane sane (eraseIdx_began sane index)
  | start index pid => exact start_sane sane index pid careful
  | exit id signal => exact exit_sane sane id signal
  | callback id => exact callback_sane sane id careful
  | pidfdOpen id opening => exact pidfdOpen_sane sane id opening
  | track id polls => exact track_sane sane id polls careful
  | query pid poll => exact query_sane sane pid poll careful

theorem sane_run {steps : List Step} (careful : Follows (fun s step => s.careful step = true) next {} steps) :
    Sane (steps.foldl next {}) :=
  careful.preserves (fun _ step sane keeps => next_sane sane step keeps) sane_initial

/-- What a query says of a process id is so of the child most recently launched under it. -/
structure PerGeneration (s : NativeChildren) : Prop where
  exited : forall pid poll, s.known pid = true -> s.hasExited pid poll = some true ->
    exists child, s.newest pid = some child ∧ child.ended.isSome
  -- once a query was answered true of a child, every later one of it is
  lasting : forall pid poll child, s.newest pid = some child -> child.id ∈ s.seen -> s.hasExited pid poll = some true
  signal : forall pid signal, s.known pid = true -> s.exitSignal pid = some signal ->
    exists child, s.newest pid = some child ∧ child.ended = some signal

theorem Sane.newest_of (sane : Sane s) (held : s.registry pid = some info) :
    ∃ child, s.newest pid = some child := by
  cases is : s.newest pid with
  | none => exact absurd (held.symm.trans (sane.absent pid is)) (by simp)
  | some child => exact ⟨child, rfl⟩

theorem Sane.perGeneration (sane : Sane s) : PerGeneration s := by
  constructor
  case exited =>
    intro pid poll known answer
    obtain ⟨info, held, exited⟩ := Option.bind_eq_some_iff.mp answer
    obtain ⟨child, is⟩ := sane.newest_of held
    obtain ⟨member, rfl⟩ := newest_found is
    have standing := sane.standing _ child is
    refine ⟨child, is, ?_⟩
    rcases told : child.delivered with _ | time
    · have tracked : child.tracked = true := by
        simpa [told, held] using known_cases known is
      obtain ⟨entry, there, -, own⟩ := standing.tracked tracked told
      obtain rfl := Option.some.inj (held.symm.trans there)
      rcases (poll_later info poll).gone (poll_true exited) with before | ⟨process, descriptor, gone⟩
      · exact own.exited before
      · exact sane.gone_own member (own.pidfd process descriptor) gone
    · exact (standing.delivered time told).2.1
  case lasting =>
    intro pid poll child is seen
    obtain ⟨member, rfl⟩ := newest_found is
    obtain ⟨info, held, exited⟩ := (sane.standing _ child is).seen seen
    simp [hasExited, held, poll_exited exited]
  case signal =>
    intro pid signal known answer
    obtain ⟨info, held, told_signal⟩ := Option.bind_eq_some_iff.mp answer
    obtain ⟨child, is⟩ := sane.newest_of held
    obtain ⟨member, rfl⟩ := newest_found is
    have standing := sane.standing _ child is
    refine ⟨child, is, ?_⟩
    rcases told : child.delivered with _ | time
    · have tracked : child.tracked = true := by
        simpa [told, held] using known_cases known is
      obtain ⟨entry, there, silent, -⟩ := standing.tracked tracked told
      obtain rfl := Option.some.inj (held.symm.trans there)
      exact absurd (told_signal.symm.trans silent) (by simp)
    · obtain ⟨⟨entry, there, -, own, -⟩, -, -⟩ := standing.delivered time told
      obtain rfl := Option.some.inj (held.symm.trans there)
      exact own.symm.trans told_signal

/-- In every run in which no exit callback comes late, no child is tracked after a newer one of its process id, and
no query comes before the newest child is known, the answers are about the newest child. -/
theorem child_exits_per_generation (steps : List Step)
    (careful : Follows (fun s step => s.careful step = true) next {} steps) : PerGeneration (steps.foldl next {}) :=
  (sane_run careful).perGeneration

/-- A child ends before its launch is tracked, and its process id is used again. -/
def reusedId : List Step :=
  [.launch, .start 0 5, .exit 0 9, .callback 0, .pidfdOpen 0 .missing, .track 0 fun _ => .quiet, .query 5 .quiet,
    .tick 1, .launch, .start 0 5, .pidfdOpen 1 (.opened (.child 1)), .track 1 fun _ => .quiet, .query 5 .ready]

theorem child_exits_per_generation_reused :
    Follows (fun s step => s.careful step = true) next {} reusedId ∧ PerGeneration (reusedId.foldl next {}) :=
  ⟨by decide, child_exits_per_generation reusedId (by decide)⟩

/-- The callback of the first child comes once its process id is the second one's. -/
def lateCallback : List Step :=
  [.launch, .start 0 5, .pidfdOpen 0 (.opened (.child 0)), .track 0 fun _ => .quiet, .exit 0 9, .launch, .start 0 5,
    .pidfdOpen 1 (.opened (.child 1)), .track 1 fun _ => .quiet, .callback 0]

theorem live_child_declared_dead :
    let s := lateCallback.foldl next {}
    (s.newest 5).map (fun child => (child.id, child.ended)) = some (1, none) ∧
      s.hasExited 5 .quiet = some true ∧ s.exitSignal 5 = some 9 := by
  decide

end ChromiumHmos.Launch.NativeChildren
