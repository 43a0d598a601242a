import ChromiumHmos.Lib.Ledger
import ChromiumHmos.Shell.WebNfc

set_option autoImplicit false

/-!
# Web NFC through a run

Every callback is called once and tags go to active watches in any run. That an answer reaches the operation
it was for needs that no operation is begun while one of its kind is still to be answered.
-/

namespace ChromiumHmos.Shell

open Transition Base Lib

namespace ShellNfc

def activate (ids : List Nat) : NfcEvent -> List Nat
  | .watch id => id :: ids
  | .cancelWatch id => ids.filter (· ≠ id)
  | _ => ids

theorem activeIn_eq (log : List NfcEvent) : activeIn log = log.foldl activate [] := by
  unfold activeIn
  congr 1

def TagsFrom : List Nat -> List NfcEvent -> Prop
  | _, [] => True
  | ids, event :: rest =>
    (forall told serialNumber message, event = .onWatch told serialNumber message ->
      forall id, id ∈ told -> id ∈ ids) ∧ TagsFrom (activate ids event) rest

theorem tagsFrom_append (ids : List Nat) (first second : List NfcEvent) :
    TagsFrom ids (first ++ second) ↔ TagsFrom ids first /\ TagsFrom (first.foldl activate ids) second := by
  induction first generalizing ids with
  | nil => simp [TagsFrom]
  | cons event rest ih => simp only [List.cons_append, TagsFrom, ih, List.foldl_cons, and_assoc]

variable {ids : List Nat}

theorem tagsFrom_report {before after : List NfcEvent} {told : List Nat}
    {serialNumber : Option String} {message : List NdefRecord}
    (tags : TagsFrom ids (before ++ .onWatch told serialNumber message :: after)) :
    ∀ id ∈ told, id ∈ before.foldl activate ids :=
  ((tagsFrom_append ids before _).mp tags).2.1 told serialNumber message rfl

def Plain : NfcEvent -> Prop
  | .watch _ | .cancelWatch _ | .onWatch _ _ _ => False
  | _ => True

theorem plain_active {events : List NfcEvent} (plain : ∀ event ∈ events, Plain event) (ids : List Nat) :
    events.foldl activate ids = ids /\ TagsFrom ids events := by
  induction events with
  | nil => exact ⟨rfl, trivial⟩
  | cons event rest ih =>
    have own := plain event List.mem_cons_self
    have later := ih fun other member => plain other (List.mem_cons_of_mem _ member)
    have same : activate ids event = ids := by cases event <;> first | rfl | exact own.elim
    refine ⟨by simpa [same] using later.1, fun told serialNumber message is => ?_, by simpa [same] using later.2⟩
    subst is
    exact own.elim

theorem endedBy_append (first second : List NfcEvent) : endedBy (first ++ second) = endedBy first ++ endedBy second :=
  List.filterMap_append

structure Sane (s : ShellNfc) : Prop where
  accounted : Accounted s.held (endedBy s.log) s.given
  quiet : s.watchIds = [] -> s.pendingWatches = [] ∧ s.scanStarted = false
  unstarted : s.pendingWatches ≠ [] -> s.scanStarted = false
  waits : s.watchIds ≠ [] -> s.scanStarted = false -> s.pendingWatches ≠ []
  ended : s.gone = true -> s.held = [] ∧ s.watchIds = []
  active : forall id, id ∈ s.watchIds -> id ∈ s.log.foldl activate []
  tags : TagsFrom [] s.log

theorem sane_initial : Sane {} where
  accounted := accounted_none
  quiet := fun _ => ⟨rfl, rfl⟩
  unstarted := fun waits => absurd rfl waits
  waits := fun watches => absurd rfl watches
  ended := fun gone => absurd gone Bool.false_ne_true
  active := fun _ member => absurd member List.not_mem_nil
  tags := trivial

variable {s : ShellNfc}

theorem Sane.logged (sane : Sane s) (events : List NfcEvent)
    (plain : ∀ event ∈ events, Plain event) (ids : List Nat) (fewer : ∀ id ∈ ids, id ∈ s.watchIds) :
    (∀ id ∈ ids, id ∈ (s.log ++ events).foldl activate []) /\ TagsFrom [] (s.log ++ events) := by
  obtain ⟨same, tags⟩ := plain_active plain (s.log.foldl activate [])
  refine ⟨fun id member => ?_, (tagsFrom_append [] _ _).mpr ⟨sane.tags, tags⟩⟩
  rw [List.foldl_append, same]
  exact sane.active id (fewer id member)

theorem Sane.dispatch (sane : Sane s) (event : NfcEvent) (plain : Plain event)
    (silent : event.ended = none) : Sane (s.dispatch event) := by
  have logged := sane.logged [event]
    (fun other member => List.mem_singleton.mp member ▸ plain) s.watchIds fun _ member => member
  refine ⟨?_, sane.quiet, sane.unstarted, sane.waits, sane.ended, logged.1, logged.2⟩
  have none_ended : endedBy [event] = [] := by simp [endedBy, silent]
  simpa [ShellNfc.dispatch, endedBy_append, none_ended, held] using sane.accounted

variable {told : Nat -> NfcEvent}

theorem Sane.finish (sane : Sane s) (ending : Option Nat)
    (tells : ∀ callback, (told callback).ended = some callback /\ Plain (told callback))
    {pushCallback readOnlyCallback : Option Nat}
    (front : s.held.Perm (ending.toList ++ { s with pushCallback, readOnlyCallback }.held)) :
    Sane { s with pushCallback, readOnlyCallback, log := s.log ++ (ending.map told).toList } := by
  have plain : ∀ event, event ∈ (ending.map told).toList -> Plain event := by
    intro event member
    obtain ⟨callback, -, rfl⟩ := Option.map_eq_some_iff.mp (Option.mem_toList.mp member)
    exact (tells callback).2
  have logged := sane.logged _ plain s.watchIds fun _ member => member
  have closed : endedBy (ending.map told).toList = ending.toList := by
    cases ending with
    | none => rfl
    | some callback => simp [endedBy, (tells callback).1]
  refine ⟨?_, sane.quiet, sane.unstarted, sane.waits, fun gone => ?_, logged.1, logged.2⟩
  · have called := (sane.accounted.congr front.symm).call _
    simpa [held, endedBy_append, closed] using called
  · rw [(sane.ended gone).1] at front
    exact ⟨(List.append_eq_nil_iff.mp front.nil_eq.symm).2, (sane.ended gone).2⟩

theorem finishWrite_sane (sane : Sane s)
    (tells : ∀ callback, (told callback).ended = some callback /\ Plain (told callback)) :
    Sane (s.finishWrite told) := by
  refine sane.finish s.pushCallback tells ?_
  simp only [held, Option.toList_none, List.append_nil]
  rw [<- List.append_assoc]
  exact List.perm_append_comm.append_right _

theorem finishReadOnly_sane (sane : Sane s)
    (tells : ∀ callback, (told callback).ended = some callback /\ Plain (told callback)) :
    Sane (s.finishReadOnly told) := by
  refine sane.finish s.readOnlyCallback tells ?_
  simp only [held, Option.toList_none, List.append_nil]
  exact List.perm_append_comm

theorem finishWatches_accounted (accounted : Accounted s.held (endedBy s.log) s.given)
    (told : Nat -> Nat -> NfcEvent) (tells : ∀ callback own, (told callback own).ended = some callback) :
    Accounted (s.finishWatches told).held (endedBy (s.finishWatches told).log) s.given := by
  have closed : endedBy (s.pendingWatches.map fun watch => told watch.1 watch.2) = s.pendingWatches.map Prod.fst := by
    induction s.pendingWatches with
    | nil => rfl
    | cons watch rest ih =>
      have first := tells watch.1 watch.2
      simpa [endedBy, first] using ih
  have front : s.held = s.pendingWatches.map Prod.fst ++ (s.pushCallback.toList ++ s.readOnlyCallback.toList) := by
    simp [held]
  rw [front] at accounted
  simpa [finishWatches, held, endedBy_append, closed] using accounted.call _

theorem finishWatches_plain (s : ShellNfc) (told : Nat -> Nat -> NfcEvent)
    (tells : ∀ callback own, Plain (told callback own)) :
    ∀ event ∈ (s.pendingWatches.map fun watch => told watch.1 watch.2), Plain event := by
  intro event member
  obtain ⟨watch, -, rfl⟩ := List.mem_map.mp member
  exact tells watch.1 watch.2

theorem ran_tells (error : Option NdefError) (callback : Nat) :
    (NfcEvent.ran callback error).ended = some callback /\ Plain (.ran callback error) := ⟨rfl, trivial⟩

variable {t : ShellNfc}

theorem give_sane (sane : Sane s) (alive : s.gone = false) (event : NfcEvent) (plain : Plain event)
    (silent : event.ended = none) (holds : t.held.Perm (s.given :: s.held)) (given : t.given = s.given + 1)
    (log : t.log = s.log ++ [event]) (watchIds : t.watchIds = s.watchIds)
    (pending : t.pendingWatches = s.pendingWatches) (started : t.scanStarted = s.scanStarted)
    (gone : t.gone = s.gone) : Sane t := by
  have logged := sane.logged [event]
    (fun other member => List.mem_singleton.mp member ▸ plain) s.watchIds fun _ member => member
  have none_ended : endedBy [event] = [] := by simp [endedBy, silent]
  refine ⟨?_, ?_, ?_, ?_, ?_, ?_, ?_⟩
  · rw [log, endedBy_append, none_ended, List.append_nil, given]
    exact sane.accounted.give.congr holds
  · rw [watchIds, pending, started]
    exact sane.quiet
  · rw [pending, started]
    exact sane.unstarted
  · rw [watchIds, pending, started]
    exact sane.waits
  · rw [gone, alive]
    exact fun no => absurd no Bool.false_ne_true
  · rw [watchIds, log]
    exact logged.1
  · rw [log]
    exact logged.2

theorem push_sane (sane : Sane s) (alive : s.gone = false) (message : List NdefRecord)
    (overwrite : Bool) : Sane (s.push message overwrite) := by
  have finished := finishWrite_sane sane (ran_tells (some newPush))
  refine give_sane finished alive (.nfcWrite s.given message overwrite) trivial rfl ?_ rfl rfl rfl rfl rfl rfl
  simp only [push, finishWrite, held, Option.toList, List.append_assoc, List.append_nil]
  exact List.perm_middle

theorem makeReadOnly_sane (sane : Sane s) (alive : s.gone = false) : Sane s.makeReadOnly := by
  have finished := finishReadOnly_sane sane (ran_tells (some newMakeReadOnly))
  refine give_sane finished alive (.nfcMakeReadOnly s.given) trivial rfl ?_ rfl rfl rfl rfl rfl rfl
  simp only [makeReadOnly, finishReadOnly, held, Option.toList, List.append_nil]
  exact List.perm_append_singleton _ _

theorem cancelPush_sane (sane : Sane s) : Sane s.cancelPush := by
  unfold cancelPush
  split
  · exact sane
  · exact (finishWrite_sane sane (ran_tells (some cancelled))).dispatch _ trivial rfl

theorem cancelMakeReadOnly_sane (sane : Sane s) : Sane s.cancelMakeReadOnly := by
  unfold cancelMakeReadOnly
  split
  · exact sane
  · exact (finishReadOnly_sane sane (ran_tells (some cancelled))).dispatch _ trivial rfl

theorem mem_insertId {id other : Nat} : other ∈ insertId id ids ↔ other = id \/ other ∈ ids := by
  unfold insertId
  split
  next inside => exact ⟨.inr, fun either => either.elim (fun same => same ▸ inside) fun member => member⟩
  · exact List.mem_orderedInsert _

theorem insertId_ne (id : Nat) (ids : List Nat) : insertId id ids ≠ [] :=
  List.ne_nil_of_mem (mem_insertId.mpr (.inl rfl))

theorem watched (sane : Sane s) (id : Nat) (events : List NfcEvent)
    (plain : ∀ event ∈ events, Plain event) :
    (∀ other, other ∈ insertId id s.watchIds -> other ∈ (s.log ++ .watch id :: events).foldl activate []) /\
      TagsFrom [] (s.log ++ .watch id :: events) := by
  obtain ⟨same, tags⟩ := plain_active plain (id :: s.log.foldl activate [])
  have made : (s.log ++ .watch id :: events).foldl activate [] = id :: s.log.foldl activate [] := by
    rw [List.foldl_append, List.foldl_cons]
    exact same
  refine ⟨fun other member => ?_, (tagsFrom_append [] _ _).mpr ⟨sane.tags, by simp, tags⟩⟩
  rw [made]
  rcases mem_insertId.mp member with rfl | before
  · exact List.mem_cons_self
  · exact List.mem_cons_of_mem _ (sane.active other before)

theorem watch_sane (sane : Sane s) (alive : s.gone = false) (id : Nat) : Sane (s.watch id) := by
  have living (t : ShellNfc) (same : t.gone = s.gone) : t.gone = true -> t.held = [] /\ t.watchIds = [] := by
    rw [same, alive]
    exact fun no => absurd no Bool.false_ne_true
  have some_watch := insertId_ne id s.watchIds
  unfold watch
  dsimp only
  split
  next started =>
    have settled := watched sane id [.ran s.given none] (by simp [Plain])
    refine ⟨?_, fun none_left => absurd none_left some_watch, sane.unstarted, fun _ no => absurd started (by simpa [dispatch] using no),
      living _ rfl, ?_, ?_⟩
    · have closed : endedBy [.watch id, .ran s.given none] = [s.given] := rfl
      simpa [dispatch, endedBy_append, closed, held, List.append_assoc] using sane.accounted.refuse
    · simpa [dispatch] using settled.1
    · simpa [dispatch] using settled.2
  next unstarted =>
    have off : s.scanStarted = false := by simpa using unstarted
    have holds (own : Nat) : ((s.pendingWatches ++ [(s.given, own)]).map Prod.fst ++ s.pushCallback.toList ++
        s.readOnlyCallback.toList).Perm (s.given :: s.held) := by
      simp only [held, List.map_append, List.map_cons, List.map_nil, List.append_assoc]
      exact List.perm_middle
    split
    next =>
      have settled := watched sane id [.nfcScanStart s.given] (by simp [Plain])
      refine ⟨?_, fun none_left => absurd none_left some_watch, fun _ => off, fun _ _ => by simp, living _ rfl, ?_, ?_⟩
      · have closed : endedBy [.watch id, .nfcScanStart s.given] = [] := rfl
        have after := sane.accounted.give.congr (holds s.given)
        simpa [endedBy_append, closed, held, List.append_assoc] using after
      · simpa using settled.1
      · simpa using settled.2
    next =>
      have settled := watched sane id [] (by simp)
      refine ⟨?_, fun none_left => absurd none_left some_watch, fun _ => off, fun _ _ => by simp, living _ rfl, ?_, ?_⟩
      · have closed : endedBy [.watch id] = [] := rfl
        have after := sane.accounted.give.congr (holds s.lastScan)
        simpa [endedBy_append, closed, held, List.append_assoc] using after
      · simpa using settled.1
      · simpa using settled.2

theorem unwatched (sane : Sane s) (id : Nat) :
    (∀ other, other ∈ s.watchIds.filter (· ≠ id) -> other ∈ (s.log ++ [NfcEvent.cancelWatch id]).foldl activate []) /\
      TagsFrom [] (s.log ++ [NfcEvent.cancelWatch id]) := by
  refine ⟨fun other member => ?_, (tagsFrom_append [] _ _).mpr ⟨sane.tags, by simp, trivial⟩⟩
  rw [List.foldl_append]
  obtain ⟨inside, apart⟩ := List.mem_filter.mp member
  exact List.mem_filter.mpr ⟨sane.active other inside, apart⟩

theorem cutOff_sane (accounted : Accounted s.held (endedBy s.log) s.given) (empty : s.watchIds = [])
    (off : s.scanStarted = false) (alive : s.gone = false) (tags : TagsFrom [] s.log) :
    Sane (s.finishWatches fun callback _ => .ran callback (some cancelled)) := by
  have told := finishWatches_accounted accounted (fun callback _ => .ran callback (some cancelled))
    fun _ _ => rfl
  have plain := finishWatches_plain s (fun callback _ => .ran callback (some cancelled))
    fun _ _ => trivial
  refine ⟨told, fun _ => ⟨rfl, off⟩, fun waits => absurd rfl waits, fun watches => absurd empty watches,
    fun gone => absurd (alive.symm.trans gone) Bool.false_ne_true, fun other member => ?_, ?_⟩
  · have none_left : other ∈ s.watchIds := member
    rw [empty] at none_left
    exact absurd none_left List.not_mem_nil
  · exact (tagsFrom_append [] _ _).mpr ⟨tags, (plain_active plain _).2⟩

theorem cancelWatch_sane (sane : Sane s) (alive : s.gone = false) (id : Nat) :
    Sane (s.cancelWatch id) := by
  have living (t : ShellNfc) (same : t.gone = s.gone) : t.gone = true -> t.held = [] /\ t.watchIds = [] := by
    rw [same, alive]
    exact fun no => absurd no Bool.false_ne_true
  have settled := unwatched sane id
  have closed : endedBy [.cancelWatch id] = [] := rfl
  have accounted : Accounted s.held (endedBy (s.log ++ [.cancelWatch id])) s.given := by
    simpa [endedBy_append, closed] using sane.accounted
  unfold cancelWatch
  split
  next => exact sane
  next there =>
    dsimp only
    split
    next empty =>
      exact (cutOff_sane (s := { s with watchIds := _, scanStarted := false, scanning := none, log := _ }) accounted empty rfl
        alive settled.2).dispatch _ trivial rfl
    next left =>
      have before : s.watchIds ≠ [] := fun none_there => left (by simp [none_there])
      exact ⟨accounted, fun none_left => absurd none_left left, sane.unstarted, fun _ => sane.waits before, living _ rfl,
        settled.1, settled.2⟩

theorem onScanStarted_sane (sane : Sane s) (alive : s.gone = false) (operation : Nat)
    (command : DictValue) : Sane (s.onScanStarted operation command) := by
  have living (t : ShellNfc) (same : t.gone = s.gone) : t.gone = true -> t.held = [] /\ t.watchIds = [] := by
    rw [same, alive]
    exact fun no => absurd no Bool.false_ne_true
  unfold onScanStarted
  split
  next => exact sane
  next waiting =>
    split
    next error _ =>
      have told := finishWatches_accounted (s := { s with watchIds := [] }) sane.accounted
        (fun callback own => .answered callback own operation (some error)) fun _ _ => rfl
      have plain := finishWatches_plain s
        (fun callback own => .answered callback own operation (some error)) fun _ _ => trivial
      have logged := sane.logged _ plain [] fun _ member => absurd member List.not_mem_nil
      exact ⟨told, fun _ => ⟨rfl, sane.unstarted waiting⟩, fun waits => absurd rfl waits,
        fun watches => absurd rfl watches, living _ rfl, logged.1, logged.2⟩
    next =>
      have told := finishWatches_accounted (s := { s with scanStarted := true }) sane.accounted
        (fun callback own => .answered callback own operation none) fun _ _ => rfl
      have plain := finishWatches_plain s
        (fun callback own => .answered callback own operation none) fun _ _ => trivial
      have logged := sane.logged _ plain s.watchIds fun _ member => member
      exact ⟨told, fun none_left => absurd (sane.quiet none_left).1 waiting, fun waits => absurd rfl waits,
        fun _ off => absurd off (by simp [finishWatches]), living _ rfl, logged.1, logged.2⟩

theorem onTagRead_sane (sane : Sane s) (command : DictValue) : Sane (s.onTagRead command) := by
  unfold onTagRead
  split
  next => exact sane
  next =>
    split
    next => exact sane.dispatch _ trivial rfl
    next message _ =>
      have closed : endedBy [.onWatch s.watchIds (command.findString "serialNumber") message] = [] := rfl
      refine ⟨?_, sane.quiet, sane.unstarted, sane.waits, sane.ended, fun id member => ?_, ?_⟩
      · simpa [dispatch, endedBy_append, closed, held] using sane.accounted
      · simpa [dispatch, activate] using sane.active id member
      · refine (tagsFrom_append [] _ _).mpr ⟨sane.tags, fun told serialNumber read same => ?_, trivial⟩
        obtain ⟨rfl, -, -⟩ := NfcEvent.onWatch.inj same
        exact sane.active

theorem onWriteResult_sane (sane : Sane s) (operation : Nat) (command : DictValue) :
    Sane (s.onWriteResult operation command) := by
  unfold onWriteResult
  split
  · exact finishReadOnly_sane sane fun _ => ⟨rfl, trivial⟩
  · exact finishWrite_sane sane fun _ => ⟨rfl, trivial⟩

theorem Sane.beside (sane : Sane s) (held : t.held = s.held) (log : t.log = s.log)
    (given : t.given = s.given) (watchIds : t.watchIds = s.watchIds) (pending : t.pendingWatches = s.pendingWatches)
    (started : t.scanStarted = s.scanStarted) (gone : t.gone = s.gone) : Sane t where
  accounted := by rw [held, log, given]; exact sane.accounted
  quiet := by rw [watchIds, pending, started]; exact sane.quiet
  unstarted := by rw [pending, started]; exact sane.unstarted
  waits := by rw [watchIds, pending, started]; exact sane.waits
  ended := by rw [held, watchIds, gone]; exact sane.ended
  active := by rw [watchIds, log]; exact sane.active
  tags := by rw [log]; exact sane.tags

theorem scanResult_sane (sane : Sane s) (kind : NfcOperation) (operation : Nat) (command : DictValue) :
    Sane ((s.settle kind).scanResult operation command) := by
  unfold scanResult
  split <;> exact sane.beside rfl rfl rfl rfl rfl rfl rfl

theorem destroy_sane (sane : Sane s) (alive : s.gone = false) : Sane s.destroy := by
  have start (t : ShellNfc) (before : Sane t) (there : t.gone = false) :
      Sane ((({ t with watchIds := [], scanStarted := false }.finishWatches fun callback _ =>
        .ran callback (some cancelled)).finishWrite fun callback =>
          .ran callback (some cancelled)).finishReadOnly fun callback => .ran callback (some cancelled)) := by
    have cut := cutOff_sane (s := { t with watchIds := [], scanStarted := false }) before.accounted rfl rfl there
      before.tags
    exact finishReadOnly_sane (finishWrite_sane cut (ran_tells _)) (ran_tells _)
  unfold destroy
  dsimp only
  split
  next =>
    have last := start s sane alive
    exact ⟨last.accounted, last.quiet, last.unstarted, last.waits, fun _ => ⟨rfl, rfl⟩, last.active, last.tags⟩
  next =>
    have stopped : Sane { s.dispatch .nfcScanStop with scanning := none } :=
      (sane.dispatch .nfcScanStop trivial rfl).beside rfl rfl rfl rfl rfl rfl rfl
    have last := start _ stopped alive
    exact ⟨last.accounted, last.quiet, last.unstarted, last.waits, fun _ => ⟨rfl, rfl⟩, last.active, last.tags⟩

theorem next_sane (sane : Sane s) (step : Step) (allowed : Allowed s step) : Sane (s.next step) := by
  cases step with
  | setClient => exact sane.beside rfl rfl rfl rfl rfl rfl rfl
  | push message overwrite => exact push_sane sane allowed message overwrite
  | cancelPush => exact cancelPush_sane sane
  | makeReadOnly => exact makeReadOnly_sane sane allowed
  | cancelMakeReadOnly => exact cancelMakeReadOnly_sane sane
  | watch id => exact watch_sane sane allowed id
  | cancelWatch id => exact cancelWatch_sane sane allowed id
  | destroy => exact destroy_sane sane allowed
  | nfcScanStarted command =>
    simp only [next]
    split
    next => exact sane
    next operation _ =>
      have told := scanResult_sane sane .scan operation command
      split
      next => exact told
      next alive =>
        have there : ((s.settle .scan).scanResult operation command).gone = s.gone := by
          unfold scanResult
          split <;> rfl
        exact onScanStarted_sane told (there.trans (by simpa using alive)) operation command
  | nfcWriteResult command =>
    simp only [next]
    split
    next => exact sane
    next operation _ =>
      have told : Sane (s.settle (resultKind command)) := sane.beside rfl rfl rfl rfl rfl rfl rfl
      split
      next => exact told
      next => exact onWriteResult_sane told operation command
  | nfcTagRead command =>
    simp only [next]
    split
    next => exact sane
    next => exact onTagRead_sane sane command
  | nfcError command =>
    simp only [next]
    split
    next => exact sane
    next =>
      unfold onError
      split
      · exact sane.dispatch _ trivial rfl
      · exact sane

def owedOf (s : ShellNfc) (kind : NfcOperation) : List Nat := (s.owed.filter fun entry => entry.1 = kind).map Prod.snd

theorem nextOwed_eq (s : ShellNfc) (kind : NfcOperation) : s.nextOwed kind = (s.owedOf kind).head? := by
  simp [nextOwed, owedOf, List.head?_map, List.head?_filter]

variable {kind : NfcOperation}

theorem nothing_owed (idle : s.nextOwed kind = none) : s.owedOf kind = [] := by
  rw [nextOwed_eq] at idle
  exact List.head?_eq_none_iff.mp idle

theorem filter_eraseP_same (owed : List (NfcOperation × Nat)) (kind : NfcOperation) :
    (owed.eraseP fun entry => entry.1 = kind).filter (fun entry => entry.1 = kind) =
      (owed.filter fun entry => entry.1 = kind).tail := by
  induction owed with
  | nil => rfl
  | cons entry rest ih =>
    by_cases same : entry.1 = kind
    · simp [same]
    · simpa [List.eraseP_cons_of_neg, same] using ih

variable {other : NfcOperation}

theorem filter_eraseP_other (owed : List (NfcOperation × Nat)) (apart : other ≠ kind) :
    (owed.eraseP fun entry => entry.1 = kind).filter (fun entry => entry.1 = other) =
      owed.filter fun entry => entry.1 = other := by
  induction owed with
  | nil => rfl
  | cons entry rest ih =>
    by_cases same : entry.1 = kind
    · have missed : entry.1 ≠ other := fun is => apart (is.symm.trans same)
      simp [same, Ne.symm apart]
    · simp [List.eraseP_cons_of_neg, same, List.filter_cons, ih]

theorem owedOf_settle_same (s : ShellNfc) (kind : NfcOperation) :
    (s.settle kind).owedOf kind = (s.owedOf kind).tail := by
  simp only [owedOf, settle, filter_eraseP_same, List.map_tail]

theorem owedOf_settle_other (s : ShellNfc) (apart : other ≠ kind) :
    (s.settle kind).owedOf other = s.owedOf other := by
  simp only [owedOf, settle, filter_eraseP_other s.owed apart]

variable {operation : Nat}

theorem owedOf_snoc
    (owed : t.owed = s.owed ++ [(kind, operation)]) (other : NfcOperation) :
    t.owedOf other = s.owedOf other ++ if kind = other then [operation] else [] := by
  by_cases same : kind = other
  · simp [owedOf, owed, same]
  · simp [owedOf, owed, same]

/-- What the log says was answered is answered to its own operation. -/
def OwnIn (log : List NfcEvent) : Prop :=
  forall callback own operation error, .answered callback own operation error ∈ log -> own = operation

theorem ownIn_append {first second : List NfcEvent} (left : OwnIn first) (right : OwnIn second) :
    OwnIn (first ++ second) := by
  intro callback own operation error member
  rcases List.mem_append.mp member with early | late
  · exact left callback own operation error early
  · exact right callback own operation error late

variable {event : NfcEvent}

theorem ownIn_single (not_answer : ∀ callback own operation error,
    event ≠ .answered callback own operation error) : OwnIn [event] :=
  fun callback own operation error member =>
    absurd (List.mem_singleton.mp member).symm (not_answer callback own operation error)

theorem ownIn_ran (callbacks : List Nat) (error : Option NdefError) :
    OwnIn (callbacks.map fun callback => .ran callback error) := by
  intro callback own operation told member
  obtain ⟨other, -, same⟩ := List.mem_map.mp member
  exact absurd same (by simp)

structure Matched (s : ShellNfc) : Prop where
  push : forall callback, s.pushCallback = some callback -> s.owedOf .push = [callback]
  readOnly : forall callback, s.readOnlyCallback = some callback -> s.owedOf .makeReadOnly = [callback]
  waiting : s.pendingWatches ≠ [] -> exists scan, s.owedOf .scan = [scan] ∧ s.scanning = some scan ∧
    forall watch, watch ∈ s.pendingWatches -> watch.2 = scan
  running : s.pendingWatches = [] -> s.watchIds ≠ [] -> s.owedOf .scan = []
  reading : s.watchIds ≠ [] ↔ s.scanning.isSome
  last : forall scan, s.scanning = some scan -> s.lastScan = scan
  own : OwnIn s.log

theorem matched_initial : Matched {} where
  push := fun _ given => absurd given (by simp)
  readOnly := fun _ given => absurd given (by simp)
  waiting := fun waits => absurd rfl waits
  running := fun _ watches => absurd rfl watches
  reading := by simp
  last := fun _ scan => absurd scan (by simp)
  own := fun _ _ _ _ member => absurd member List.not_mem_nil

theorem Matched.dispatch (matched : Matched s)
    (not_answer : ∀ callback own operation error, event ≠ .answered callback own operation error) :
    Matched (s.dispatch event) :=
  ⟨matched.push, matched.readOnly, matched.waiting, matched.running, matched.reading, matched.last,
    ownIn_append matched.own (ownIn_single not_answer)⟩

theorem finishWrite_matched (matched : Matched s)
    (own : OwnIn (s.pushCallback.map told).toList) : Matched (s.finishWrite told) :=
  ⟨fun _ given => absurd given (by simp [finishWrite]), matched.readOnly, matched.waiting, matched.running,
    matched.reading, matched.last, ownIn_append matched.own own⟩

theorem finishReadOnly_matched (matched : Matched s)
    (own : OwnIn (s.readOnlyCallback.map told).toList) : Matched (s.finishReadOnly told) :=
  ⟨matched.push, fun _ given => absurd given (by simp [finishReadOnly]), matched.waiting, matched.running,
    matched.reading, matched.last, ownIn_append matched.own own⟩

theorem ownIn_told (callback : Option Nat) (error : Option NdefError) :
    OwnIn (callback.map fun callback => .ran callback error).toList := by
  cases callback with
  | none => exact fun _ _ _ _ member => absurd member List.not_mem_nil
  | some callback => exact ownIn_ran [callback] error

theorem push_matched (matched : Matched s) (idle : s.nextOwed .push = none)
    (message : List NdefRecord) (overwrite : Bool) : Matched (s.push message overwrite) := by
  have finished := finishWrite_matched matched (ownIn_told s.pushCallback (some newPush))
  have owed (kind : NfcOperation) := owedOf_snoc (s := s) (t := s.push message overwrite) rfl kind
  have others (kind : NfcOperation) (apart : NfcOperation.push ≠ kind) :
      (s.push message overwrite).owedOf kind = s.owedOf kind := by simpa [apart] using owed kind
  refine ⟨fun callback given => ?_, fun callback given => ?_, fun waits => ?_, fun none_wait watches => ?_,
    finished.reading, finished.last, ?_⟩
  · obtain rfl := Option.some.inj given
    simpa [nothing_owed idle] using owed .push
  · rw [others .makeReadOnly (by simp)]
    exact matched.readOnly callback given
  · rw [others .scan (by simp)]
    exact matched.waiting waits
  · rw [others .scan (by simp)]
    exact matched.running none_wait watches
  · exact ownIn_append finished.own (ownIn_single (by simp))

theorem makeReadOnly_matched (matched : Matched s) (idle : s.nextOwed .makeReadOnly = none) :
    Matched s.makeReadOnly := by
  have finished := finishReadOnly_matched matched (ownIn_told s.readOnlyCallback (some newMakeReadOnly))
  have owed (kind : NfcOperation) := owedOf_snoc (s := s) (t := s.makeReadOnly) rfl kind
  have others (kind : NfcOperation) (apart : NfcOperation.makeReadOnly ≠ kind) :
      s.makeReadOnly.owedOf kind = s.owedOf kind := by simpa [apart] using owed kind
  refine ⟨fun callback given => ?_, fun callback given => ?_, fun waits => ?_, fun none_wait watches => ?_,
    finished.reading, finished.last, ?_⟩
  · rw [others .push (by simp)]
    exact matched.push callback given
  · obtain rfl := Option.some.inj given
    simpa [nothing_owed idle] using owed .makeReadOnly
  · rw [others .scan (by simp)]
    exact matched.waiting waits
  · rw [others .scan (by simp)]
    exact matched.running none_wait watches
  · exact ownIn_append finished.own (ownIn_single (by simp))

theorem cancelPush_matched (matched : Matched s) : Matched s.cancelPush := by
  unfold cancelPush
  split
  · exact matched
  · exact (finishWrite_matched matched (ownIn_told _ _)).dispatch (by simp)

theorem cancelMakeReadOnly_matched (matched : Matched s) : Matched s.cancelMakeReadOnly := by
  unfold cancelMakeReadOnly
  split
  · exact matched
  · exact (finishReadOnly_matched matched (ownIn_told _ _)).dispatch (by simp)

theorem watch_matched (sane : Sane s) (matched : Matched s) (id : Nat)
    (idle : s.watchIds = [] -> s.nextOwed .scan = none) : Matched (s.watch id) := by
  have some_watch := insertId_ne id s.watchIds
  have asked : OwnIn (s.log ++ [.watch id]) := ownIn_append matched.own (ownIn_single (by simp))
  unfold watch
  dsimp only
  split
  next started =>
    have watches : s.watchIds ≠ [] := fun none_there =>
      absurd ((sane.quiet none_there).2.symm.trans started) Bool.false_ne_true
    refine ⟨matched.push, matched.readOnly, matched.waiting, fun none_wait _ => matched.running none_wait watches,
      ?_, matched.last, ownIn_append asked (ownIn_single (by simp))⟩
    exact iff_of_true some_watch (matched.reading.mp watches)
  next unstarted =>
    split
    next none_there =>
      have owed (kind : NfcOperation) (t : ShellNfc) (same : t.owed = s.owed ++ [(.scan, s.given)]) :=
        owedOf_snoc same kind
      refine ⟨fun callback given => ?_, fun callback given => ?_, fun _ => ⟨s.given, ?_, rfl, ?_⟩,
        fun none_wait _ => absurd none_wait (by simp), by simp [some_watch], fun scan same => by simpa using same, ?_⟩
      · rw [owed .push _ rfl]
        simpa using matched.push callback given
      · rw [owed .makeReadOnly _ rfl]
        simpa using matched.readOnly callback given
      · rw [owed .scan _ rfl]
        simp [nothing_owed (idle none_there)]
      · intro watch member
        have none_waited : s.pendingWatches = [] := (sane.quiet none_there).1
        rw [none_waited] at member
        obtain rfl := List.mem_singleton.mp member
        rfl
      · exact ownIn_append asked (ownIn_single (by simp))
    next there =>
      have waits := sane.waits there (by simpa using unstarted)
      obtain ⟨scan, owed, scanning, all⟩ := matched.waiting waits
      refine ⟨matched.push, matched.readOnly, fun _ => ⟨scan, owed, scanning, ?_⟩,
        fun none_wait _ => absurd none_wait (by simp), ?_, matched.last, asked⟩
      · intro watch member
        rcases List.mem_append.mp member with before | new
        · exact all watch before
        · obtain rfl := List.mem_singleton.mp new
          exact matched.last scan scanning
      · exact iff_of_true some_watch (matched.reading.mp there)

theorem cutOff_matched (matched : Matched s) {scanning : Option Nat}
    {log : List NfcEvent} (own : OwnIn log) (empty : ids = []) (stopped : scanning = none) :
    Matched ({ s with watchIds := ids, scanStarted := false, scanning, log }.finishWatches fun callback _ =>
      .ran callback (some cancelled)) := by
  subst empty stopped
  refine ⟨matched.push, matched.readOnly, fun waits => absurd rfl waits, fun _ watches => absurd rfl watches,
    by simp [finishWatches], fun _ same => absurd same (by simp [finishWatches]), ownIn_append own ?_⟩
  have told := ownIn_ran (s.pendingWatches.map Prod.fst) (some cancelled)
  rwa [List.map_map] at told

theorem cancelWatch_matched (matched : Matched s) (id : Nat) : Matched (s.cancelWatch id) := by
  have asked : OwnIn (s.log ++ [.cancelWatch id]) := ownIn_append matched.own (ownIn_single (by simp))
  unfold cancelWatch
  split
  next => exact matched
  next =>
    dsimp only
    split
    next empty => exact (cutOff_matched matched asked empty rfl).dispatch (by simp)
    next left =>
      have before : s.watchIds ≠ [] := fun none_there => left (by simp [none_there])
      refine ⟨matched.push, matched.readOnly, matched.waiting, fun none_wait _ => matched.running none_wait before,
        ?_, matched.last, asked⟩
      exact iff_of_true left (matched.reading.mp before)

theorem settle_push (matched : Matched s) :
    ∀ callback, s.pushCallback = some callback -> (s.settle .scan).owedOf .push = [callback] := by
  rw [owedOf_settle_other s (by simp)]
  exact matched.push

theorem settle_readOnly (matched : Matched s) :
    ∀ callback, s.readOnlyCallback = some callback -> (s.settle .scan).owedOf .makeReadOnly = [callback] := by
  rw [owedOf_settle_other s (by simp)]
  exact matched.readOnly

theorem ownIn_answered (watches : List (Nat × Nat)) (error : Option NdefError)
    (all : ∀ watch ∈ watches, watch.2 = operation) :
    OwnIn (watches.map fun watch => .answered watch.1 watch.2 operation error) := by
  intro callback own other told member
  obtain ⟨watch, inside, same⟩ := List.mem_map.mp member
  obtain ⟨-, rfl, rfl, -⟩ := NfcEvent.answered.inj same
  exact all watch inside

theorem scanStarted_matched (matched : Matched s)
    (next : s.nextOwed .scan = some operation) (command : DictValue) :
    Matched (((s.settle .scan).scanResult operation command).onScanStarted operation command) := by
  rw [nextOwed_eq] at next
  by_cases none_wait : s.pendingWatches = []
  · have none_watch : s.watchIds = [] := by
      by_contra watches
      rw [matched.running none_wait watches] at next
      exact absurd next (by simp)
    have none_scan : s.scanning = none := by
      by_contra scans
      exact matched.reading.mpr (Option.isSome_iff_ne_none.mpr scans) none_watch
    have made : ((s.settle .scan).scanResult operation command).onScanStarted operation command = s.settle .scan := by
      simp [scanResult, onScanStarted, settle, none_scan, none_wait]
    rw [made]
    exact ⟨settle_push matched, settle_readOnly matched, fun waits => absurd none_wait waits,
      fun _ watches => absurd none_watch watches, matched.reading, matched.last, matched.own⟩
  · obtain ⟨scan, owed, scanning, all⟩ := matched.waiting none_wait
    rw [owed] at next
    obtain rfl : scan = operation := Option.some.inj next
    have settled : (s.settle .scan).owedOf .scan = [] := by rw [owedOf_settle_same, owed]; rfl
    have watches : s.watchIds ≠ [] := matched.reading.mpr (by simp [scanning])
    rcases outcome : errorIn command with _ | error
    · have made : ((s.settle .scan).scanResult scan command).onScanStarted scan command =
          { s.settle .scan with scanStarted := true }.finishWatches fun callback own =>
            .answered callback own scan none := by
        simp [scanResult, onScanStarted, settle, none_wait, outcome]
      rw [made]
      exact ⟨settle_push matched, settle_readOnly matched, fun waits => absurd rfl waits, fun _ _ => settled,
        matched.reading, matched.last, ownIn_append matched.own (ownIn_answered _ none all)⟩
    · have made : ((s.settle .scan).scanResult scan command).onScanStarted scan command =
          { s.settle .scan with scanning := none, watchIds := [] }.finishWatches fun callback own =>
            .answered callback own scan (some error) := by
        simp [scanResult, onScanStarted, settle, none_wait, outcome, scanning]
      rw [made]
      exact ⟨settle_push matched, settle_readOnly matched, fun waits => absurd rfl waits,
        fun _ watches => absurd rfl watches, by simp [finishWatches], fun _ same => absurd same (by simp [finishWatches]),
        ownIn_append matched.own (ownIn_answered _ (some error) all)⟩

theorem settle_result (matched : Matched s) (kind : NfcOperation) (apart : kind ≠ .scan)
    (push : kind = .push -> s.pushCallback = none) (readOnly : kind = .makeReadOnly -> s.readOnlyCallback = none) :
    Matched (s.settle kind) := by
  refine ⟨fun callback given => ?_, fun callback given => ?_, ?_, ?_, matched.reading, matched.last, matched.own⟩
  · have other : NfcOperation.push ≠ kind := fun same =>
      absurd (given.symm.trans (push same.symm)) (by simp)
    rw [owedOf_settle_other s other]
    exact matched.push callback given
  · have other : NfcOperation.makeReadOnly ≠ kind := fun same =>
      absurd (given.symm.trans (readOnly same.symm)) (by simp)
    rw [owedOf_settle_other s other]
    exact matched.readOnly callback given
  · rw [owedOf_settle_other s (Ne.symm apart)]
    exact matched.waiting
  · rw [owedOf_settle_other s (Ne.symm apart)]
    exact matched.running

theorem writeResult_matched (matched : Matched s) (command : DictValue)
    (next : s.nextOwed (resultKind command) = some operation) :
    Matched ((s.settle (resultKind command)).onWriteResult operation command) := by
  rw [nextOwed_eq] at next
  by_cases readOnly : resultKind command = .makeReadOnly
  · rw [readOnly] at next
    have made : (s.settle (resultKind command)).onWriteResult operation command =
        (s.finishReadOnly fun callback => .answered callback callback operation (errorIn command)).settle
          .makeReadOnly := by
      simp [onWriteResult, readOnly, settle, finishReadOnly]
    rw [made]
    refine settle_result (finishReadOnly_matched matched ?_) .makeReadOnly (by simp) (by simp) fun _ => rfl
    rcases waits : s.readOnlyCallback with _ | callback
    · exact fun _ _ _ _ member => absurd member List.not_mem_nil
    · rw [matched.readOnly callback waits] at next
      obtain rfl : callback = operation := Option.some.inj next
      exact ownIn_answered [(callback, callback)] _ fun watch member => by
        rw [List.mem_singleton.mp member]
  · have push : resultKind command = .push := by
      unfold resultKind at readOnly ⊢
      split at readOnly
      · exact absurd rfl readOnly
      · simp_all
    rw [push] at next
    have made : (s.settle (resultKind command)).onWriteResult operation command =
        (s.finishWrite fun callback => .answered callback callback operation (errorIn command)).settle .push := by
      simp [onWriteResult, push, settle, finishWrite]
    rw [made]
    refine settle_result (finishWrite_matched matched ?_) .push (by simp) (fun _ => rfl) (by simp)
    rcases waits : s.pushCallback with _ | callback
    · exact fun _ _ _ _ member => absurd member List.not_mem_nil
    · rw [matched.push callback waits] at next
      obtain rfl : callback = operation := Option.some.inj next
      exact ownIn_answered [(callback, callback)] _ fun watch member => by
        rw [List.mem_singleton.mp member]

theorem destroy_matched (matched : Matched s) : Matched s.destroy := by
  have last (scanning : Option Nat) (log : List NfcEvent) (own : OwnIn log) (stopped : scanning = none) :
      Matched ((({ s with watchIds := [], scanStarted := false, scanning, log }.finishWatches fun callback _ =>
        .ran callback (some cancelled)).finishWrite fun callback =>
          .ran callback (some cancelled)).finishReadOnly fun callback => .ran callback (some cancelled)) :=
    finishReadOnly_matched (finishWrite_matched (cutOff_matched matched own rfl stopped) (ownIn_told _ _))
      (ownIn_told _ _)
  unfold destroy
  dsimp only
  split
  next none_watch =>
    have none_scan : s.scanning = none := by
      by_contra scans
      exact matched.reading.mpr (Option.isSome_iff_ne_none.mpr scans) none_watch
    have done := last s.scanning s.log matched.own none_scan
    exact ⟨done.push, done.readOnly, done.waiting, done.running, done.reading, done.last, done.own⟩
  next =>
    have done := last none (s.log ++ [.nfcScanStop]) (ownIn_append matched.own (ownIn_single (by simp))) rfl
    exact ⟨done.push, done.readOnly, done.waiting, done.running, done.reading, done.last, done.own⟩

theorem ended_parts (sane : Sane s) (gone : s.gone = true) :
    s.pendingWatches = [] /\ s.pushCallback = none /\ s.readOnlyCallback = none /\ s.watchIds = [] := by
  obtain ⟨none_held, none_watch⟩ := sane.ended gone
  have parts : s.pendingWatches = [] /\ s.pushCallback = none /\ s.readOnlyCallback = none := by
    simpa [held] using none_held
  exact ⟨parts.1, parts.2.1, parts.2.2, none_watch⟩

theorem next_matched (sane : Sane s) (matched : Matched s) (step : Step) (careful : Careful s step) :
    Matched (s.next step) := by
  cases step with
  | setClient =>
    exact ⟨matched.push, matched.readOnly, matched.waiting, matched.running, matched.reading, matched.last, matched.own⟩
  | push message overwrite => exact push_matched matched careful message overwrite
  | cancelPush => exact cancelPush_matched matched
  | makeReadOnly => exact makeReadOnly_matched matched careful
  | cancelMakeReadOnly => exact cancelMakeReadOnly_matched matched
  | watch id => exact watch_matched sane matched id careful
  | cancelWatch id => exact cancelWatch_matched matched id
  | destroy => exact destroy_matched matched
  | nfcScanStarted command =>
    simp only [next]
    split
    next => exact matched
    next operation owed =>
      have told := scanStarted_matched matched owed command
      split
      next gone =>
        obtain ⟨none_wait, -⟩ := ended_parts sane gone
        have idle : ((s.settle .scan).scanResult operation command).pendingWatches = [] := by
          unfold scanResult
          split <;> exact none_wait
        have same : ((s.settle .scan).scanResult operation command).onScanStarted operation command =
            (s.settle .scan).scanResult operation command := by
          simp [onScanStarted, idle]
        exact same ▸ told
      next => exact told
  | nfcWriteResult command =>
    simp only [next]
    split
    next => exact matched
    next operation owed =>
      split
      next gone =>
        obtain ⟨-, none_push, none_readOnly, -⟩ := ended_parts sane gone
        refine settle_result matched _ ?_ (fun _ => none_push) fun _ => none_readOnly
        unfold resultKind
        split <;> simp
      next => exact writeResult_matched matched command owed
  | nfcTagRead command =>
    simp only [next, onTagRead]
    split
    next => exact matched
    next =>
      split
      next => exact matched
      next => split <;> exact matched.dispatch (by simp)
  | nfcError command =>
    simp only [next, onError]
    split
    next => exact matched
    next =>
      split
      · exact matched.dispatch (by simp)
      · exact matched

theorem cancelPush_others (s : ShellNfc) : s.cancelPush.readOnlyCallback = s.readOnlyCallback /\
    s.cancelPush.pendingWatches = s.pendingWatches /\ s.cancelPush.watchIds = s.watchIds := by
  unfold cancelPush
  split <;> exact ⟨rfl, rfl, rfl⟩

theorem cancelMakeReadOnly_others (s : ShellNfc) : s.cancelMakeReadOnly.pushCallback = s.pushCallback /\
    s.cancelMakeReadOnly.pendingWatches = s.pendingWatches /\ s.cancelMakeReadOnly.watchIds = s.watchIds := by
  unfold cancelMakeReadOnly
  split <;> exact ⟨rfl, rfl, rfl⟩

theorem cancelWatch_others (s : ShellNfc) (id : Nat) : (s.cancelWatch id).pushCallback = s.pushCallback /\
    (s.cancelWatch id).readOnlyCallback = s.readOnlyCallback := by
  unfold cancelWatch
  split
  · exact ⟨rfl, rfl⟩
  · dsimp only
    split <;> exact ⟨rfl, rfl⟩

end ShellNfc

namespace NfcSessions

variable {sessions : NfcSessions}

theorem next_at {P : ShellNfc -> Prop} (step : Step) (initial : P {})
    (each : ∀ session s inner, sessions session = some s -> step = .atSession session inner -> P s -> P (s.next inner))
    (before : ∀ session s, sessions session = some s -> P s) :
    ∀ session s, sessions.next step session = some s -> P s := by
  intro other s found
  cases step with
  | bindAuraShellNfc session =>
    by_cases same : other = session
    · subst same
      have made : ({} : ShellNfc) = s := by simpa [next] using found
      exact made ▸ initial
    · exact before other s (by simpa [next, Function.update_of_ne same] using found)
  | atSession session inner =>
    rcases there : sessions session with _ | t
    · exact before other s (by simpa [next, there] using found)
    by_cases same : other = session
    · subst same
      have made : t.next inner = s := by simpa [next, there] using found
      exact made ▸ each other t inner there rfl (before other t there)
    · exact before other s (by simpa [next, there, Function.update_of_ne same] using found)

theorem next_sane (step : Step)
    (before : ∀ session s, sessions session = some s -> s.Sane) (allowed : Allowed sessions step) :
    ∀ session s, sessions.next step session = some s -> s.Sane := by
  refine next_at step ShellNfc.sane_initial (fun session s inner found is sane => ?_) before
  subst is
  obtain ⟨there, same, may⟩ := allowed
  obtain rfl := Option.some.inj (same.symm.trans found)
  exact ShellNfc.next_sane sane inner may

variable {steps : List Step}

theorem sane_run (run : Follows Allowed next sessions steps)
    (before : ∀ session s, sessions session = some s -> s.Sane) :
    ∀ session s, steps.foldl next sessions session = some s -> s.Sane := by
  induction steps generalizing sessions with
  | nil => exact before
  | cons step rest ih => exact ih run.2 (next_sane step before run.1)

theorem matched_run (run : Follows Allowed next sessions steps)
    (careful : Follows Careful next sessions steps)
    (before : ∀ session s, sessions session = some s -> s.Sane)
    (matched : ∀ session s, sessions session = some s -> s.Matched) :
    ∀ session s, steps.foldl next sessions session = some s -> s.Matched := by
  induction steps generalizing sessions with
  | nil => exact matched
  | cons step rest ih =>
    refine ih run.2 careful.2 (next_sane step before run.1) ?_
    refine next_at step ShellNfc.matched_initial (fun session s inner found is own => ?_) matched
    subst is
    exact ShellNfc.next_matched (before session s found) own inner (careful.1 s found)

/-- What the callbacks were told with the shell's answers: callback, own operation, operation answered. -/
def answersIn (log : List NfcEvent) : List (Nat × Nat × Nat × Option NdefError) :=
  log.filterMap fun event =>
    match event with
    | .answered callback own operation error => some (callback, own, operation, error)
    | _ => none

def scanAndWrite : List Step :=
  [.bindAuraShellNfc 1, .atSession 1 (.watch 7), .atSession 1 (.nfcScanStarted []), .atSession 1 (.push [] true),
   .atSession 1 (.nfcWriteResult [("nfcOperation", .string "push")])]

def written : ShellNfc where
  watchIds := [7]
  scanStarted := true
  given := 2
  scanning := some 0
  log := [.watch 7, .nfcScanStart 0, .answered 0 0 0 none, .nfcWrite 1 [] true, .answered 1 1 1 none]

/-- A write is cancelled and another begun before the shell has answered the first. -/
def writeAgain : List Step :=
  [.bindAuraShellNfc 1, .atSession 1 (.push [] true), .atSession 1 .cancelPush, .atSession 1 (.push [] false),
   .atSession 1 (.nfcWriteResult [("nfcOperation", .string "push")])]

end NfcSessions

end ChromiumHmos.Shell
