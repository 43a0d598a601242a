import ChromiumHmos.Lib.Transition
import ChromiumHmos.AuraShell.InputRouter

set_option autoImplicit false

/-!
# One copy of each event

Two sources report the same physical events, each in their order. As long as no record still waiting
for its copy goes by its age, one report of each event is passed on, in the events' order.
-/

namespace ChromiumHmos.AuraShell

open Base Lib Transition

/-- What a source says of one physical event. -/
inductive Reading
  | key (action keyCode : Int)
  | mouse (action pointerId button : Int) (x y : Rat)

def Reading.keyReport (name : String) : Reading -> Option KeyReport
  | .key action keyCode => some { dispatchSource := name, action := action, keyCode := keyCode }
  | .mouse .. => none

def Reading.pointerReport (name : String) : Reading -> Option PointerReport
  | .key .. => none
  | .mouse action pointerId button x y => some
      { pointerType := "mouse", dispatchSource := name, action := action, pointerId := pointerId
        button := button, x := x, y := y }

/-- The two readings of one event: only a release's button, and the position, may differ. -/
def Reading.Alike : Reading -> Reading -> Prop
  | .key action keyCode, .key action' keyCode' => action = action' ∧ keyCode = keyCode'
  | .mouse action pointerId button x y, .mouse action' pointerId' button' x' y' =>
    action = action' ∧ pointerId = pointerId' ∧ mouseButtonsMatch action button button' = true ∧
      |x - x'| <= kCrossSourcePointerSlop ∧ |y - y'| <= kCrossSourcePointerSlop
  | _, _ => False

def Reading.Discrete : Reading -> Prop
  | .key .. => True
  | .mouse action .. => action = 0 ∨ action = 1 ∨ action = 13

/-- Two differently named sources, and what each says of the events 0, 1, 2 and so on. -/
structure Feed where
  name : Bool -> String
  named : forall source, name source ≠ "unknown"
  apart : name false ≠ name true
  reading : Bool -> Nat -> Reading
  discrete : forall source event, (reading source event).Discrete
  alike : forall source event, (reading source event).Alike (reading (!source) event)

/-- The router, how many events each source has reported, and the events whose reports were passed
on or suppressed, in the order of the reports. -/
structure Delivery where
  router : OhosAuraInputRouter
  count : Bool -> Nat
  posted : List Nat
  suppressed : List Nat

def fresh : Delivery where
  router := {}
  count := fun _ => 0
  posted := []
  suppressed := []

section Run

variable (feed : Feed)

def dispatch (router : OhosAuraInputRouter) (now : TimeTicks) (source : Bool) (event : Nat) :
    Outcome × OhosAuraInputRouter :=
  match (feed.reading source event).keyReport (feed.name source),
      (feed.reading source event).pointerReport (feed.name source) with
  | some report, _ => dispatchKey router now report
  | none, some report => dispatchPointer router now report
  | none, none => (.ignored, router)

-- A source reports its next event.
def deliver (delivery : Delivery) (label : Bool × TimeTicks) : Delivery :=
  match dispatch feed delivery.router label.2 label.1 (delivery.count label.1) with
  | (outcome, router) =>
    { router := router
      count := Function.update delivery.count label.1 (delivery.count label.1 + 1)
      posted :=
        if outcome = .posted then delivery.posted ++ [delivery.count label.1]
        else delivery.posted
      suppressed :=
        if outcome = .suppressed then delivery.suppressed ++ [delivery.count label.1]
        else delivery.suppressed }

def keyWaits (record : KeyDispatchRecord) : Bool := !record.isMatched

def pointerWaits (record : PointerDispatchRecord) : Bool := !record.isMatched

-- Events one source has reported and the other has not.
def behind (delivery : Delivery) (source : Bool) : List Nat :=
  List.range' (delivery.count source) (delivery.count (!source) - delivery.count source)

def keysDue (delivery : Delivery) (source : Bool) : List KeyReport :=
  (behind delivery source).filterMap fun event =>
    (feed.reading source event).keyReport (feed.name source)

def pointersDue (delivery : Delivery) (source : Bool) : List PointerReport :=
  (behind delivery source).filterMap fun event =>
    (feed.reading source event).pointerReport (feed.name source)

def keyServed (record : KeyDispatchRecord) (report : KeyReport) : Prop :=
  keyAgrees record.report report = true

def pointerServed (record : PointerDispatchRecord) (report : PointerReport) : Prop :=
  pointerAgrees record.report report = true

/-- One source is ahead, and what waits is its records of the events the other has still to report. -/
structure Ahead (delivery : Delivery) (source : Bool) : Prop where
  ordered : delivery.count (!source) <= delivery.count source
  keyOwner : forall record, record ∈ delivery.router.recentKeyEvents.filter keyWaits ->
    record.report.dispatchSource = feed.name source
  pointerOwner : forall record, record ∈ delivery.router.recentPointerEvents.filter pointerWaits ->
    record.report.dispatchSource = feed.name source
  keys : Serves keyServed (delivery.router.recentKeyEvents.filter keyWaits)
    (keysDue feed delivery (!source))
  pointers : Serves pointerServed (delivery.router.recentPointerEvents.filter pointerWaits)
    (pointersDue feed delivery (!source))
  posted : delivery.posted = List.range (delivery.count source)

theorem Feed.name_ne (source : Bool) : feed.name (!source) ≠ feed.name source := by
  cases source with
  | false => exact fun same => feed.apart same.symm
  | true => exact feed.apart

theorem Ahead.swap {delivery : Delivery} {source : Bool} (ahead : Ahead feed delivery source)
    (level : delivery.count (!source) = delivery.count source) : Ahead feed delivery (!source) := by
  have nothing (other : Bool) : behind delivery other = [] := by
    unfold behind
    have same : delivery.count (!other) - delivery.count other = 0 := by
      cases source <;> cases other <;> simp_all
    rw [same]
    rfl
  have keys := ahead.keys
  have pointers := ahead.pointers
  rw [keysDue, nothing, List.filterMap_nil] at keys
  rw [pointersDue, nothing, List.filterMap_nil] at pointers
  have noKeys := keys.nothing
  have noPointers := pointers.nothing
  refine ⟨?_, ?_, ?_, ?_, ?_, ?_⟩
  · rw [Bool.not_not, level]
  · simp [noKeys]
  · simp [noPointers]
  · rw [noKeys, keysDue, nothing]
    exact serves_nil
  · rw [noPointers, pointersDue, nothing]
    exact serves_nil
  · rw [ahead.posted, level]

/-- No record still waiting goes by its age; and of a mouse event, it does not clear the records, it
does not repeat the last one of its source, and no later one tells records apart that it does not. -/
structure Undisturbed (delivery : Delivery) (label : Bool × TimeTicks) : Prop where
  keys : forall report, (feed.reading label.1 (delivery.count label.1)).keyReport
      (feed.name label.1) = some report ->
    forall record, record ∈ delivery.router.recentKeyEvents.takeWhile
      (fun record => expired label.2 record.time) -> keyWaits record = false
  pointers : forall report, (feed.reading label.1 (delivery.count label.1)).pointerReport
      (feed.name label.1) = some report ->
    report.action ≠ 13 ∧ sameSourceDuplicate delivery.router label.2 report = false ∧
    (forall record, record ∈ delivery.router.recentPointerEvents.takeWhile
      (fun record => expired label.2 record.time) -> pointerWaits record = false) ∧
    Exchangeable pointerServed (delivery.router.recentPointerEvents.filter pointerWaits) report
      ((pointersDue feed delivery label.1).drop 1)

end Run

def keyMeet (router : OhosAuraInputRouter) (now : TimeTicks) (report : KeyReport) :
    Bool × List KeyDispatchRecord :=
  meet (fun record => expired now record.time) (keyFits report)
    (fun record => { record with isMatched := true })
    (fun found => { report := report, time := now, isMatched := found }) router.recentKeyEvents

def pointerMeet (router : OhosAuraInputRouter) (now : TimeTicks) (report : PointerReport) :
    Bool × List PointerDispatchRecord :=
  meet (fun record => expired now record.time) (pointerFits report)
    (fun record => { record with isMatched := true })
    (fun found => { report := report, time := now, isMatched := found }) router.recentPointerEvents

/-- What a dispatch does to the two lists of records, and what becomes of the report. -/
structure Dispatched (result : Outcome × OhosAuraInputRouter) (duplicate : Bool)
    (keys : List KeyDispatchRecord) (pointers : List PointerDispatchRecord) : Prop where
  outcome : result.1 = if duplicate then .suppressed else .posted
  keys : result.2.recentKeyEvents = keys
  pointers : result.2.recentPointerEvents = pointers

theorem dispatchKey_spec (router : OhosAuraInputRouter) (now : TimeTicks) (report : KeyReport)
    (named : report.dispatchSource ≠ "unknown") :
    Dispatched (dispatchKey router now report) (keyMeet router now report).1
      (keyMeet router now report).2 router.recentPointerEvents := by
  have whole : isDuplicateKeyEvent router now report =
      ((keyMeet router now report).1, { router with
        recentKeyEvents := (keyMeet router now report).2
        suppressedKeyEvents :=
          router.suppressedKeyEvents + (if (keyMeet router now report).1 then 1 else 0) }) := by
    simp only [isDuplicateKeyEvent, bne_iff_ne, ne_eq, named, not_false_eq_true, if_true]
    rfl
  unfold dispatchKey
  rw [whole]
  cases (keyMeet router now report).1 with
  | false => exact ⟨rfl, rfl, rfl⟩
  | true => exact ⟨rfl, rfl, rfl⟩

theorem isDuplicatePointer_spec (router : OhosAuraInputRouter) (now : TimeTicks)
    (report : PointerReport) (named : report.dispatchSource ≠ "unknown")
    (discrete : discreteMouseEvent report = true)
    (single : sameSourceDuplicate router now report = false) :
    (isDuplicatePointerEvent router now report).1 = (pointerMeet router now report).1 /\
      (isDuplicatePointerEvent router now report).2.recentPointerEvents =
        (pointerMeet router now report).2 /\
      (isDuplicatePointerEvent router now report).2.recentKeyEvents = router.recentKeyEvents := by
  simp only [isDuplicatePointerEvent, single, discrete, bne_iff_ne, ne_eq, named,
    not_false_eq_true, Bool.not_false, Bool.true_and, if_true, Bool.false_or]
  exact ⟨rfl, rfl, trivial⟩

variable {report : PointerReport}

theorem discrete_of_mouse (mouse : report.pointerType = "mouse")
    (action : report.action = 0 \/ report.action = 1 \/ report.action = 13) :
    discreteMouseEvent report = true := by
  rcases action with press | release | cancel <;> simp [discreteMouseEvent, *]

theorem dispatchPointer_spec (router : OhosAuraInputRouter) (now : TimeTicks)
    (report : PointerReport) (named : report.dispatchSource ≠ "unknown")
    (mouse : report.pointerType = "mouse") (action : report.action = 0 ∨ report.action = 1)
    (single : sameSourceDuplicate router now report = false) :
    Dispatched (dispatchPointer router now report) (pointerMeet router now report).1
      router.recentKeyEvents (pointerMeet router now report).2 := by
  have discrete := discrete_of_mouse mouse (action.imp_right Or.inl)
  obtain ⟨duplicate, pointers, keys⟩ := isDuplicatePointer_spec router now report named discrete single
  have posts : pointerOutcome report = .posted := by
    rcases action with press | release
    · simp [pointerOutcome, mouse, press]
    · simp [pointerOutcome, mouse, release]
  unfold dispatchPointer
  generalize isDuplicatePointerEvent router now report = result at duplicate pointers keys
  obtain ⟨found, after⟩ := result
  simp only at duplicate pointers keys
  rw [<- duplicate]
  cases found with
  | true => exact ⟨rfl, keys, pointers⟩
  | false =>
    simp only [posts, reduceCtorEq, if_false]
    refine ⟨rfl, ?_, ?_⟩
    · split
      · exact keys
      · exact keys
    · split
      · exact pointers
      · exact pointers

theorem pointerOutcome_ne (report : PointerReport) : pointerOutcome report ≠ .suppressed := by
  unfold pointerOutcome
  repeat' split
  all_goals simp

-- A report that is new is not suppressed, and leaves no record but its own and those before it.
theorem dispatchPointer_new (router : OhosAuraInputRouter) (now : TimeTicks)
    (report : PointerReport) (named : report.dispatchSource ≠ "unknown")
    (discrete : discreteMouseEvent report = true)
    (single : sameSourceDuplicate router now report = false)
    (missed : (pointerMeet router now report).1 = false) :
    (dispatchPointer router now report).1 ≠ .suppressed /\
      (∀ record, record ∈ (dispatchPointer router now report).2.recentKeyEvents ->
        record ∈ router.recentKeyEvents) /\
      ∀ record, record ∈ (dispatchPointer router now report).2.recentPointerEvents ->
        record ∈ (pointerMeet router now report).2 := by
  obtain ⟨duplicate, pointers, keys⟩ := isDuplicatePointer_spec router now report named discrete single
  rw [missed] at duplicate
  unfold dispatchPointer
  generalize isDuplicatePointerEvent router now report = result at duplicate pointers keys
  obtain ⟨found, after⟩ := result
  simp only at duplicate pointers keys
  subst duplicate
  simp only
  refine ⟨pointerOutcome_ne report, ?_, ?_⟩
  · intro record member
    split at member
    · cases member
    · rw [<- keys]
      split at member <;> exact member
  · intro record member
    split at member
    · cases member
    · rw [<- pointers]
      split at member <;> exact member

section Step

variable {feed : Feed}

theorem Feed.keys_alike (feed : Feed) (source : Bool) (event : Nat) :
    ((feed.reading source event).keyReport (feed.name source) = none /\
      (feed.reading (!source) event).keyReport (feed.name (!source)) = none) \/
    ∃ own other, (feed.reading source event).keyReport (feed.name source) = some own /\
      (feed.reading (!source) event).keyReport (feed.name (!source)) = some other /\
      own.dispatchSource = feed.name source /\ other.dispatchSource = feed.name (!source) /\
      keyAgrees own other = true := by
  have alike := feed.alike source event
  cases own : feed.reading source event with
  | key action keyCode =>
    cases other : feed.reading (!source) event with
    | key action' keyCode' =>
      rw [own, other] at alike
      refine Or.inr ⟨_, _, rfl, rfl, rfl, rfl, ?_⟩
      simp [keyAgrees, alike.1, alike.2]
    | mouse action' pointerId button x y =>
      rw [own, other] at alike
      exact alike.elim
  | mouse action pointerId button x y =>
    cases other : feed.reading (!source) event with
    | key action' keyCode' =>
      rw [own, other] at alike
      exact alike.elim
    | mouse action' pointerId' button' x' y' => exact Or.inl ⟨rfl, rfl⟩

theorem Feed.pointers_alike (feed : Feed) (source : Bool) (event : Nat) :
    ((feed.reading source event).pointerReport (feed.name source) = none /\
      (feed.reading (!source) event).pointerReport (feed.name (!source)) = none) \/
    ∃ own other, (feed.reading source event).pointerReport (feed.name source) = some own /\
      (feed.reading (!source) event).pointerReport (feed.name (!source)) = some other /\
      own.dispatchSource = feed.name source /\ other.dispatchSource = feed.name (!source) /\
      pointerAgrees own other = true := by
  have alike := feed.alike source event
  cases own : feed.reading source event with
  | key action keyCode =>
    cases other : feed.reading (!source) event with
    | key action' keyCode' => exact Or.inl ⟨rfl, rfl⟩
    | mouse action' pointerId button x y =>
      rw [own, other] at alike
      exact alike.elim
  | mouse action pointerId button x y =>
    cases other : feed.reading (!source) event with
    | key action' keyCode' =>
      rw [own, other] at alike
      exact alike.elim
    | mouse action' pointerId' button' x' y' =>
      rw [own, other] at alike
      obtain ⟨sameAction, samePointer, buttons, across, down⟩ := alike
      refine Or.inr ⟨_, _, rfl, rfl, rfl, rfl, ?_⟩
      rw [sameAction] at buttons
      simp [pointerAgrees, sameAction, samePointer, buttons, across, down]

variable {delivery : Delivery} {source : Bool}

variable {after : Delivery}

theorem behind_first
    (ordered : delivery.count (!source) <= delivery.count source)
    (counts : after.count = Function.update delivery.count source (delivery.count source + 1)) :
    behind after (!source) = behind delivery (!source) ++ [delivery.count source] := by
  have own : after.count source = delivery.count source + 1 := by rw [counts, Function.update_self]
  have other : after.count (!source) = delivery.count (!source) := by
    rw [counts, Function.update_of_ne (by simp)]
  rw [behind, behind, Bool.not_not, own, other, Nat.sub_add_comm ordered, List.range'_concat]
  congr 2
  omega

theorem behind_second
    (trails : delivery.count (!source) < delivery.count source)
    (counts : after.count = Function.update delivery.count (!source) (delivery.count (!source) + 1)) :
    behind delivery (!source) = delivery.count (!source) :: behind after (!source) := by
  have own : after.count (!source) = delivery.count (!source) + 1 := by
    rw [counts, Function.update_self]
  have other : after.count source = delivery.count source := by
    rw [counts, Function.update_of_ne (by simp)]
  rw [behind, behind, Bool.not_not, own, other]
  obtain ⟨rest, size⟩ := Nat.exists_eq_add_of_lt trails
  rw [show delivery.count source - delivery.count (!source) = rest + 1 by omega,
    show delivery.count source - (delivery.count (!source) + 1) = rest by omega,
    List.range'_succ]

theorem keysDue_second {delivery after : Delivery} {source : Bool}
    (trails : delivery.count (!source) < delivery.count source)
    (counts : after.count = Function.update delivery.count (!source) (delivery.count (!source) + 1)) :
    keysDue feed delivery (!source) =
      ((feed.reading (!source) (delivery.count (!source))).keyReport (feed.name (!source))).toList ++
        keysDue feed after (!source) := by
  rw [keysDue, behind_second trails counts, keysDue]
  cases own : (feed.reading (!source) (delivery.count (!source))).keyReport (feed.name (!source)) <;>
    simp [own]

theorem pointersDue_second {delivery after : Delivery} {source : Bool}
    (trails : delivery.count (!source) < delivery.count source)
    (counts : after.count = Function.update delivery.count (!source) (delivery.count (!source) + 1)) :
    pointersDue feed delivery (!source) =
      ((feed.reading (!source) (delivery.count (!source))).pointerReport
        (feed.name (!source))).toList ++ pointersDue feed after (!source) := by
  rw [pointersDue, behind_second trails counts, pointersDue]
  cases own : (feed.reading (!source) (delivery.count (!source))).pointerReport
    (feed.name (!source)) <;> simp [own]

theorem Ahead.first {delivery after : Delivery} {source : Bool} (now : TimeTicks)
    (ahead : Ahead feed delivery source)
    (counts : after.count = Function.update delivery.count source (delivery.count source + 1))
    (posted : after.posted = delivery.posted ++ [delivery.count source])
    (keys : after.router.recentKeyEvents.filter keyWaits =
      delivery.router.recentKeyEvents.filter keyWaits ++
        ((feed.reading source (delivery.count source)).keyReport (feed.name source)).toList.map
          fun report => { report := report, time := now, isMatched := false })
    (pointers : after.router.recentPointerEvents.filter pointerWaits =
      delivery.router.recentPointerEvents.filter pointerWaits ++
        ((feed.reading source (delivery.count source)).pointerReport (feed.name source)).toList.map
          fun report => { report := report, time := now, isMatched := false }) :
    Ahead feed after source := by
  have later := behind_first ahead.ordered counts
  have own : after.count source = delivery.count source + 1 := by rw [counts, Function.update_self]
  have other : after.count (!source) = delivery.count (!source) := by
    rw [counts, Function.update_of_ne (by simp)]
  have keysLater : keysDue feed after (!source) = keysDue feed delivery (!source) ++
      ((feed.reading (!source) (delivery.count source)).keyReport (feed.name (!source))).toList := by
    rw [keysDue, keysDue, later, List.filterMap_append]
    congr 1
  have pointersLater : pointersDue feed after (!source) = pointersDue feed delivery (!source) ++
      ((feed.reading (!source) (delivery.count source)).pointerReport
        (feed.name (!source))).toList := by
    rw [pointersDue, pointersDue, later, List.filterMap_append]
    congr 1
  refine ⟨by rw [own, other]; exact Nat.le_succ_of_le ahead.ordered, ?_, ?_, ?_, ?_, ?_⟩
  · rw [keys]
    intro record member
    rcases List.mem_append.mp member with old | new
    · exact ahead.keyOwner record old
    · rcases feed.keys_alike source (delivery.count source) with ⟨none, _⟩ | ⟨mine, _, some, _, owner, _⟩
      · simp [none] at new
      · rw [some] at new
        obtain rfl := List.mem_singleton.mp new
        exact owner
  · rw [pointers]
    intro record member
    rcases List.mem_append.mp member with old | new
    · exact ahead.pointerOwner record old
    · rcases feed.pointers_alike source (delivery.count source) with
        ⟨none, _⟩ | ⟨mine, _, some, _, owner, _⟩
      · simp [none] at new
      · rw [some] at new
        obtain rfl := List.mem_singleton.mp new
        exact owner
  · rw [keys, keysLater]
    rcases feed.keys_alike source (delivery.count source) with
      ⟨none, noneOther⟩ | ⟨mine, copy, some, someOther, _, _, agrees⟩
    · rw [none, noneOther]
      simpa using ahead.keys
    · rw [some, someOther]
      exact ahead.keys.push agrees
  · rw [pointers, pointersLater]
    rcases feed.pointers_alike source (delivery.count source) with
      ⟨none, noneOther⟩ | ⟨mine, copy, some, someOther, _, _, agrees⟩
    · rw [none, noneOther]
      simpa using ahead.pointers
    · rw [some, someOther]
      exact ahead.pointers.push agrees
  · rw [posted, ahead.posted, own, List.range_succ]

-- One record of these is gone, one that fits the report.
def Taken {R : Type} (fits : R -> Bool) (before after : List R) : Prop :=
  exists front taken back, before = front ++ taken :: back ∧ fits taken = true ∧
    after = front ++ back

theorem Taken.subset {R : Type} {fits : R -> Bool} {before after : List R}
    (taken : Taken fits before after) {record : R} (member : record ∈ after) : record ∈ before := by
  obtain ⟨front, gone, back, rfl, _, rfl⟩ := taken
  rcases List.mem_append.mp member with early | late
  · exact List.mem_append_left _ early
  · exact List.mem_append_right _ (List.mem_cons_of_mem _ late)

theorem Taken.served {R Q : Type} {agrees : R -> Q -> Prop} {fits : R -> Bool}
    {before after : List R} (taken : Taken fits before after) {newcomer : Q} {due : List Q}
    (fitsAgree : ∀ record, fits record = true -> agrees record newcomer)
    (serves : Serves agrees before (newcomer :: due))
    (exchangeable : Exchangeable agrees before newcomer due) : Serves agrees after due := by
  obtain ⟨front, gone, back, rfl, fit, rfl⟩ := taken
  exact serves.take exchangeable (fitsAgree gone fit)

-- Equal keys are told apart by nothing.
theorem keys_exchangeable (waiting : List KeyDispatchRecord) (newcomer : KeyReport)
    (due : List KeyReport) : Exchangeable keyServed waiting newcomer due := by
  intro record _ other _ fit fitOther later _ agrees
  simp only [keyServed, keyAgrees, Bool.and_eq_true, beq_iff_eq] at fit fitOther agrees ⊢
  exact ⟨by rw [fitOther.1, <- fit.1, agrees.1], by rw [fitOther.2, <- fit.2, agrees.2]⟩

variable {report : KeyReport} {record : KeyDispatchRecord}

theorem keyFits_agrees
    (fits : keyFits report record = true) : keyServed record report := by
  simp only [keyFits, Bool.and_eq_true] at fits
  exact fits.2

theorem pointerFits_agrees {report : PointerReport} {record : PointerDispatchRecord}
    (fits : pointerFits report record = true) : pointerServed record report := by
  simp only [pointerFits, Bool.and_eq_true] at fits
  exact fits.2

theorem Ahead.second
    (ahead : Ahead feed delivery source) (trails : delivery.count (!source) < delivery.count source)
    (counts : after.count = Function.update delivery.count (!source) (delivery.count (!source) + 1))
    (posted : after.posted = delivery.posted)
    (keys : match (feed.reading (!source) (delivery.count (!source))).keyReport
        (feed.name (!source)) with
      | none => after.router.recentKeyEvents.filter keyWaits =
          delivery.router.recentKeyEvents.filter keyWaits
      | some report => Taken (keyFits report) (delivery.router.recentKeyEvents.filter keyWaits)
          (after.router.recentKeyEvents.filter keyWaits))
    (pointers : match (feed.reading (!source) (delivery.count (!source))).pointerReport
        (feed.name (!source)) with
      | none => after.router.recentPointerEvents.filter pointerWaits =
          delivery.router.recentPointerEvents.filter pointerWaits
      | some report =>
        Taken (pointerFits report) (delivery.router.recentPointerEvents.filter pointerWaits)
          (after.router.recentPointerEvents.filter pointerWaits) /\
        Exchangeable pointerServed (delivery.router.recentPointerEvents.filter pointerWaits)
          report ((pointersDue feed delivery (!source)).drop 1)) : Ahead feed after source := by
  have own : after.count source = delivery.count source := by
    rw [counts, Function.update_of_ne (by simp)]
  have other : after.count (!source) = delivery.count (!source) + 1 := by
    rw [counts, Function.update_self]
  have served := ahead.keys
  have servedPointers := ahead.pointers
  rw [keysDue_second trails counts] at served
  rw [pointersDue_second trails counts] at servedPointers pointers
  refine ⟨by rw [own, other]; exact trails, ?_, ?_, ?_, ?_, by rw [posted, ahead.posted, own]⟩
  · intro record member
    refine ahead.keyOwner record ?_
    split at keys
    · rwa [keys] at member
    · exact keys.subset member
  · intro record member
    refine ahead.pointerOwner record ?_
    split at pointers
    · rwa [pointers] at member
    · exact pointers.1.subset member
  · cases report : (feed.reading (!source) (delivery.count (!source))).keyReport
      (feed.name (!source)) with
    | none =>
      rw [report] at keys served
      simp only at keys
      rw [keys]
      exact served
    | some report =>
      simp only [report] at keys served
      exact keys.served (fun _ => keyFits_agrees) served (keys_exchangeable _ _ _)
  · cases report : (feed.reading (!source) (delivery.count (!source))).pointerReport
      (feed.name (!source)) with
    | none =>
      rw [report] at pointers servedPointers
      simp only at pointers
      rw [pointers]
      exact servedPointers
    | some report =>
      simp only [report] at pointers servedPointers
      exact pointers.1.served (fun _ => pointerFits_agrees) servedPointers pointers.2

variable {now : TimeTicks}

theorem deliver_spec {duplicate : Bool}
    {keys : List KeyDispatchRecord} {pointers : List PointerDispatchRecord}
    (dispatched : Dispatched (dispatch feed delivery.router now source (delivery.count source))
      duplicate keys pointers) :
    let after := deliver feed delivery (source, now)
    after.router.recentKeyEvents = keys /\ after.router.recentPointerEvents = pointers /\
      after.count = Function.update delivery.count source (delivery.count source + 1) /\
      after.posted = (if duplicate then delivery.posted
        else delivery.posted ++ [delivery.count source]) /\
      after.suppressed = if duplicate then delivery.suppressed ++ [delivery.count source]
        else delivery.suppressed := by
  obtain ⟨outcome, keysAre, pointersAre⟩ := dispatched
  simp only [deliver]
  generalize dispatch feed delivery.router now source (delivery.count source) = result at *
  obtain ⟨own, router⟩ := result
  simp only at outcome keysAre pointersAre
  subst outcome
  cases duplicate with
  | false => exact ⟨keysAre, pointersAre, trivial, rfl, rfl⟩
  | true => exact ⟨keysAre, pointersAre, trivial, rfl, rfl⟩

theorem keyFits_waits
    (fits : keyFits report record = true) : keyWaits record = true := by
  simp only [keyFits, Bool.and_eq_true] at fits
  exact fits.1.1.1

theorem pointerFits_waits {report : PointerReport} {record : PointerDispatchRecord}
    (fits : pointerFits report record = true) : pointerWaits record = true := by
  simp only [pointerFits, Bool.and_eq_true] at fits
  exact fits.1.1.1

theorem Feed.reports (feed : Feed) (source : Bool) (event : Nat) :
    (∃ report, (feed.reading source event).keyReport (feed.name source) = some report /\
      (feed.reading source event).pointerReport (feed.name source) = none /\
      report.dispatchSource = feed.name source) \/
    ∃ report, (feed.reading source event).keyReport (feed.name source) = none /\
      (feed.reading source event).pointerReport (feed.name source) = some report /\
      report.dispatchSource = feed.name source ∧ report.pointerType = "mouse" ∧
      (report.action = 0 \/ report.action = 1 \/ report.action = 13) := by
  have discrete := feed.discrete source event
  cases reading : feed.reading source event with
  | key action keyCode => exact Or.inl ⟨_, rfl, rfl, rfl⟩
  | mouse action pointerId button x y =>
    rw [reading] at discrete
    exact Or.inr ⟨_, rfl, rfl, rfl, rfl, discrete⟩

theorem foreign_of_owner {report record : String}
    (own : report = feed.name source) (same : record = feed.name source) :
    (record != report) = false := by
  rw [own, same, bne_self_eq_false]

-- Who is ahead finds none of its own records, and adds one.
theorem deliver_first
    (ahead : Ahead feed delivery source) (undisturbed : Undisturbed feed delivery (source, now)) :
    Ahead feed (deliver feed delivery (source, now)) source := by
  rcases feed.reports source (delivery.count source) with
    ⟨report, own, noPointer, owner⟩ | ⟨report, noKey, own, owner, mouse, action⟩
  · have named : report.dispatchSource ≠ "unknown" := owner ▸ feed.named source
    obtain ⟨missed, waiting⟩ := @meet_first _ (fun record => expired now record.time)
      (keyFits report) keyWaits (fun record => { record with isMatched := true })
      (fun found => { report := report, time := now, isMatched := found })
      delivery.router.recentKeyEvents (undisturbed.keys report own) (fun _ => keyFits_waits)
      (fun record member => by simp [keyFits, foreign_of_owner owner (ahead.keyOwner record member)])
      rfl
    have dispatched : Dispatched
        (dispatch feed delivery.router now source (delivery.count source)) false
        (keyMeet delivery.router now report).2 delivery.router.recentPointerEvents := by
      have spec := dispatchKey_spec delivery.router now report named
      rw [show (keyMeet delivery.router now report).1 = false from missed] at spec
      rw [dispatch, own, noPointer]
      exact spec
    obtain ⟨keys, pointers, counts, posted, _⟩ := deliver_spec dispatched
    refine ahead.first now counts posted ?_ ?_
    · rw [keys, own]
      exact waiting
    · rw [pointers, noPointer]
      simp
  · have named : report.dispatchSource ≠ "unknown" := owner ▸ feed.named source
    obtain ⟨notCancel, single, settled, _⟩ := undisturbed.pointers report own
    obtain ⟨missed, waiting⟩ := @meet_first _ (fun record => expired now record.time)
      (pointerFits report) pointerWaits (fun record => { record with isMatched := true })
      (fun found => { report := report, time := now, isMatched := found })
      delivery.router.recentPointerEvents settled (fun _ => pointerFits_waits)
      (fun record member => by
        simp [pointerFits, foreign_of_owner owner (ahead.pointerOwner record member)]) rfl
    have press : report.action = 0 \/ report.action = 1 := by
      rcases action with press | release | cancel
      · exact Or.inl press
      · exact Or.inr release
      · exact absurd cancel notCancel
    have dispatched : Dispatched
        (dispatch feed delivery.router now source (delivery.count source)) false
        delivery.router.recentKeyEvents (pointerMeet delivery.router now report).2 := by
      have spec := dispatchPointer_spec delivery.router now report named mouse press single
      rw [show (pointerMeet delivery.router now report).1 = false from missed] at spec
      rw [dispatch, noKey, own]
      exact spec
    obtain ⟨keys, pointers, counts, posted, _⟩ := deliver_spec dispatched
    refine ahead.first now counts posted ?_ ?_
    · rw [keys, noKey]
      simp
    · rw [pointers, own]
      exact waiting

-- Who is behind finds a record, and adds none that waits.
theorem deliver_second
    (ahead : Ahead feed delivery source) (trails : delivery.count (!source) < delivery.count source)
    (undisturbed : Undisturbed feed delivery (!source, now)) :
    Ahead feed (deliver feed delivery (!source, now)) source := by
  have foreign {report record : String} (own : report = feed.name (!source))
      (same : record = feed.name source) : (record != report) = true := by
    rw [own, same, bne_iff_ne]
    exact (feed.name_ne source).symm
  have known {record : String} (same : record = feed.name source) : (record != "unknown") = true := by
    rw [same, bne_iff_ne]
    exact feed.named source
  rcases feed.reports (!source) (delivery.count (!source)) with
    ⟨report, own, noPointer, owner⟩ | ⟨report, noKey, own, owner, mouse, action⟩
  · have named : report.dispatchSource ≠ "unknown" := owner ▸ feed.named (!source)
    have served := ahead.keys
    rw [@keysDue_second feed delivery (deliver feed delivery (!source, now)) source trails rfl, own]
      at served
    obtain ⟨record, waiting, agrees⟩ := served.some
    have fits : keyFits report record = true := by
      have same := ahead.keyOwner record waiting
      have free : keyWaits record = true := (List.mem_filter.mp waiting).2
      simp only [keyFits, foreign owner same, known same, Bool.and_true, Bool.and_eq_true]
      exact ⟨free, agrees⟩
    obtain ⟨found, taken⟩ := @meet_second _ (fun record => expired now record.time)
      (keyFits report) keyWaits (fun record => { record with isMatched := true })
      (fun found => { report := report, time := now, isMatched := found })
      delivery.router.recentKeyEvents (undisturbed.keys report own) (fun _ => keyFits_waits)
      ⟨record, waiting, fits⟩ (fun _ => rfl) rfl
    have dispatched : Dispatched
        (dispatch feed delivery.router now (!source) (delivery.count (!source))) true
        (keyMeet delivery.router now report).2 delivery.router.recentPointerEvents := by
      have spec := dispatchKey_spec delivery.router now report named
      rw [show (keyMeet delivery.router now report).1 = true from found] at spec
      rw [dispatch, own, noPointer]
      exact spec
    obtain ⟨keys, pointers, counts, posted, _⟩ := deliver_spec dispatched
    refine ahead.second trails counts posted ?_ ?_
    · rw [own, keys]
      exact taken
    · rw [noPointer, pointers]
  · have named : report.dispatchSource ≠ "unknown" := owner ▸ feed.named (!source)
    obtain ⟨notCancel, single, settled, exchangeable⟩ := undisturbed.pointers report own
    have served := ahead.pointers
    rw [@pointersDue_second feed delivery (deliver feed delivery (!source, now)) source trails rfl,
      own] at served
    obtain ⟨record, waiting, agrees⟩ := served.some
    have fits : pointerFits report record = true := by
      have same := ahead.pointerOwner record waiting
      have free : pointerWaits record = true := (List.mem_filter.mp waiting).2
      simp only [pointerFits, foreign owner same, known same, Bool.and_true, Bool.and_eq_true]
      exact ⟨free, agrees⟩
    obtain ⟨found, taken⟩ := @meet_second _ (fun record => expired now record.time)
      (pointerFits report) pointerWaits (fun record => { record with isMatched := true })
      (fun found => { report := report, time := now, isMatched := found })
      delivery.router.recentPointerEvents settled (fun _ => pointerFits_waits)
      ⟨record, waiting, fits⟩ (fun _ => rfl) rfl
    have press : report.action = 0 \/ report.action = 1 := by
      rcases action with press | release | cancel
      · exact Or.inl press
      · exact Or.inr release
      · exact absurd cancel notCancel
    have dispatched : Dispatched
        (dispatch feed delivery.router now (!source) (delivery.count (!source))) true
        delivery.router.recentKeyEvents (pointerMeet delivery.router now report).2 := by
      have spec := dispatchPointer_spec delivery.router now report named mouse press single
      rw [show (pointerMeet delivery.router now report).1 = true from found] at spec
      rw [dispatch, noKey, own]
      exact spec
    obtain ⟨keys, pointers, counts, posted, _⟩ := deliver_spec dispatched
    refine ahead.second trails counts posted ?_ ?_
    · rw [noKey, keys]
    · rw [own, pointers]
      exact ⟨taken, exchangeable⟩

end Step

theorem fresh_ahead (feed : Feed) : Ahead feed fresh false where
  ordered := Nat.le_refl _
  keyOwner _ member := absurd member (by simp [fresh])
  pointerOwner _ member := absurd member (by simp [fresh])
  keys := serves_nil
  pointers := serves_nil
  posted := rfl

theorem deliver_keeps (feed : Feed) (delivery : Delivery) (label : Bool × TimeTicks)
    (kept : ∃ source, Ahead feed delivery source) (undisturbed : Undisturbed feed delivery label) :
    ∃ source, Ahead feed (deliver feed delivery label) source := by
  obtain ⟨source, ahead⟩ := kept
  obtain ⟨reporter, now⟩ := label
  by_cases own : reporter = source
  · subst own
    exact ⟨reporter, deliver_first ahead undisturbed⟩
  · obtain rfl : reporter = !source := by
      cases reporter <;> cases source <;> simp_all
    by_cases level : delivery.count (!source) = delivery.count source
    · exact ⟨!source, deliver_first (ahead.swap _ level) undisturbed⟩
    · have trails : delivery.count (!source) < delivery.count source :=
        lt_of_le_of_ne ahead.ordered level
      exact ⟨source, deliver_second ahead trails undisturbed⟩

variable {feed : Feed} {delivery : Delivery} {source : Bool}

theorem Ahead.posted_range
    (ahead : Ahead feed delivery source) :
    delivery.posted = List.range (max (delivery.count false) (delivery.count true)) := by
  rw [ahead.posted]
  have ordered := ahead.ordered
  cases source with
  | false => rw [max_eq_left (by simpa using ordered)]
  | true => rw [max_eq_right (by simpa using ordered)]

theorem run_posted {labels : List (Bool × TimeTicks)}
    (undisturbed : Follows (Undisturbed feed) (deliver feed) fresh labels) :
    (labels.foldl (deliver feed) fresh).posted =
      List.range (max ((labels.foldl (deliver feed) fresh).count false)
        ((labels.foldl (deliver feed) fresh).count true)) := by
  obtain ⟨_, ahead⟩ := undisturbed.preserves (deliver_keeps feed) ⟨false, fresh_ahead feed⟩
  exact ahead.posted_range

-- No mouse report repeats the last one of its source within the window of one source.
def Unrepeated (feed : Feed) (delivery : Delivery) (label : Bool × TimeTicks) : Prop :=
  forall report, (feed.reading label.1 (delivery.count label.1)).pointerReport
      (feed.name label.1) = some report ->
    sameSourceDuplicate delivery.router label.2 report = false

structure Alone (feed : Feed) (source : Bool) (delivery : Delivery) : Prop where
  keys : forall record, record ∈ delivery.router.recentKeyEvents ->
    record.report.dispatchSource = feed.name source
  pointers : forall record, record ∈ delivery.router.recentPointerEvents ->
    record.report.dispatchSource = feed.name source
  suppressed : delivery.suppressed = []

theorem meet_none {R : Type} {old fits : R -> Bool} {mark : R -> R} {newcomer : Bool -> R}
    {records : List R} (none : ∀ record ∈ records, fits record = false) :
    meet old fits mark newcomer records = (false, records.dropWhile old ++ [newcomer false]) := by
  rw [meet, takeNewest_none fun record member => none record ((List.dropWhile_suffix old).mem member)]

theorem mem_dropWhile_snoc {R : Type} {old : R -> Bool} {records : List R} {newcomer record : R}
    (member : record ∈ records.dropWhile old ++ [newcomer]) : record ∈ records \/ record = newcomer := by
  rcases List.mem_append.mp member with early | last
  · exact Or.inl ((List.dropWhile_suffix old).mem early)
  · exact Or.inr (List.mem_singleton.mp last)

variable {now : TimeTicks}

theorem alone_key
    (alone : Alone feed source delivery) {report : KeyReport}
    (own : (feed.reading source (delivery.count source)).keyReport (feed.name source) = some report)
    (noPointer : (feed.reading source (delivery.count source)).pointerReport (feed.name source) = none)
    (owner : report.dispatchSource = feed.name source) :
    Alone feed source (deliver feed delivery (source, now)) := by
  have spec := dispatchKey_spec delivery.router now report (owner ▸ feed.named source)
  have missed : keyMeet delivery.router now report =
      (false, delivery.router.recentKeyEvents.dropWhile (fun record => expired now record.time) ++
        [{ report := report, time := now, isMatched := false }]) :=
    meet_none fun record member => by
      simp [keyFits, foreign_of_owner owner (alone.keys record member)]
  rw [missed] at spec
  have dispatched : Dispatched
      (dispatch feed delivery.router now source (delivery.count source)) false
      (delivery.router.recentKeyEvents.dropWhile (fun record => expired now record.time) ++
        [{ report := report, time := now, isMatched := false }])
      delivery.router.recentPointerEvents := by
    rw [dispatch, own, noPointer]
    exact spec
  obtain ⟨keys, pointers, _, _, suppressed⟩ := deliver_spec dispatched
  refine ⟨fun record member => ?_, fun record member => ?_, suppressed.trans alone.suppressed⟩
  · rw [keys] at member
    rcases mem_dropWhile_snoc member with old | rfl
    · exact alone.keys record old
    · exact owner
  · rw [pointers] at member
    exact alone.pointers record member

theorem alone_pointer
    (alone : Alone feed source delivery)
    (noKey : (feed.reading source (delivery.count source)).keyReport (feed.name source) = none)
    (own : (feed.reading source (delivery.count source)).pointerReport (feed.name source) =
      some report)
    (owner : report.dispatchSource = feed.name source) (discrete : discreteMouseEvent report = true)
    (single : sameSourceDuplicate delivery.router now report = false) :
    Alone feed source (deliver feed delivery (source, now)) := by
  have missed : pointerMeet delivery.router now report =
      (false, delivery.router.recentPointerEvents.dropWhile
        (fun record => expired now record.time) ++
          [{ report := report, time := now, isMatched := false }]) :=
    meet_none fun record member => by
      simp [pointerFits, foreign_of_owner owner (alone.pointers record member)]
  obtain ⟨notSuppressed, keys, pointers⟩ := dispatchPointer_new delivery.router now report
    (owner ▸ feed.named source) discrete single (by rw [missed])
  have same : dispatch feed delivery.router now source (delivery.count source) =
      dispatchPointer delivery.router now report := by
    rw [dispatch, noKey, own]
  refine ⟨fun record member => ?_, fun record member => ?_, ?_⟩
  · simp only [deliver, same] at member
    exact alone.keys record (keys record member)
  · simp only [deliver, same] at member
    have recorded := pointers record member
    rw [missed] at recorded
    rcases mem_dropWhile_snoc recorded with old | rfl
    · exact alone.pointers record old
    · exact owner
  · simp only [deliver, same, notSuppressed, if_false]
    exact alone.suppressed

variable {label : Bool × TimeTicks}

theorem deliver_alone
    (alone : Alone feed source delivery)
    (single : label.1 = source /\ Unrepeated feed delivery label) :
    Alone feed source (deliver feed delivery label) := by
  obtain ⟨reporter, now⟩ := label
  obtain ⟨rfl, unrepeated⟩ := single
  rcases feed.reports reporter (delivery.count reporter) with
    ⟨report, own, noPointer, owner⟩ | ⟨report, noKey, own, owner, mouse, action⟩
  · exact alone_key alone own noPointer owner
  · exact alone_pointer alone noKey own owner (discrete_of_mouse mouse action)
      (unrepeated report own)

theorem input_deduplication (feed : Feed) :
    (forall labels : List (Bool × TimeTicks),
      Follows (Undisturbed feed) (deliver feed) fresh labels ->
      (labels.foldl (deliver feed) fresh).posted =
        List.range (max ((labels.foldl (deliver feed) fresh).count false)
          ((labels.foldl (deliver feed) fresh).count true))) ∧
    forall (source : Bool) (labels : List (Bool × TimeTicks)),
      Follows (fun delivery label => label.1 = source ∧ Unrepeated feed delivery label)
        (deliver feed) fresh labels ->
      (labels.foldl (deliver feed) fresh).suppressed = [] := by
  constructor
  · intro labels undisturbed
    exact run_posted undisturbed
  · intro source labels single
    have start : Alone feed source fresh :=
      ⟨fun _ member => absurd member List.not_mem_nil, fun _ member => absurd member List.not_mem_nil,
        rfl⟩
    exact (single.preserves (fun _ _ alone own => deliver_alone alone own) start).suppressed

def heldKey : Feed where
  name source := if source then "native" else "arkui"
  named source := by cases source <;> decide
  apart := by decide
  reading _ _ := .key 0 2017
  discrete _ _ := trivial
  alike _ _ := ⟨rfl, rfl⟩

def timesOf (labels : List (Bool × TimeTicks)) (source : Bool) : List TimeTicks :=
  (labels.filter fun label => label.1 = source).map Prod.snd

-- The clock does not go back, and the two reports of an event are close enough.
def Timely (labels : List (Bool × TimeTicks)) : Prop :=
  labels.Pairwise (fun early late => early.2 <= late.2) ∧
    forall times, times ∈ (timesOf labels false).zip (timesOf labels true) ->
      times.1 - times.2 <= kCrossSourceDuplicateEventWindow ∧
        times.2 - times.1 <= kCrossSourceDuplicateEventWindow

-- Three repeats, each reported by the second source 240 ms after the first.
def slowCopies : List (Bool × TimeTicks) :=
  [(false, milliseconds 0), (false, milliseconds 100), (false, milliseconds 200),
    (true, milliseconds 240), (true, milliseconds 340), (true, milliseconds 440)]

/-- The copies take the records of others, and the last finds its own record taken and the first's
gone. -/
theorem held_key_posted_twice :
    ¬ forall (feed : Feed) (labels : List (Bool × TimeTicks)), Timely labels ->
      (labels.foldl (deliver feed) fresh).posted =
        List.range (max ((labels.foldl (deliver feed) fresh).count false)
          ((labels.foldl (deliver feed) fresh).count true)) := by
  intro all
  have timely : Timely slowCopies := ⟨by decide, by decide⟩
  have claimed := all heldKey slowCopies timely
  revert claimed
  decide

theorem undisturbed_key
    (settled : (delivery.router.recentKeyEvents.takeWhile
      (fun record => expired label.2 record.time)).all (fun record => !keyWaits record) = true) :
    Undisturbed heldKey delivery label where
  keys _ _ record member := by simpa using List.all_eq_true.mp settled record member
  pointers _ none := by cases none

theorem input_deduplication_copy :
    ([(false, milliseconds 0), (false, milliseconds 100), (true, milliseconds 120),
      (true, milliseconds 200)].foldl (deliver heldKey) fresh).posted = [0, 1] :=
  (input_deduplication heldKey).1 _
    ⟨undisturbed_key (by decide), undisturbed_key (by decide), undisturbed_key (by decide),
      undisturbed_key (by decide), trivial⟩

end ChromiumHmos.AuraShell
