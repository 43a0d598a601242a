import ChromiumHmos.Lib.Ledger
import ChromiumHmos.Shell.Pickers

set_option autoImplicit false

/-!
# Pickers through a run

Whatever the kind of a picker, what a step does to the books is the same: a request is taken up under a new
id, refused at once, or ended.
-/

namespace ChromiumHmos.Shell

open Transition Base Mailbox Lib

namespace Pickers

/-- The pickers open, each as its request id and its callback, with the counts that are kept of them. -/
structure Books where
  shown : List (Nat × Nat)
  nextRequestId : Nat
  count : Int
  asked : Nat
  log : List PickerEvent

def shownOf (chooser : DateTimeChooser) : Option (Nat × Nat) :=
  chooser.callback.map fun callback => (chooser.requestId, callback)

def books (s : Pickers) : Books where
  shown := s.choosers.filterMap (fun entry => shownOf entry.2) ++ s.selectPopupRequests ++
    s.contactsPickerRequests.map fun entry => (entry.1, entry.2.done)
  nextRequestId := s.nextRequestId
  count := s.openShellPickers
  asked := s.asked
  log := s.log

inductive Ends (requestId callback : Nat) : PickerEvent -> Prop
  | ran (answer : PickerAnswer) : Ends requestId callback (.ran callback answer)
  | answered (answer : PickerAnswer) : Ends requestId callback (.answered callback requestId answer)
  | takenBack : Ends requestId callback (.takenBack callback requestId)

/-- One entry in the books. -/
inductive Turn : Books -> Books -> Prop
  | shuffled {b : Books} {shown : List (Nat × Nat)} (same : shown.Perm b.shown) : Turn b { b with shown }
  | told {b : Books} (requestId : Nat) :
      Turn b { b with log := b.log ++ [.dateTimePickerClosed requestId] }
  | refused {b : Books} (answer : PickerAnswer) :
      Turn b { b with asked := b.asked + 1, log := b.log ++ [.ran b.asked answer] }
  | taken {b : Books} {shown : List (Nat × Nat)} (more : shown.Perm ((b.nextRequestId, b.asked) :: b.shown)) :
      Turn b
        { shown
          nextRequestId := b.nextRequestId + 1
          count := b.count + 1
          asked := b.asked + 1
          log := b.log ++ [.requested b.asked b.nextRequestId] }
  | ended {b : Books} {shown : List (Nat × Nat)} {requestId callback : Nat} {event : PickerEvent}
      (fewer : b.shown.Perm ((requestId, callback) :: shown)) (ends : Ends requestId callback event) :
      Turn b { b with shown, count := b.count - 1, log := b.log ++ [event] }

abbrev Turns := Relation.ReflTransGen Turn

structure Sound (b : Books) : Prop where
  numbers : (b.shown.map Prod.fst).Nodup
  counted : b.count = b.shown.length
  accounted : Accounted (b.shown.map Prod.snd) (endedBy b.log) b.asked
  requested : forall request, request ∈ b.shown -> .requested request.2 request.1 ∈ b.log
  answered : forall callback requestId answer, .answered callback requestId answer ∈ b.log ->
    .requested callback requestId ∈ b.log
  known : forall callback requestId, .requested callback requestId ∈ b.log ->
    0 < requestId ∧ requestId < b.nextRequestId ∧ callback < b.asked
  positive : 0 < b.nextRequestId
  sameRequest : forall callback requestId other, .requested callback requestId ∈ b.log ->
    .requested callback other ∈ b.log -> requestId = other
  sameCallback : forall callback other requestId, .requested callback requestId ∈ b.log ->
    .requested other requestId ∈ b.log -> callback = other

theorem endedBy_snoc (log : List PickerEvent) (event : PickerEvent) :
    endedBy (log ++ [event]) = endedBy log ++ event.ended.toList := by
  rw [endedBy, List.filterMap_append, List.filterMap_cons, List.filterMap_nil]
  cases event.ended <;> rfl

variable {requestId callback id : Nat} {event : PickerEvent}

theorem Ends.ended (ends : Ends requestId callback event) : event.ended = some callback := by
  cases ends <;> rfl

theorem Ends.not_requested (ends : Ends requestId callback event)
    (other number : Nat) : event ≠ .requested other number := by
  cases ends <;> simp

theorem Ends.answers {other number : Nat} {answer : PickerAnswer}
    (ends : Ends requestId callback (.answered other number answer)) : other = callback /\ number = requestId := by
  cases ends
  exact ⟨rfl, rfl⟩

theorem mem_snoc {log : List PickerEvent} {other : PickerEvent} (apart : event ≠ other) :
    other ∈ log ++ [event] ↔ other ∈ log := by
  rw [List.mem_append, List.mem_singleton]
  exact or_iff_left (Ne.symm apart)

variable {b : Books} {shown : List (Nat × Nat)}

theorem Sound.shuffled (sound : Sound b) (same : shown.Perm b.shown) :
    Sound { b with shown } where
  numbers := (same.map Prod.fst).nodup_iff.mpr sound.numbers
  counted := by simpa [same.length_eq] using sound.counted
  accounted := sound.accounted.congr (same.map Prod.snd)
  requested := fun request member => sound.requested request (same.mem_iff.mp member)
  answered := sound.answered
  known := sound.known
  positive := sound.positive
  sameRequest := sound.sameRequest
  sameCallback := sound.sameCallback

theorem Sound.logged {count : Int} {asked : Nat}
    (sound : Sound b) (plain : ∀ callback requestId, event ≠ .requested callback requestId)
    (numbers : (shown.map Prod.fst).Nodup) (counted : count = shown.length)
    (accounted : Accounted (shown.map Prod.snd) (endedBy (b.log ++ [event])) asked)
    (fewer : ∀ request ∈ shown, request ∈ b.shown) (later : b.asked <= asked)
    (answers : ∀ callback requestId answer, event = .answered callback requestId answer ->
      .requested callback requestId ∈ b.log) :
    Sound { b with shown, count, asked, log := b.log ++ [event] } where
  numbers := numbers
  counted := counted
  accounted := accounted
  requested := fun request member =>
    List.mem_append_left _ (sound.requested request (fewer request member))
  answered := by
    intro callback requestId answer member
    refine List.mem_append_left _ ?_
    rcases List.mem_append.mp member with before | last
    · exact sound.answered callback requestId answer before
    · exact answers callback requestId answer (List.mem_singleton.mp last).symm
  known := by
    intro callback requestId member
    obtain ⟨positive, number, before⟩ := sound.known callback requestId ((mem_snoc (plain _ _)).mp member)
    exact ⟨positive, number, before.trans_le later⟩
  positive := sound.positive
  sameRequest := fun callback requestId other first second =>
    sound.sameRequest callback requestId other ((mem_snoc (plain _ _)).mp first) ((mem_snoc (plain _ _)).mp second)
  sameCallback := fun callback other requestId first second =>
    sound.sameCallback callback other requestId ((mem_snoc (plain _ _)).mp first) ((mem_snoc (plain _ _)).mp second)

theorem Sound.told (sound : Sound b) (requestId : Nat) :
    Sound { b with log := b.log ++ [.dateTimePickerClosed requestId] } :=
  sound.logged (by simp) sound.numbers sound.counted (by simpa [endedBy_snoc, PickerEvent.ended] using sound.accounted)
    (fun _ member => member) (le_refl _) (by simp)

theorem Sound.refused {b : Books} (sound : Sound b) (answer : PickerAnswer) :
    Sound { b with asked := b.asked + 1, log := b.log ++ [.ran b.asked answer] } :=
  sound.logged (by simp) sound.numbers sound.counted
    (by simpa [endedBy_snoc, PickerEvent.ended] using sound.accounted.refuse)
    (fun _ member => member) (Nat.le_succ _) (by simp)

theorem Sound.ended
    (sound : Sound b) (fewer : b.shown.Perm ((requestId, callback) :: shown))
    (ends : Ends requestId callback event) :
    Sound { b with shown, count := b.count - 1, log := b.log ++ [event] } := by
  have numbers := (fewer.map Prod.fst).nodup_iff.mp sound.numbers
  have accounted : Accounted (callback :: shown.map Prod.snd) (endedBy b.log) b.asked :=
    sound.accounted.congr (fewer.map Prod.snd).symm
  have member : (requestId, callback) ∈ b.shown := fewer.mem_iff.mpr List.mem_cons_self
  refine sound.logged ends.not_requested (List.nodup_cons.mp numbers).2 ?_ ?_
    (fun request inside => fewer.mem_iff.mpr (List.mem_cons_of_mem _ inside)) (le_refl _) ?_
  · have length := fewer.length_eq
    have counted := sound.counted
    simp only [List.length_cons] at length
    omega
  · rw [endedBy_snoc, ends.ended]
    exact Accounted.call [callback] accounted
  · rintro other number answer rfl
    obtain ⟨rfl, rfl⟩ := ends.answers
    exact sound.requested _ member

theorem Sound.taken (sound : Sound b) (more : shown.Perm ((b.nextRequestId, b.asked) :: b.shown)) :
    Sound
      { shown
        nextRequestId := b.nextRequestId + 1
        count := b.count + 1
        asked := b.asked + 1
        log := b.log ++ [.requested b.asked b.nextRequestId] } := by
  have unused (callback : Nat) : .requested callback b.nextRequestId ∉ b.log := fun member =>
    Nat.lt_irrefl _ (sound.known callback b.nextRequestId member).2.1
  have fresh (requestId : Nat) : .requested b.asked requestId ∉ b.log := fun member =>
    Nat.lt_irrefl _ (sound.known b.asked requestId member).2.2
  have split (callback requestId : Nat) :
      .requested callback requestId ∈ b.log ++ [.requested b.asked b.nextRequestId] ↔
        .requested callback requestId ∈ b.log \/ callback = b.asked /\ requestId = b.nextRequestId := by
    rw [List.mem_append, List.mem_singleton, PickerEvent.requested.injEq]
  constructor
  case numbers =>
    refine (more.map Prod.fst).nodup_iff.mpr (List.nodup_cons.mpr ⟨fun member => ?_, sound.numbers⟩)
    obtain ⟨request, inside, same⟩ := List.mem_map.mp member
    have taken := sound.requested request inside
    rw [same] at taken
    exact unused request.2 taken
  case counted =>
    have length := more.length_eq
    have counted := sound.counted
    simp only [List.length_cons] at length
    show b.count + 1 = (shown.length : Int)
    omega
  case accounted =>
    rw [endedBy_snoc]
    simpa [PickerEvent.ended] using sound.accounted.give.congr (more.map Prod.snd)
  case requested =>
    intro request member
    rw [split]
    rcases List.mem_cons.mp (more.mem_iff.mp member) with rfl | before
    · exact .inr ⟨rfl, rfl⟩
    · exact .inl (sound.requested request before)
  case answered =>
    intro callback requestId answer member
    exact List.mem_append_left _ (sound.answered callback requestId answer ((mem_snoc (by simp)).mp member))
  case known =>
    intro callback requestId member
    rcases (split callback requestId).mp member with before | ⟨rfl, rfl⟩
    · obtain ⟨positive, number, early⟩ := sound.known callback requestId before
      exact ⟨positive, number.trans (Nat.lt_succ_self _), early.trans (Nat.lt_succ_self _)⟩
    · exact ⟨sound.positive, Nat.lt_succ_self _, Nat.lt_succ_self _⟩
  case positive => exact Nat.succ_pos _
  case sameRequest =>
    intro callback requestId other first second
    rcases (split _ _).mp first with before | ⟨rfl, rfl⟩
    · rcases (split _ _).mp second with also | ⟨rfl, rfl⟩
      · exact sound.sameRequest callback requestId other before also
      · exact absurd before (fresh _)
    · rcases (split _ _).mp second with also | ⟨-, rfl⟩
      · exact absurd also (fresh _)
      · rfl
  case sameCallback =>
    intro callback other requestId first second
    rcases (split _ _).mp first with before | ⟨rfl, rfl⟩
    · rcases (split _ _).mp second with also | ⟨rfl, rfl⟩
      · exact sound.sameCallback callback other requestId before also
      · exact absurd before (unused _)
    · rcases (split _ _).mp second with also | ⟨rfl, -⟩
      · exact absurd also (unused _)
      · rfl

theorem Sound.turn {after : Books} (sound : Sound b) (turn : Turn b after) : Sound after := by
  cases turn with
  | shuffled same => exact sound.shuffled same
  | told requestId => exact sound.told requestId
  | refused answer => exact sound.refused answer
  | taken more => exact sound.taken more
  | ended fewer ends => exact sound.ended fewer ends

theorem Sound.turns {after : Books} (sound : Sound b) (turns : Turns b after) : Sound after := by
  induction turns with
  | refl => exact sound
  | tail _ turn ih => exact ih.turn turn

def dateOf (entry : Nat × DateTimeChooser) : Option (Nat × Nat) :=
  entry.2.callback.map fun _ => (entry.2.requestId, entry.1)

structure Shape (s : Pickers) : Prop where
  distinct : (s.choosers.map Prod.fst).Nodup
  known : forall entry, entry ∈ s.choosers -> entry.1 < s.nextChooser
  idle : forall entry, entry ∈ s.choosers -> (entry.2.callback = none ↔ entry.2.requestId = 0)
  dates : s.dateTimePickerRequests.Perm (s.choosers.filterMap dateOf)

theorem perm_replaced (choosers : List (Nat × DateTimeChooser)) (id : Nat) (other : DateTimeChooser) :
    (take choosers id ++ [(id, other)]).Perm ((id, other) :: take choosers id) :=
  List.perm_append_singleton _ _

variable {s t : Pickers} {c : DateTimeChooser}

theorem Shape.replace (shape : Shape s) {other : DateTimeChooser}
    (found : s.choosers.lookup id = some c) (choosers : t.choosers = take s.choosers id ++ [(id, other)])
    (nextChooser : t.nextChooser = s.nextChooser) (idle : other.callback = none ↔ other.requestId = 0)
    (dates : t.dateTimePickerRequests.Perm ((dateOf (id, other)).toList ++ (take s.choosers id).filterMap dateOf)) :
    Shape t := by
  have split := take_perm found
  have after : t.choosers.Perm ((id, other) :: take s.choosers id) := by
    rw [choosers]
    exact perm_replaced _ _ other
  have same : (t.choosers.map Prod.fst).Perm (s.choosers.map Prod.fst) :=
    (after.map Prod.fst).trans (split.map Prod.fst).symm
  constructor
  case distinct => exact same.nodup_iff.mpr shape.distinct
  case known =>
    intro entry member
    rw [nextChooser]
    rcases List.mem_cons.mp (after.mem_iff.mp member) with rfl | rest
    · exact shape.known (id, c) (mem_of_lookup found)
    · exact shape.known entry (split.mem_iff.mpr (List.mem_cons_of_mem _ rest))
  case idle =>
    intro entry member
    rcases List.mem_cons.mp (after.mem_iff.mp member) with rfl | rest
    · exact idle
    · exact shape.idle entry (split.mem_iff.mpr (List.mem_cons_of_mem _ rest))
  case dates =>
    refine dates.trans (List.Perm.trans ?_ (after.filterMap dateOf).symm)
    rw [List.filterMap_cons]
    cases dateOf (id, other) <;> exact .refl _

structure Kept (s : Pickers) : Prop where
  shape : Shape s
  sound : Sound s.books

theorem shown_replaced {other : DateTimeChooser}
    (found : s.choosers.lookup id = some c) (choosers : t.choosers = take s.choosers id ++ [(id, other)])
    (select : t.selectPopupRequests = s.selectPopupRequests)
    (contacts : t.contactsPickerRequests = s.contactsPickerRequests) :
    ∃ rest, s.books.shown.Perm ((shownOf c).toList ++ rest) /\
      t.books.shown.Perm ((shownOf other).toList ++ rest) := by
  refine ⟨(take s.choosers id).filterMap (fun entry => shownOf entry.2) ++ s.selectPopupRequests ++
    s.contactsPickerRequests.map fun entry => (entry.1, entry.2.done), ?_, ?_⟩
  · have before := filterMap_take shownOf found
    simpa [books, List.append_assoc] using before.append_right (s.selectPopupRequests ++
      s.contactsPickerRequests.map fun entry => (entry.1, entry.2.done))
  · have after : (t.choosers.filterMap fun entry => shownOf entry.2).Perm
        ((shownOf other).toList ++ (take s.choosers id).filterMap fun entry => shownOf entry.2) := by
      rw [choosers]
      refine ((perm_replaced _ _ other).filterMap _).trans ?_
      rw [List.filterMap_cons]
      cases shownOf other <;> exact .refl _
    simpa [books, select, contacts, List.append_assoc] using after.append_right (s.selectPopupRequests ++
      s.contactsPickerRequests.map fun entry => (entry.1, entry.2.done))

theorem idle_shows (idle : c.callback = none) : shownOf c = none := by simp [shownOf, idle]

theorem busy_shows (busy : c.callback = some callback) :
    shownOf c = some (c.requestId, callback) := by simp [shownOf, busy]

theorem Kept.date_request (kept : Kept s)
    (found : s.choosers.lookup id = some c) (busy : c.callback = some callback) :
    s.dateTimePickerRequests.lookup c.requestId = some id /\
      (take s.dateTimePickerRequests c.requestId).Perm ((take s.choosers id).filterMap dateOf) := by
  have split := (take_perm found).filterMap dateOf
  have date : dateOf (id, c) = some (c.requestId, id) := by simp [dateOf, busy]
  rw [List.filterMap_cons, date] at split
  have dates := kept.shape.dates.trans split
  have keys : ((s.choosers.filterMap dateOf).map Prod.fst) =
      (s.choosers.filterMap fun entry => shownOf entry.2).map Prod.fst := by
    rw [List.map_filterMap, List.map_filterMap]
    refine List.filterMap_congr fun entry _ => ?_
    rcases taken : entry.2.callback with _ | other <;> simp [dateOf, shownOf, taken]
  have distinct : (s.dateTimePickerRequests.map Prod.fst).Nodup := by
    refine (kept.shape.dates.map Prod.fst).nodup_iff.mpr ?_
    rw [keys]
    have all := kept.sound.numbers
    simp only [books, List.map_append, List.append_assoc] at all
    exact (List.nodup_append.mp all).1
  have there : s.dateTimePickerRequests.lookup c.requestId = some id :=
    lookup_of_mem distinct (dates.mem_iff.mpr List.mem_cons_self)
  exact ⟨there, ((take_perm there).symm.trans dates).cons_inv⟩

structure Moves (s t : Pickers) : Prop where
  shape : Shape t
  turns : Turns s.books t.books

theorem Kept.moves (kept : Kept s) (moves : Moves s t) : Kept t :=
  ⟨moves.shape, kept.sound.turns moves.turns⟩

theorem Moves.refl (kept : Kept s) : Moves s s := ⟨kept.shape, .refl⟩

theorem Moves.trans {u : Pickers} (first : Moves s t) (second : Moves t u) : Moves s u :=
  ⟨second.shape, first.turns.trans second.turns⟩

theorem finish_missing (s : Pickers) (id : Nat) (ended : Nat -> PickerEvent) (missing : s.choosers.lookup id = none) :
    s.finish id ended = s := by
  simp [finish, missing]

theorem finish_idle (kept : Kept s) (ended : Nat -> PickerEvent)
    (found : s.choosers.lookup id = some c) (idle : c.callback = none) :
    s.finish id ended = { s with choosers := take s.choosers id ++ [(id, c)] } := by
  have none_id : c.requestId = 0 := (kept.shape.idle (id, c) (mem_of_lookup found)).mp idle
  have same : ({ c with requestId := 0, callback := none } : DateTimeChooser) = c := by
    rw [<- none_id, <- idle]
  simp [finish, found, none_id, idle, same]

theorem finish_busy (kept : Kept s)
    (ended : Nat -> PickerEvent) (found : s.choosers.lookup id = some c) (busy : c.callback = some callback) :
    s.finish id ended =
      { s with
        choosers := take s.choosers id ++ [(id, { c with requestId := 0, callback := none })]
        dateTimePickerRequests := take s.dateTimePickerRequests c.requestId
        openShellPickers := s.openShellPickers - 1
        log := s.log ++ [ended callback] } := by
  have given : c.requestId ≠ 0 := fun zero =>
    absurd ((kept.shape.idle (id, c) (mem_of_lookup found)).mpr zero) (by simp [busy])
  simp [finish, found, given, busy]

theorem finish_moves (kept : Kept s) (id : Nat) (ended : Nat -> PickerEvent)
    (ends : ∀ c callback, s.choosers.lookup id = some c -> c.callback = some callback ->
      Ends c.requestId callback (ended callback)) : Moves s (s.finish id ended) := by
  rcases found : s.choosers.lookup id with _ | c
  · rw [finish_missing s id ended found]
    exact .refl kept
  rcases busy : c.callback with _ | callback
  · rw [finish_idle kept ended found busy]
    obtain ⟨rest, before, after⟩ := shown_replaced (t := { s with choosers := take s.choosers id ++ [(id, c)] })
      found rfl rfl rfl
    refine ⟨kept.shape.replace found rfl rfl (kept.shape.idle _ (mem_of_lookup found)) ?_,
      .single (.shuffled (after.trans before.symm))⟩
    refine kept.shape.dates.trans (((take_perm found).filterMap dateOf).trans ?_)
    rw [List.filterMap_cons]
    cases dateOf (id, c) <;> exact .refl _
  · rw [finish_busy kept ended found busy]
    obtain ⟨rest, before, after⟩ := shown_replaced
      (t := { s with
        choosers := take s.choosers id ++ [(id, { c with requestId := 0, callback := none })]
        dateTimePickerRequests := take s.dateTimePickerRequests c.requestId
        openShellPickers := s.openShellPickers - 1
        log := s.log ++ [ended callback] }) found rfl rfl rfl
    refine ⟨kept.shape.replace found rfl rfl (by simp) (kept.date_request found busy).2,
      .single (.ended ?_ (ends c callback found busy))⟩
    rw [busy_shows busy] at before
    exact before.trans (after.symm.cons _)

theorem finish_found (s : Pickers) (id : Nat) (ended : Nat -> PickerEvent)
    (distinct : (s.choosers.map Prod.fst).Nodup) (found : s.choosers.lookup id = some c) :
    (s.finish id ended).choosers.lookup id = some { c with requestId := 0, callback := none } := by
  have gone := take_gone distinct found
  have nodup : ((take s.choosers id ++ [(id, { c with requestId := 0, callback := none })]).map Prod.fst).Nodup := by
    refine ((perm_replaced _ _ _).map Prod.fst).nodup_iff.mpr ?_
    exact List.nodup_cons.mpr ⟨gone, take_nodup distinct id⟩
  have made : (s.finish id ended).choosers =
      take s.choosers id ++ [(id, { c with requestId := 0, callback := none })] := by
    simp [finish, found]
  rw [made]
  exact lookup_of_mem nodup (List.mem_append_right _ (List.mem_singleton_self _))

theorem failed_ends (requestId callback : Nat) : Ends requestId callback (failed callback) := .ran _

theorem bind_moves (kept : Kept s) (document : Nat) :
    Moves s (s.bindAuraShellDateTimeChooser document) := by
  refine ⟨⟨?_, ?_, ?_, ?_⟩, .single (.shuffled ?_)⟩
  · exact snoc_nodup kept.shape.distinct kept.shape.known _
  · intro entry member
    rcases List.mem_append.mp member with before | last
    · exact (kept.shape.known entry before).trans (Nat.lt_succ_self _)
    · obtain rfl := List.mem_singleton.mp last
      exact Nat.lt_succ_self _
  · intro entry member
    rcases List.mem_append.mp member with before | last
    · exact kept.shape.idle entry before
    · obtain rfl := List.mem_singleton.mp last
      simp
  · have none_new : [(s.nextChooser, { document : DateTimeChooser })].filterMap dateOf = [] := rfl
    simp only [bindAuraShellDateTimeChooser]
    rw [List.filterMap_append, none_new, List.append_nil]
    exact kept.shape.dates
  · simp [books, bindAuraShellDateTimeChooser, shownOf]

theorem show_moves (kept : Kept s) (id : Nat) (dialogType : TextInputType) (browser : Bool)
    (idle : ∀ c, s.choosers.lookup id = some c -> c.callback = none) :
    Moves s (s.showDateTimePicker id dialogType browser) := by
  rcases found : s.choosers.lookup id with _ | c
  · have made : s.showDateTimePicker id dialogType browser = s := by simp [showDateTimePicker, found]
    rw [made]
    exact .refl kept
  by_cases refused : (dateTimeTypeName dialogType).isNone \/ browser = false
  · have made : s.showDateTimePicker id dialogType browser =
        { s with log := s.log ++ [failed s.asked], asked := s.asked + 1 } := by
      simp only [showDateTimePicker, found, refused, if_true]
    rw [made]
    exact ⟨⟨kept.shape.distinct, kept.shape.known, kept.shape.idle, kept.shape.dates⟩, .single (.refused _)⟩
  · have made : s.showDateTimePicker id dialogType browser =
        { s with
          choosers := take s.choosers id ++
            [(id, { c with inputType := dialogType, requestId := s.nextRequestId, callback := some s.asked })]
          dateTimePickerRequests := s.dateTimePickerRequests ++ [(s.nextRequestId, id)]
          nextRequestId := s.nextRequestId + 1
          openShellPickers := s.openShellPickers + 1
          asked := s.asked + 1
          log := s.log ++ [.requested s.asked s.nextRequestId] } := by
      simp only [showDateTimePicker, found, refused, if_false]
    rw [made]
    obtain ⟨rest, before, after⟩ := shown_replaced
      (t := { s with
        choosers := take s.choosers id ++
          [(id, { c with inputType := dialogType, requestId := s.nextRequestId, callback := some s.asked })]
        dateTimePickerRequests := s.dateTimePickerRequests ++ [(s.nextRequestId, id)]
        nextRequestId := s.nextRequestId + 1
        openShellPickers := s.openShellPickers + 1
        asked := s.asked + 1
        log := s.log ++ [.requested s.asked s.nextRequestId] }) found rfl rfl rfl
    rw [idle_shows (idle c found)] at before
    have positive : s.nextRequestId ≠ 0 := Nat.ne_of_gt kept.sound.positive
    refine ⟨kept.shape.replace found rfl rfl (by simp [positive]) ?_, .single (.taken ?_)⟩
    · have none_before : dateOf (id, c) = none := by simp [dateOf, idle c found]
      have dates := kept.shape.dates.trans ((take_perm found).filterMap dateOf)
      rw [List.filterMap_cons, none_before] at dates
      exact (List.perm_append_singleton _ _).trans (dates.cons _)
    · exact after.trans (before.symm.cons _)

theorem open_moves (kept : Kept s) (id : Nat) (dialogType : TextInputType) (browser : Bool) :
    Moves s (s.openDateTimeDialog id dialogType browser) := by
  have finished := finish_moves kept id failed fun c callback _ _ => failed_ends c.requestId callback
  refine finished.trans (show_moves (kept.moves finished) id dialogType browser fun c found => ?_)
  rcases before : s.choosers.lookup id with _ | old
  · rw [finish_missing s id failed before, before] at found
    exact absurd found (by simp)
  · rw [finish_found s id failed kept.shape.distinct before] at found
    obtain rfl := Option.some.inj found
    rfl

theorem close_moves (kept : Kept s) (id : Nat) : Moves s (s.closeDateTimeDialog id) := by
  have finished := finish_moves kept id failed fun c callback _ _ => failed_ends c.requestId callback
  unfold closeDateTimeDialog
  split
  next => exact .refl kept
  next c found =>
    dsimp only
    split
    next => exact finished
    next =>
      refine finished.trans ⟨?_, .single (.told c.requestId)⟩
      exact ⟨finished.shape.distinct, finished.shape.known, finished.shape.idle, finished.shape.dates⟩

theorem Kept.requested_by (kept : Kept s)
    (requested : s.dateTimePickerRequests.lookup requestId = some id) (found : s.choosers.lookup id = some c) :
    c.requestId = requestId := by
  have member := kept.shape.dates.mem_iff.mp (mem_of_lookup requested)
  obtain ⟨⟨other, chooser⟩, inside, date⟩ := List.mem_filterMap.mp member
  obtain ⟨callback, -, same⟩ := Option.map_eq_some_iff.mp date
  obtain ⟨rfl, rfl⟩ := Prod.mk.inj same
  have own := lookup_of_mem kept.shape.distinct inside
  obtain rfl := Option.some.inj (own.symm.trans found)
  rfl

theorem completeDate_moves (kept : Kept s) (dateTimeFromShell : TextInputType -> String -> Option Int)
    (command : DictValue) : Moves s (s.completeShellDateTimePicker dateTimeFromShell command) := by
  unfold completeShellDateTimePicker
  split
  next => exact .refl kept
  next => exact .refl kept
  next requestId _ =>
    split
    next => exact .refl kept
    next chooser requested =>
      split
      next => exact .refl kept
      next c found =>
        refine finish_moves kept chooser _ fun other callback again _ => ?_
        rw [<- kept.requested_by requested again]
        exact .answered _

theorem Shape.same (shape : Shape s) (choosers : t.choosers = s.choosers)
    (requests : t.dateTimePickerRequests = s.dateTimePickerRequests) (nextChooser : t.nextChooser = s.nextChooser) :
    Shape t where
  distinct := by rw [choosers]; exact shape.distinct
  known := by rw [choosers, nextChooser]; exact shape.known
  idle := by rw [choosers]; exact shape.idle
  dates := by rw [choosers, requests]; exact shape.dates

theorem showSelect_moves (kept : Kept s) (browser : Bool) : Moves s (s.showShellSelectPopup browser) := by
  unfold showShellSelectPopup
  split
  next => exact ⟨kept.shape.same rfl rfl rfl, .single (.refused _)⟩
  next =>
    refine ⟨kept.shape.same rfl rfl rfl, .single (.taken ?_)⟩
    simp only [books, List.append_assoc]
    exact (List.perm_middle.append_left _).trans List.perm_middle

theorem select_shown {client : Nat} (found : s.selectPopupRequests.lookup requestId = some client) :
    s.books.shown.Perm ((requestId, client) ::
      { s with selectPopupRequests := take s.selectPopupRequests requestId }.books.shown) := by
  have front := ((take_perm found).append_left (s.choosers.filterMap fun entry => shownOf entry.2)).append_right
    (s.contactsPickerRequests.map fun entry => (entry.1, entry.2.done))
  exact front.trans (List.perm_middle.append_right _)

theorem selectDisconnected_moves (kept : Kept s) (requestId : Nat) :
    Moves s (s.selectPopupDisconnected requestId) := by
  unfold selectPopupDisconnected
  split
  next => exact .refl kept
  next client found => exact ⟨kept.shape.same rfl rfl rfl, .single (.ended (select_shown found) .takenBack)⟩

theorem completeSelect_moves (kept : Kept s) (command : DictValue) :
    Moves s (s.completeShellSelectPopup command) := by
  unfold completeShellSelectPopup
  split
  next => exact .refl kept
  next => exact .refl kept
  next requestId _ =>
    split
    next => exact .refl kept
    next client found => exact ⟨kept.shape.same rfl rfl rfl, .single (.ended (select_shown found) (.answered _))⟩

theorem showContacts_moves (kept : Kept s) (document : Nat) (browser : Bool) :
    Moves s (s.showShellContactsPicker document browser) := by
  unfold showShellContactsPicker
  split
  next => exact ⟨kept.shape.same rfl rfl rfl, .single (.refused _)⟩
  next =>
    refine ⟨kept.shape.same rfl rfl rfl, .single (.taken ?_)⟩
    simp only [books, List.map_append, List.map_cons, List.map_nil]
    rw [<- List.append_assoc]
    exact List.perm_append_singleton _ _

theorem contacts_shown {request : ContactsRequest}
    (found : s.contactsPickerRequests.lookup requestId = some request) :
    s.books.shown.Perm ((requestId, request.done) ::
      { s with contactsPickerRequests := take s.contactsPickerRequests requestId }.books.shown) := by
  have back := ((take_perm found).map fun entry => (entry.1, entry.2.done)).append_left
    (s.choosers.filterMap (fun entry => shownOf entry.2) ++ s.selectPopupRequests)
  exact back.trans List.perm_middle

theorem completeContacts_moves (kept : Kept s) (command : DictValue) :
    Moves s (s.completeShellContactsPicker command) := by
  unfold completeShellContactsPicker
  split
  next => exact .refl kept
  next => exact .refl kept
  next requestId _ =>
    split
    next => exact .refl kept
    next request found => exact ⟨kept.shape.same rfl rfl rfl, .single (.ended (contacts_shown found) (.answered _))⟩

theorem drop_moves (kept : Kept s) (id : Nat)
    (idle : ∀ c, s.choosers.lookup id = some c -> c.callback = none) :
    Moves s { s with choosers := take s.choosers id } := by
  rcases found : s.choosers.lookup id with _ | c
  · have same : { s with choosers := take s.choosers id } = s := by rw [take_missing found]
    rw [same]
    exact .refl kept
  have split := take_perm found
  have none_shown := idle_shows (idle c found)
  have none_date : dateOf (id, c) = none := by simp [dateOf, idle c found]
  refine ⟨⟨?_, ?_, ?_, ?_⟩, .single (.shuffled ?_)⟩
  · exact take_nodup kept.shape.distinct id
  · exact fun entry member => kept.shape.known entry ((take_sublist _ _).subset member)
  · exact fun entry member => kept.shape.idle entry ((take_sublist _ _).subset member)
  · have dates := kept.shape.dates.trans (split.filterMap dateOf)
    rwa [List.filterMap_cons, none_date] at dates
  · have shown := split.filterMap fun entry => shownOf entry.2
    rw [List.filterMap_cons] at shown
    simp only [none_shown] at shown
    exact ((shown.symm.append_right s.selectPopupRequests).append_right _)

theorem destroyChooser_moves (kept : Kept s) (id : Nat) : Moves s (s.destroyChooser id) := by
  have finished := finish_moves kept id failed fun c callback _ _ => failed_ends c.requestId callback
  refine finished.trans (drop_moves (kept.moves finished) id fun c found => ?_)
  rcases before : s.choosers.lookup id with _ | old
  · rw [finish_missing s id failed before, before] at found
    exact absurd found (by simp)
  · rw [finish_found s id failed kept.shape.distinct before] at found
    obtain rfl := Option.some.inj found
    rfl

theorem destroyChoosers_moves (ids : List Nat) (kept : Kept s) : Moves s (ids.foldl destroyChooser s) := by
  induction ids generalizing s with
  | nil => exact .refl kept
  | cons id rest ih =>
    have first := destroyChooser_moves kept id
    exact first.trans (ih (kept.moves first))

theorem destroyDocument_moves (kept : Kept s) (document : Nat) : Moves s (s.destroyDocument document) := by
  have marked : Moves s { s with destroyed := document :: s.destroyed } :=
    ⟨kept.shape.same rfl rfl rfl, .refl⟩
  exact marked.trans (destroyChoosers_moves _ (kept.moves marked))

theorem next_moves (dateTimeFromShell : TextInputType -> String -> Option Int) (kept : Kept s)
    (step : Step) : Moves s (s.next dateTimeFromShell step) := by
  cases step with
  | bindAuraShellDateTimeChooser document => exact bind_moves kept document
  | openDateTimeDialog chooser dialogType browser => exact open_moves kept chooser dialogType browser
  | closeDateTimeDialog chooser => exact close_moves kept chooser
  | chooserDisconnected chooser => exact destroyChooser_moves kept chooser
  | dateTimePickerResult command => exact completeDate_moves kept dateTimeFromShell command
  | showSelectPopup document browser => exact showSelect_moves kept browser
  | selectPopupDisconnected requestId => exact selectDisconnected_moves kept requestId
  | selectPopupResult command => exact completeSelect_moves kept command
  | showContactsPicker document browser => exact showContacts_moves kept document browser
  | contactsPickerResult command => exact completeContacts_moves kept command
  | destroyDocument document => exact destroyDocument_moves kept document

theorem kept_initial : Kept {} where
  shape := ⟨List.nodup_nil, fun _ member => absurd member List.not_mem_nil,
    fun _ member => absurd member List.not_mem_nil, .nil⟩
  sound :=
    { numbers := List.nodup_nil
      counted := rfl
      accounted := accounted_none
      requested := fun _ member => absurd member List.not_mem_nil
      answered := fun _ _ _ member => absurd member List.not_mem_nil
      known := fun _ _ member => absurd member List.not_mem_nil
      positive := Nat.one_pos
      sameRequest := fun _ _ _ member => absurd member List.not_mem_nil
      sameCallback := fun _ _ _ member => absurd member List.not_mem_nil }

theorem kept_run (dateTimeFromShell : TextInputType -> String -> Option Int) (kept : Kept s)
    (steps : List Step) : Kept (steps.foldl (next dateTimeFromShell) s) := by
  induction steps generalizing s with
  | nil => exact kept
  | cons step rest ih => exact ih (kept.moves (next_moves dateTimeFromShell kept step))

structure Beside (s t : Pickers) : Prop where
  contacts : t.contactsPickerRequests = s.contactsPickerRequests
  destroyed : t.destroyed = s.destroyed

theorem Beside.trans {u : Pickers} (first : Beside s t) (second : Beside t u) : Beside s u :=
  ⟨second.contacts.trans first.contacts, second.destroyed.trans first.destroyed⟩

theorem finish_beside (s : Pickers) (id : Nat) (ended : Nat -> PickerEvent) : Beside s (s.finish id ended) := by
  unfold finish
  split <;> exact ⟨rfl, rfl⟩

theorem show_beside (s : Pickers) (id : Nat) (dialogType : TextInputType) (browser : Bool) :
    Beside s (s.showDateTimePicker id dialogType browser) := by
  unfold showDateTimePicker
  split
  next => exact ⟨rfl, rfl⟩
  next => split <;> exact ⟨rfl, rfl⟩

theorem close_beside (s : Pickers) (id : Nat) : Beside s (s.closeDateTimeDialog id) := by
  have finished := finish_beside s id failed
  unfold closeDateTimeDialog
  split
  next => exact ⟨rfl, rfl⟩
  next =>
    dsimp only
    split
    next => exact finished
    next => exact ⟨finished.contacts, finished.destroyed⟩

theorem completeDate_beside (s : Pickers) (dateTimeFromShell : TextInputType -> String -> Option Int)
    (command : DictValue) : Beside s (s.completeShellDateTimePicker dateTimeFromShell command) := by
  unfold completeShellDateTimePicker
  split
  next => exact ⟨rfl, rfl⟩
  next => exact ⟨rfl, rfl⟩
  next =>
    split
    next => exact ⟨rfl, rfl⟩
    next =>
      split
      next => exact ⟨rfl, rfl⟩
      next => exact finish_beside s _ _

theorem select_beside (s : Pickers) (browser : Bool) : Beside s (s.showShellSelectPopup browser) := by
  unfold showShellSelectPopup
  split <;> exact ⟨rfl, rfl⟩

theorem selectDisconnected_beside (s : Pickers) (requestId : Nat) : Beside s (s.selectPopupDisconnected requestId) := by
  unfold selectPopupDisconnected
  split <;> exact ⟨rfl, rfl⟩

theorem completeSelect_beside (s : Pickers) (command : DictValue) : Beside s (s.completeShellSelectPopup command) := by
  unfold completeShellSelectPopup
  split
  next => exact ⟨rfl, rfl⟩
  next => exact ⟨rfl, rfl⟩
  next => split <;> exact ⟨rfl, rfl⟩

theorem destroyChooser_beside (s : Pickers) (id : Nat) : Beside s (s.destroyChooser id) :=
  have finished := finish_beside s id failed
  ⟨finished.contacts, finished.destroyed⟩

theorem destroyChoosers_beside (ids : List Nat) (s : Pickers) : Beside s (ids.foldl destroyChooser s) := by
  induction ids generalizing s with
  | nil => exact ⟨rfl, rfl⟩
  | cons id rest ih => exact (destroyChooser_beside s id).trans (ih _)

def Attended (s : Pickers) : Prop := forall entry, entry ∈ s.contactsPickerRequests -> entry.2.document ∉ s.destroyed

theorem Attended.beside (attended : Attended s) (beside : Beside s t) : Attended t := by
  unfold Attended
  rw [beside.contacts, beside.destroyed]
  exact attended

/-- No document goes while a contacts request of it is open. -/
def Careful (s : Pickers) : Step -> Prop
  | .destroyDocument document => forall entry, entry ∈ s.contactsPickerRequests -> entry.2.document ≠ document
  | _ => True

theorem showContacts_attended (attended : Attended s) {document : Nat} (there : document ∉ s.destroyed)
    (browser : Bool) : Attended (s.showShellContactsPicker document browser) := by
  unfold showShellContactsPicker
  split
  next => exact attended
  next =>
    intro entry member
    rcases List.mem_append.mp member with before | last
    · exact attended entry before
    · obtain rfl := List.mem_singleton.mp last
      exact there

theorem completeContacts_attended (attended : Attended s) (command : DictValue) :
    Attended (s.completeShellContactsPicker command) := by
  unfold completeShellContactsPicker
  split
  next => exact attended
  next => exact attended
  next =>
    split
    next => exact attended
    next => exact fun entry member => attended entry ((take_sublist _ _).subset member)

theorem destroyDocument_attended (attended : Attended s) {document : Nat}
    (careful : Careful s (.destroyDocument document)) : Attended (s.destroyDocument document) := by
  have marked : Attended { s with destroyed := document :: s.destroyed } := by
    intro entry member gone
    rcases List.mem_cons.mp gone with same | before
    · exact careful entry member same
    · exact attended entry member before
  exact marked.beside (destroyChoosers_beside _ _)

theorem next_attended (dateTimeFromShell : TextInputType -> String -> Option Int) (attended : Attended s)
    (step : Step) (allowed : Allowed s step) (careful : Careful s step) : Attended (s.next dateTimeFromShell step) := by
  cases step with
  | bindAuraShellDateTimeChooser document => exact attended.beside ⟨rfl, rfl⟩
  | openDateTimeDialog chooser dialogType browser =>
    exact attended.beside ((finish_beside s chooser failed).trans (show_beside _ chooser dialogType browser))
  | closeDateTimeDialog chooser => exact attended.beside (close_beside s chooser)
  | chooserDisconnected chooser => exact attended.beside (destroyChooser_beside s chooser)
  | dateTimePickerResult command => exact attended.beside (completeDate_beside s dateTimeFromShell command)
  | showSelectPopup document browser => exact attended.beside (select_beside s browser)
  | selectPopupDisconnected requestId => exact attended.beside (selectDisconnected_beside s requestId)
  | selectPopupResult command => exact attended.beside (completeSelect_beside s command)
  | showContactsPicker document browser => exact showContacts_attended attended allowed browser
  | contactsPickerResult command => exact completeContacts_attended attended command
  | destroyDocument document => exact destroyDocument_attended attended careful

theorem attended_run (dateTimeFromShell : TextInputType -> String -> Option Int) {steps : List Step}
    (attended : Attended s) (run : Follows Allowed (next dateTimeFromShell) s steps)
    (careful : Follows Careful (next dateTimeFromShell) s steps) :
    Attended (steps.foldl (next dateTimeFromShell) s) := by
  have each (t : Pickers) (step : Step) (before : Attended t) (both : Allowed t step /\ Careful t step) :
      Attended (t.next dateTimeFromShell step) := next_attended dateTimeFromShell before step both.1 both.2
  exact (run.and careful).preserves each attended

theorem held_books (s : Pickers) : s.books.shown.map Prod.snd = s.held := by
  have choosers : (s.choosers.filterMap fun entry => shownOf entry.2).map Prod.snd =
      s.choosers.filterMap fun entry => entry.2.callback := by
    rw [List.map_filterMap]
    refine List.filterMap_congr fun entry _ => ?_
    rcases taken : entry.2.callback with _ | callback <;> simp [shownOf, taken]
  simp only [books, held, List.map_append, choosers, List.map_map, Function.comp_def]

theorem held_length (s : Pickers) : s.held.length = s.waiting + s.orphans.length := by
  have split := List.length_eq_length_filter_add (l := s.contactsPickerRequests)
    fun entry => decide (entry.2.document ∈ s.destroyed)
  have others : (s.contactsPickerRequests.filter fun entry => !decide (entry.2.document ∈ s.destroyed)) =
      s.contactsPickerRequests.filter fun entry => entry.2.document ∉ s.destroyed := by
    simp
  rw [others] at split
  simp only [held, waiting, orphans, List.length_append, List.length_map]
  omega

theorem Attended.no_orphans (attended : Attended s) : s.orphans = [] := by
  refine List.filter_eq_nil_iff.mpr fun entry member => ?_
  simpa using attended entry member

theorem ignored (kept : Kept s) (dateTimeFromShell : TextInputType -> String -> Option Int)
    {command : DictValue}
    (unknown : ∀ requestId : Nat, command.findInt "requestId" = some requestId ->
      requestId ∉ s.books.shown.map Prod.fst) :
    s.next dateTimeFromShell (.dateTimePickerResult command) = s /\
      s.next dateTimeFromShell (.selectPopupResult command) = s /\
      s.next dateTimeFromShell (.contactsPickerResult command) = s := by
  rcases given : command.findInt "requestId" with _ | requestId | negative
  · simp [next, completeShellDateTimePicker, completeShellSelectPopup, completeShellContactsPicker, given]
  · have missing := unknown requestId given
    have noDate : s.dateTimePickerRequests.lookup requestId = none := by
      rcases found : s.dateTimePickerRequests.lookup requestId with _ | id
      · rfl
      have member := kept.shape.dates.mem_iff.mp (mem_of_lookup found)
      obtain ⟨⟨other, chooser⟩, inside, date⟩ := List.mem_filterMap.mp member
      obtain ⟨callback, busy, same⟩ := Option.map_eq_some_iff.mp date
      have shown : (requestId, callback) ∈ s.books.shown := by
        refine List.mem_append_left _ (List.mem_append_left _ (List.mem_filterMap.mpr ⟨_, inside, ?_⟩))
        rw [busy_shows busy, (Prod.mk.inj same).1]
      exact absurd (List.mem_map_of_mem shown) missing
    have noSelect : s.selectPopupRequests.lookup requestId = none := by
      rcases found : s.selectPopupRequests.lookup requestId with _ | client
      · rfl
      have shown : (requestId, client) ∈ s.books.shown :=
        List.mem_append_left _ (List.mem_append_right _ (mem_of_lookup found))
      exact absurd (List.mem_map_of_mem shown) missing
    have noContacts : s.contactsPickerRequests.lookup requestId = none := by
      rcases found : s.contactsPickerRequests.lookup requestId with _ | request
      · rfl
      have shown : (requestId, request.done) ∈ s.books.shown :=
        List.mem_append_right _ (List.mem_map.mpr ⟨_, mem_of_lookup found, rfl⟩)
      exact absurd (List.mem_map_of_mem shown) missing
    simp [next, completeShellDateTimePicker, completeShellSelectPopup, completeShellContactsPicker, given, noDate,
      noSelect, noContacts]
  · simp [next, completeShellDateTimePicker, completeShellSelectPopup, completeShellContactsPicker, given]

/-- In every run each callback a page gave is held or has ended once, what it was called with is the shell's
answer to its own request or none of the shell's, a result for a picker that has ended changes nothing, and the
counter is the number of pickers held: of those whose page waits and of the contacts requests whose document
is gone. With no such request it is the number of pickers whose page waits. -/
theorem shell_pickers_counted (dateTimeFromShell : TextInputType -> String -> Option Int) (steps : List Step)
    (run : Follows Allowed (next dateTimeFromShell) {} steps) :
    let s := steps.foldl (next dateTimeFromShell) {}
    Accounted s.held (endedBy s.log) s.asked ∧
      (forall callback requestId answer, .answered callback requestId answer ∈ s.log ->
        .requested callback requestId ∈ s.log ∧
          forall other, .requested other requestId ∈ s.log -> other = callback) ∧
      (forall command, (forall callback (requestId : Nat), callback ∈ s.held ->
          .requested callback requestId ∈ s.log -> command.findInt "requestId" ≠ some (requestId : Int)) ->
        s.next dateTimeFromShell (.dateTimePickerResult command) = s ∧
          s.next dateTimeFromShell (.selectPopupResult command) = s ∧
          s.next dateTimeFromShell (.contactsPickerResult command) = s) ∧
      0 <= s.openShellPickers ∧ s.openShellPickers = s.waiting + s.orphans.length ∧
      (Follows Careful (next dateTimeFromShell) {} steps -> s.openShellPickers = s.waiting) := by
  intro s
  have kept : Kept s := kept_run dateTimeFromShell kept_initial steps
  have counted : s.openShellPickers = s.waiting + s.orphans.length := by
    have shown := kept.sound.counted
    have length : s.books.shown.length = s.held.length := by rw [← held_books, List.length_map]
    have parts := held_length s
    change s.openShellPickers = (s.books.shown.length : Int) at shown
    omega
  refine ⟨?_, ?_, ?_, ?_, counted, fun careful => ?_⟩
  · exact held_books s ▸ kept.sound.accounted
  · intro callback requestId answer member
    have own := kept.sound.answered callback requestId answer member
    exact ⟨own, fun other also => kept.sound.sameCallback other callback requestId also own⟩
  · intro command unheld
    refine ignored kept dateTimeFromShell fun requestId given member => ?_
    obtain ⟨request, inside, rfl⟩ := List.mem_map.mp member
    have its : request.2 ∈ s.held := held_books s ▸ List.mem_map_of_mem inside
    exact unheld request.2 request.1 its (kept.sound.requested request inside) given
  · omega
  · have attended : Attended s :=
      attended_run dateTimeFromShell (fun _ member => absurd member List.not_mem_nil) run careful
    rw [counted, attended.no_orphans]
    simp

instance decidableAllowed (s : Pickers) : (step : Step) -> Decidable (Allowed s step)
  | .bindAuraShellDateTimeChooser document | .showSelectPopup document _ | .showContactsPicker document _ =>
    inferInstanceAs (Decidable (document ∉ s.destroyed))
  | .openDateTimeDialog chooser _ _ => inferInstanceAs (Decidable ((s.choosers.lookup chooser).isSome = true))
  | .closeDateTimeDialog _ | .chooserDisconnected _ | .dateTimePickerResult _ | .selectPopupDisconnected _
  | .selectPopupResult _ | .contactsPickerResult _ | .destroyDocument _ => isTrue trivial

/-- A date is chosen, a menu is taken back and the contacts are cancelled. -/
def threePickers : List Step :=
  [.bindAuraShellDateTimeChooser 1, .openDateTimeDialog 0 .date true, .showSelectPopup 1 true,
   .showContactsPicker 1 true, .dateTimePickerResult [("requestId", .int 1), ("value", .string "2026-10-03")],
   .selectPopupDisconnected 2]

theorem shell_pickers_counted_three :
    let s := threePickers.foldl (next fun _ _ => some 1790985600000) {}
    s.openShellPickers = s.waiting ∧ s.waiting = 1 ∧
      s.log = [.requested 0 1, .requested 1 2, .requested 2 3, .answered 0 1 (.dateTime true (some 1790985600000)),
        .takenBack 1 2] := by
  intro s
  have whole := shell_pickers_counted (fun _ _ => some 1790985600000) threePickers (by decide)
  exact ⟨whole.2.2.2.2.2 ⟨trivial, trivial, trivial, trivial, trivial, trivial, trivial⟩, by decide,
    by decide⟩

/-- The page that asked for contacts is gone, and the shell need not answer. -/
def abandonedContacts : List Step := [.showContactsPicker 1 true, .destroyDocument 1]

theorem abandoned_contacts_counted :
    let s := abandonedContacts.foldl (next fun _ _ => none) {}
    Follows Allowed (next fun _ _ => none) {} abandonedContacts ∧ s.waiting = 0 ∧ s.openShellPickers = 1 := by
  decide

end Pickers

end ChromiumHmos.Shell
