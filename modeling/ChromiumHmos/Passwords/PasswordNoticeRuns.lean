import ChromiumHmos.Passwords.PasswordNotices

set_option autoImplicit false

/-!
# Runs of the password notices

An alteration waits in the inbox until it is heard, then for the batch that is applied, then for the
timer.
-/

namespace ChromiumHmos.Passwords

open Base Std Transition History Progress
open UrlProtection (GURL UrlLibrary)

namespace PasswordSync

variable (platform : SyncPlatform)

def Noticing (s : PasswordSync) : Prop :=
  s.alive = true → NoticeInv s ∧ Reading s ∧
    ∃ seen, Tracks platform s seen ∧ Replays platform s.salt seen s.inbox s.store

variable {platform}

section Step

variable {s t : PasswordSync}

theorem Still.reading (still : Still s t) (reading : Reading s) : Reading t := by
  intro busy
  obtain ⟨callback, mem, applies⟩ := reading (still.applying ▸ busy)
  exact ⟨callback, still.reads.mem_iff.mpr mem, applies⟩

theorem head_of_inTurn {id : ℕ} (turn : s.InTurn (.deliver id)) :
    ∃ message rest, s.inbox = (id, message) :: rest /\ s.inbox.lookup id = some message /\
      Mailbox.take s.inbox id = rest := by
  unfold InTurn at turn
  cases inbox : s.inbox with
  | nil =>
    rw [inbox] at turn
    cases turn
  | cons head rest =>
    obtain ⟨number, message⟩ := head
    rw [inbox] at turn
    obtain rfl : number = id := by simpa using turn
    exact ⟨message, rest, rfl, by simp, by simp [Mailbox.take]⟩

theorem revoked_noticing (inv : NoticeInv s) (reading : Reading s) {seen : List StoredCredential}
    (replays : Replays platform s.salt seen s.inbox s.store) : Noticing platform (s.setAuthorized false) :=
  fun _ => ⟨⟨inv.there, inv.forms, rfl, fun _ => rfl, nofun⟩, (setAuthorized_still s false).reading reading,
    seen, nofun, replays⟩

theorem granted_noticing (inv : NoticeInv s) (reading : Reading s) (unauthorized : s.authorized = false)
    {seen : List StoredCredential} (replays : Replays platform s.salt seen s.inbox s.store) :
    Noticing platform (s.setAuthorized true) := by
  have still := (setAuthorized_still s true).reading reading
  have idle : s.observing = false := inv.watching.trans unauthorized
  have unread := inv.unread idle
  have is : s.setAuthorized true =
      ({ s with authorized := true, observing := true }.note (.authorized true)).post (.read .baseline) := by
    simp [setAuthorized, startWatching, note, idle, inv.there]
  rw [is] at still ⊢
  refine fun _ => ⟨⟨inv.there, inv.forms, rfl, fun no => absurd no.symm Bool.false_ne_true, inv.held⟩, still, seen,
    fun fingerprints some => ?_, replays⟩
  exact absurd (unread.symm.trans some) (by simp)

theorem next_noticing (nonempty : ∀ text, platform.sha256 text ≠ "") (noticing : Noticing platform s) {op : SyncOp}
    (permitted : s.permitted op) (turn : s.InTurn op) (notices : s.Notices platform op) :
    Noticing platform (s.next platform op) := by
  intro lives
  have alive := next_alive permitted lives
  obtain ⟨inv, reading, seen, tracks, replays⟩ := noticing alive
  have still (command : ∀ widget otr name fields, op ≠ .command widget otr name fields) (destroy : op ≠ .destroy)
      (deliver : ∀ id, op ≠ .deliver id) : Reading (s.next platform op) :=
    (next_still command destroy fun id _ is => absurd is (deliver id)).reading reading
  cases op with
  | command widget otr name fields =>
    rcases handleCommand_cases inv widget otr name fields with aside | is | ⟨refused, is⟩
    · refine ⟨aside.inv inv, aside.reading reading, seen, aside.tracks tracks, ?_⟩
      rw [next, aside.salt, aside.inbox, aside.store]
      exact replays
    · rw [next, is] at lives ⊢
      exact revoked_noticing inv reading replays lives
    · rw [next, is] at lives ⊢
      exact granted_noticing inv reading refused replays lives
  | external w =>
    refine ⟨⟨inv.there, inv.forms.run w, inv.watching, inv.unread, inv.held⟩, ?_, seen, tracks, ?_⟩
    · exact still (by simp) (by simp) (by simp)
    · exact replays.snoc (.changed inv.forms notices.1)
  | retain logins =>
    refine ⟨⟨inv.there, permitted, inv.watching, inv.unread, inv.held⟩, ?_, seen, tracks, ?_⟩
    · exact still (by simp) (by simp) (by simp)
    · exact replays.snoc (.retained _ _)
  | perform id ok =>
    obtain ⟨task, found⟩ := Mailbox.lookup_some permitted
    have reading := still (by simp) (by simp) (by simp)
    dsimp only [next] at reading ⊢
    rw [found] at reading ⊢
    cases task with
    | read callback =>
      refine ⟨⟨inv.there, inv.forms, inv.watching, inv.unread, inv.held⟩, reading, seen, tracks, ?_⟩
      cases ok with
      | false => exact replays.snoc (.failed _ callback)
      | true => exact replays.snoc (.read _ callback)
    | write w =>
      cases ok with
      | false =>
        exact ⟨⟨inv.there, inv.forms, inv.watching, inv.unread, inv.held⟩, reading, seen, tracks, replays⟩
      | true =>
        refine ⟨⟨inv.there, inv.forms.run w, inv.watching, inv.unread, inv.held⟩, reading, seen, tracks, ?_⟩
        exact replays.snoc (.changed inv.forms (notices rfl w found))
  | deliver id =>
    obtain ⟨message, rest, inbox, found, taken⟩ := head_of_inTurn turn
    rw [inbox] at replays
    cases replays with
    | cons first later =>
      have heard := deliver_heard nonempty alive inv reading tracks found first notices
      refine ⟨heard.inv, heard.reading, _, heard.tracks, ?_⟩
      rw [heard.salt, heard.inbox, heard.store]
      change Replays platform s.salt _ (Mailbox.take s.inbox id) s.store
      rw [taken]
      exact later
  | changeTimer =>
    exact ⟨⟨inv.there, inv.forms, inv.watching, inv.unread, inv.held⟩, reading, seen, tracks, replays⟩
  | tick elapsed =>
    exact ⟨⟨inv.there, inv.forms, inv.watching, inv.unread, inv.held⟩, reading, seen, tracks, replays⟩
  | destroy => cases lives

structure Keeps (s t : PasswordSync) : Prop where
  alive : t.alive = s.alive
  salt : t.salt = s.salt
  authorized : t.authorized = s.authorized
  fingerprints : t.fingerprints = s.fingerprints
  held : t.held = s.held
  inbox : s.inbox <+: t.inbox

theorem next_keeps (inv : NoticeInv s) (authorized : s.authorized = true) {op : SyncOp}
    (deliver : ∀ id, op ≠ .deliver id) (destroy : op ≠ .destroy) :
    (s.next platform op).authorized = false \/ Keeps s (s.next platform op) := by
  have same : Keeps s s := ⟨rfl, rfl, rfl, rfl, rfl, List.prefix_rfl⟩
  cases op with
  | command widget otr name fields =>
    rcases handleCommand_cases inv widget otr name fields with aside | is | ⟨refused, -⟩
    · exact .inr ⟨aside.alive, aside.salt, aside.authorized, aside.fingerprints, aside.held,
        aside.inbox.symm ▸ List.prefix_rfl⟩
    · rw [next, is]
      exact .inl rfl
    · exact absurd (refused.symm.trans authorized) Bool.false_ne_true
  | perform id ok =>
    right
    dsimp only [next]
    cases s.tasks.lookup id with
    | none => exact same
    | some task =>
      cases task with
      | read callback => exact ⟨rfl, rfl, rfl, rfl, rfl, List.prefix_append _ _⟩
      | write w =>
        cases ok with
        | false => exact ⟨rfl, rfl, rfl, rfl, rfl, List.prefix_rfl⟩
        | true => exact ⟨rfl, rfl, rfl, rfl, rfl, List.prefix_append _ _⟩
  | deliver id => exact absurd rfl (deliver id)
  | destroy => exact absurd rfl destroy
  | external w => exact .inr ⟨rfl, rfl, rfl, rfl, rfl, List.prefix_append _ _⟩
  | retain logins => exact .inr ⟨rfl, rfl, rfl, rfl, rfl, List.prefix_append _ _⟩
  | changeTimer => exact .inr ⟨rfl, rfl, rfl, rfl, rfl, List.prefix_rfl⟩
  | tick elapsed => exact .inr ⟨rfl, rfl, rfl, rfl, rfl, List.prefix_rfl⟩

variable (platform) in
def Unheard (ahead id : ℕ) (s : PasswordSync) : Prop :=
  ∃ seen front number message back before after, s.inbox = front ++ (number, message) :: back ∧
    front.length = ahead ∧ s.inbox.head?.map Prod.fst = some id ∧ Tracks platform s seen ∧
      Replays platform s.salt seen front before ∧ Moves platform s.salt before message after ∧
        fingerprintsOf platform s.salt before ≠ fingerprintsOf platform s.salt after

variable (platform) in
def Owed (stage : Stage) (s : PasswordSync) : Prop :=
  s.alive = true ∧ s.authorized = true ∧ match stage.ahead with
    | 0 => s.held = true ∧ ∃ callback, s.UnderWay stage.id stage.asked callback ∧ callback.applies = true ∧
        callback.rest = stage.rest
    | ahead + 1 => stage.asked = false ∧ Unheard platform ahead stage.id s

def Due (s : PasswordSync) : Prop := s.changeTimer = true ∨ s.authorized = false ∨ s.alive = false

variable (platform) in
theorem owing_stage (alive : s.alive = true) (authorized : s.authorized = true) (inv : NoticeInv s)
    (reading : Reading s) (owing : Owing s) : Due s \/ ∃ stage, stage.ahead = 0 /\ Owed platform stage s := by
  rcases owing with held | timer
  · obtain ⟨callback, mem, applies⟩ := reading (inv.held held)
    obtain ⟨id, asked, under, -⟩ := underWay_of_mem mem
    exact .inr ⟨⟨0, callback.rest, asked, id⟩, rfl, alive, authorized, held, callback, under, applies, rfl⟩
  · exact .inl (.inl timer)

theorem unheard_progress (nonempty : ∀ text, platform.sha256 text ≠ "") (alive : s.alive = true)
    (authorized : s.authorized = true) (noticing : Noticing platform s) {ahead id : ℕ}
    (unheard : Unheard platform ahead id s) (notices : s.Notices platform (.deliver id)) :
    Due (s.next platform (.deliver id)) \/
      ∃ stage, stage.ahead < ahead + 1 /\ Owed platform stage (s.next platform (.deliver id)) := by
  obtain ⟨seen, front, number, message, back, before, after, inbox, length, head, tracks, replays, moves, altered⟩ :=
    unheard
  obtain ⟨inv, reading, -⟩ := noticing alive
  obtain ⟨first, rest, is, found, taken⟩ := head_of_inTurn head
  cases replays with
  | nil =>
    obtain ⟨same, -⟩ := List.cons.inj (is.symm.trans inbox)
    obtain ⟨rfl, rfl⟩ := Prod.mk.inj same
    have heard := deliver_heard nonempty alive inv reading tracks found moves notices
    refine (owing_stage platform (heard.alive.trans alive) (heard.authorized.trans authorized) heard.inv heard.reading
      (heard.owing authorized altered)).imp_right ?_
    rintro ⟨stage, none, owed⟩
    exact ⟨stage, none ▸ Nat.succ_pos _, owed⟩
  | @cons _ between _ _ _ front' move later =>
    obtain ⟨same, tail⟩ := List.cons.inj (is.symm.trans inbox)
    obtain ⟨rfl, rfl⟩ := Prod.mk.inj same
    have heard := deliver_heard nonempty alive inv reading tracks found move notices
    have left : (s.next platform (.deliver id)).inbox = front' ++ (number, message) :: back :=
      (heard.inbox.trans taken).trans tail
    obtain ⟨next, waits⟩ : ∃ next, (s.next platform (.deliver id)).inbox.head?.map Prod.fst = some next := by
      rw [left]
      cases front' with
      | nil => exact ⟨number, rfl⟩
      | cons entry _ => exact ⟨entry.1, rfl⟩
    refine .inr ⟨⟨front'.length + 1, 0, false, next⟩, ?_, heard.alive.trans alive,
      heard.authorized.trans authorized, rfl, between, front', number, message, back, before, after, left, rfl,
      waits, heard.tracks, ?_⟩
    · rw [<- length]
      exact Nat.lt_succ_self _
    · rw [heard.salt]
      exact ⟨later, moves, altered⟩

theorem onApplyWritten_due (authorized : s.authorized = true) (there : s.storeThere = true) (target : ReplyTarget)
    (failedKeys : List String) {written : ℕ} (some : written ≠ 0) (logins : Option (List StoredCredential)) :
    (s.onApplyWritten platform target failedKeys written logins).changeTimer = true := by
  have based : (s.onBaseline platform logins).authorized = s.authorized := onBaseline_authorized s logins
  have still : Still s (s.onBaseline platform logins) := onBaseline_still s logins
  unfold onApplyWritten
  rw [onBaseline_idle]
  dsimp only
  rw [if_pos (Nat.pos_of_ne_zero some)]
  unfold scheduleChanged
  rw [if_neg (by simp [sendOpResult, send, note, based, authorized])]
  refine (runNextApply_aside ?_ _).changeTimer.trans rfl
  exact still.storeThere.trans there

theorem runCallback_loud (authorized : s.authorized = true) (there : s.storeThere = true) {callback : LoginsCallback}
    (applies : callback.applies = true) {logins : Option (List StoredCredential)}
    (loud : s.endsQuietly logins callback = false) :
    (s.runCallback platform logins callback).changeTimer = true \/ callback.rest = 1 /\
      (s.runCallback platform logins callback).held = s.held /\ ∃ id written, written.applies = true /\
        written.rest = 0 /\ (s.runCallback platform logins callback).UnderWay id true written := by
  cases callback with
  | baseline => cases applies
  | snapshot target => cases applies
  | applyRead target ops =>
    obtain ⟨read, -, -, is⟩ := onApplyRead_writes platform loud
    have aside := writes_aside target.command (runOps platform s.now read ops).writes s
    refine .inr ⟨rfl, ?_⟩
    rw [runCallback, is]
    exact ⟨aside.held, _, _, rfl, rfl, List.mem_append_right _ (List.mem_singleton_self _)⟩
  | applyWritten target failedKeys written =>
    left
    exact onApplyWritten_due authorized there target failedKeys (of_decide_eq_false loud) logins

theorem held_progress (nonempty : ∀ text, platform.sha256 text ≠ "") (numbered : Numbered s)
    (noticing : Noticing platform s) {op : SyncOp} (permitted : s.permitted op) (turn : s.InTurn op)
    (notices : s.Notices platform op) {stage : Stage} (none : stage.ahead = 0) (owed : Owed platform stage s) :
    Due (s.next platform op) \/ (∃ stage', stage'.rank < stage.rank /\ Owed platform stage' (s.next platform op)) \/
      (Owed platform stage (s.next platform op) /\ ¬ stage.turn op) := by
  obtain ⟨alive, authorized, holds⟩ := owed
  rw [none] at holds
  obtain ⟨held, callback, under, applies, rest⟩ := holds
  obtain ⟨inv, reading, seen, tracks, replays⟩ := noticing alive
  -- any other step leaves the read under way
  have kept (other : ¬ stage.turn op) : (s.next platform op).UnderWay stage.id stage.asked callback := by
    unfold Stage.turn at other
    unfold UnderWay at under ⊢
    cases asked : stage.asked with
    | true =>
      rw [asked] at other under
      exact task_kept under fun ok is => other ⟨ok, is⟩
    | false =>
      rw [asked] at other under
      obtain ⟨logins, mem⟩ := under
      exact ⟨logins, message_kept mem other⟩
  have stays (other : ¬ stage.turn op) (lives : (s.next platform op).alive = true)
      (granted : (s.next platform op).authorized = true) (still : (s.next platform op).held = true) :
      Owed platform stage (s.next platform op) := by
    refine ⟨lives, granted, ?_⟩
    rw [none]
    exact ⟨still, callback, kept other, applies, rest⟩
  by_cases deliver : ∃ id, op = .deliver id
  · obtain ⟨id, rfl⟩ := deliver
    obtain ⟨message, later, inbox, found, taken⟩ := head_of_inTurn turn
    rw [inbox] at replays
    cases replays with
    | cons first _ =>
      have heard := deliver_heard nonempty alive inv reading tracks found first notices
      have lives := heard.alive.trans alive
      have granted := heard.authorized.trans authorized
      by_cases own : stage.turn (.deliver id)
      · have answered : stage.asked = false := by
          cases asked : stage.asked with
          | true =>
            rw [Stage.turn, if_pos asked] at own
            obtain ⟨ok, is⟩ := own
            cases is
          | false => rfl
        rw [Stage.turn, if_neg (by simp [answered])] at own
        cases own
        rw [UnderWay, if_neg (by simp [answered])] at under
        obtain ⟨logins, mem⟩ := under
        have at_id := Mailbox.lookup_of_mem numbered.inbox mem
        have quiet := notices callback logins at_id
        have loud : s.endsQuietly logins callback = false := by
          by_contra ends
          exact absurd ((quiet (Bool.not_eq_false _ |>.mp ends)).symm.trans held) Bool.false_ne_true
        have unfolded : s.next platform (.deliver stage.id) =
            { s with inbox := Mailbox.take s.inbox stage.id }.runCallback platform logins callback := by
          dsimp only [next, receive]
          rw [at_id]
          exact if_pos alive
        rw [unfolded] at lives granted ⊢
        rcases runCallback_loud (s := { s with inbox := Mailbox.take s.inbox stage.id }) authorized inv.there applies
          loud with timer | ⟨one, still, id, written, batch, last, asks⟩
        · exact .inl (.inl timer)
        · refine .inr (.inl ⟨⟨0, 0, true, id⟩, ?_, lives, granted, still.trans held, written, asks, batch, last⟩)
          refine Prod.Lex.toLex_lt_toLex.mpr (.inr ⟨none.symm, ?_⟩)
          rw [<- rest, one]
          exact Nat.lt_of_lt_of_le Nat.one_lt_two (Nat.le_add_right _ _)
      · rcases heard.kept authorized (.inl held) with still | timer
        · exact .inr (.inr ⟨stays own lives granted still, own⟩)
        · exact .inl (.inl timer)
  · by_cases lives : op = .destroy
    · subst lives
      exact .inl (.inr (.inr rfl))
    · rcases next_keeps inv authorized (fun id is => deliver ⟨id, is⟩) lives with revoked | keeps
      · exact .inl (.inr (.inl revoked))
      · have still := keeps.held.trans held
        have lives := keeps.alive.trans alive
        have granted := keeps.authorized.trans authorized
        by_cases own : stage.turn op
        · right
          left
          cases asked : stage.asked with
          | false =>
            rw [Stage.turn, if_neg (by simp [asked])] at own
            exact absurd ⟨_, own⟩ deliver
          | true =>
            rw [Stage.turn, if_pos asked] at own
            obtain ⟨ok, rfl⟩ := own
            rw [UnderWay, if_pos asked] at under
            refine ⟨{ stage with asked := false }, ?_, lives, granted, ?_⟩
            · refine Prod.Lex.toLex_lt_toLex.mpr (.inr ⟨rfl, ?_⟩)
              rw [asked]
              exact Nat.lt_succ_self _
            · rw [none]
              refine ⟨still, callback, ?_, applies, rest⟩
              dsimp only [next]
              rw [Mailbox.lookup_of_mem numbered.tasks under]
              exact ⟨_, List.mem_append_right _ (List.mem_singleton_self _)⟩
        · exact .inr (.inr ⟨stays own lives granted still, own⟩)

theorem owed_progress (nonempty : ∀ text, platform.sha256 text ≠ "") (numbered : Numbered s)
    (noticing : Noticing platform s) {op : SyncOp} (permitted : s.permitted op) (turn : s.InTurn op)
    (notices : s.Notices platform op) {stage : Stage} (owed : Owed platform stage s) :
    Due (s.next platform op) \/ (∃ stage', stage'.rank < stage.rank /\ Owed platform stage' (s.next platform op)) \/
      (Owed platform stage (s.next platform op) /\ ¬ stage.turn op) := by
  cases at_stage : stage.ahead with
  | zero => exact held_progress nonempty numbered noticing permitted turn notices at_stage owed
  | succ ahead =>
    obtain ⟨alive, authorized, waits⟩ := owed
    rw [at_stage] at waits
    obtain ⟨answered, unheard⟩ := waits
    have head := unheard
    obtain ⟨seen, front, number, message, back, before, after, inbox, length, first, tracks, replays, moves⟩ := head
    by_cases deliver : ∃ id, op = .deliver id
    · -- the first message is the one whose turn it is
      obtain ⟨id, rfl⟩ := deliver
      obtain rfl : stage.id = id := Option.some.inj (first.symm.trans turn)
      refine (unheard_progress nonempty alive authorized noticing unheard notices).imp_right ?_
      rintro ⟨stage', lower, owed⟩
      exact .inl ⟨stage', Prod.Lex.toLex_lt_toLex.mpr (.inl (at_stage ▸ lower)), owed⟩
    · by_cases lives : op = .destroy
      · subst lives
        exact .inl (.inr (.inr rfl))
      · rcases next_keeps (noticing alive).1 authorized (fun id is => deliver ⟨id, is⟩) lives with revoked | keeps
        · exact .inl (.inr (.inl revoked))
        · refine .inr (.inr ⟨⟨keeps.alive.trans alive, keeps.authorized.trans authorized, ?_⟩, fun own => ?_⟩)
          · rw [at_stage]
            obtain ⟨more, grown⟩ := keeps.inbox
            refine ⟨answered, seen, front, number, message, back ++ more, before, after, ?_, length, ?_, ?_, ?_⟩
            · rw [<- grown, inbox, List.append_assoc, List.cons_append]
            · rw [<- grown, inbox, List.append_assoc]
              rw [inbox] at first
              cases front <;> exact first
            · unfold Tracks
              rw [keeps.fingerprints, keeps.salt]
              exact tracks
            · rw [keeps.salt]
              exact ⟨replays, moves⟩
          · rw [Stage.turn, if_neg (by simp [answered])] at own
            exact deliver ⟨_, own⟩

end Step

def noticingStep (platform : SyncPlatform) : PasswordSync → SyncOp → PasswordSync → Prop :=
  guarded (fun s op => s.permitted op ∧ s.InTurn op ∧ s.Notices platform op) (next platform)

def orderedStep (platform : SyncPlatform) : PasswordSync → SyncOp → PasswordSync → Prop :=
  guarded (fun s op => s.permitted op ∧ s.InTurn op) (next platform)

structure NoticeRun (moves : PasswordSync → SyncOp → PasswordSync → Prop) where
  state : ℕ → PasswordSync
  op : ℕ → SyncOp
  moved : ∀ n, moves (state n) (op n) (state (n + 1))

structure NoticeRun.Fair {moves : PasswordSync → SyncOp → PasswordSync → Prop} (run : NoticeRun moves) : Prop where
  performs : ∀ n id, id ∈ (run.state n).tasks.map Prod.fst → ∃ m, n ≤ m ∧ ∃ ok, run.op m = .perform id ok
  delivers : ∀ n id, id ∈ (run.state n).inbox.map Prod.fst → ∃ m, n ≤ m ∧ run.op m = .deliver id
  -- New changes leave the timer the time it takes.
  rings : ∀ n, (run.state n).changeTimer = true →
    ∃ m, n ≤ m ∧ (run.op m = .changeTimer ∨ (run.state m).authorized = false ∨ (run.state m).alive = false)

namespace NoticeRun

variable {moves : PasswordSync → SyncOp → PasswordSync → Prop} (run : NoticeRun moves)

variable (platform) in
/-- Someone else's step alters what sync carries while the shell is authorized. -/
def AltersAt (n : ℕ) : Prop :=
  (run.state n).alive = true ∧ (run.state n).authorized = true ∧
    ((∃ w, run.op n = .external w) ∨ ∃ logins, run.op n = .retain logins) ∧
      Alters platform (run.state n).store (run.state (n + 1)).store

def TellsAt (n : ℕ) : Prop := ∃ revision, (run.state (n + 1)).log = (run.state n).log ++ [.told revision]

section Noticing

variable (run : NoticeRun (noticingStep platform)) (nonempty : ∀ text, platform.sha256 text ≠ "")

include nonempty

theorem inv (initial : Noticing platform (run.state 0) /\ Numbered (run.state 0)) (n : ℕ) :
    Noticing platform (run.state n) /\ Numbered (run.state n) := by
  induction n with
  | zero => exact initial
  | succ n ih =>
    obtain ⟨⟨permitted, turn, notices⟩, moved⟩ := run.moved n
    rw [moved]
    exact ⟨next_noticing nonempty ih.1 permitted turn notices, next_numbered ih.2 _⟩

theorem turns (initial : Noticing platform (run.state 0) /\ Numbered (run.state 0)) (fair : run.Fair) :
    Turns run.state run.op Due (Owed platform) Stage.rank Stage.turn := by
  constructor
  · intro n stage owed
    obtain ⟨⟨permitted, turn, notices⟩, moved⟩ := run.moved n
    obtain ⟨noticing, numbered⟩ := run.inv nonempty initial n
    rw [moved]
    exact owed_progress nonempty numbered noticing permitted turn notices owed
  · rintro n stage ⟨-, -, waits⟩
    unfold Stage.turn
    cases at_stage : stage.ahead with
    | zero =>
      rw [at_stage] at waits
      obtain ⟨-, callback, under, -, -⟩ := waits
      unfold UnderWay at under
      cases asked : stage.asked with
      | true =>
        rw [asked] at under
        exact fair.performs n stage.id (List.mem_map.mpr ⟨_, under, rfl⟩)
      | false =>
        rw [asked] at under
        obtain ⟨logins, mem⟩ := under
        exact fair.delivers n stage.id (List.mem_map.mpr ⟨_, mem, rfl⟩)
    | succ ahead =>
      rw [at_stage] at waits
      obtain ⟨answered, seen, front, number, message, back, before, after, inbox, -, first, -⟩ := waits
      rw [answered]
      refine fair.delivers n stage.id ?_
      obtain ⟨head, is, same⟩ := Option.map_eq_some_iff.mp first
      exact List.mem_map.mpr ⟨head, List.mem_of_mem_head? is, same⟩

theorem owed_of_alters (initial : Noticing platform (run.state 0) /\ Numbered (run.state 0)) {n : ℕ}
    (alters : run.AltersAt platform n) : ∃ stage, Owed platform stage (run.state (n + 1)) := by
  obtain ⟨alive, authorized, kind, altered⟩ := alters
  obtain ⟨⟨permitted, turn, notices⟩, moved⟩ := run.moved n
  obtain ⟨inv, -, seen, tracks, replays⟩ := (run.inv nonempty initial n).1 alive
  have owed {after : List StoredCredential} {message : StoreMessage}
      (inbox : (run.state (n + 1)).inbox = (run.state n).inbox ++ [((run.state n).ids, message)])
      (same : (run.state (n + 1)).alive = (run.state n).alive /\ (run.state (n + 1)).authorized = (run.state n).authorized /\
        (run.state (n + 1)).salt = (run.state n).salt /\ (run.state (n + 1)).fingerprints = (run.state n).fingerprints)
      (moves : Moves platform (run.state n).salt (run.state n).store message after)
      (differ : fingerprintsOf platform (run.state n).salt (run.state n).store ≠
        fingerprintsOf platform (run.state n).salt after) : ∃ stage, Owed platform stage (run.state (n + 1)) := by
    obtain ⟨lives, granted, salt, fingerprints⟩ := same
    obtain ⟨id, head⟩ : ∃ id, (run.state (n + 1)).inbox.head?.map Prod.fst = some id := by
      rw [inbox]
      cases (run.state n).inbox with
      | nil => exact ⟨_, rfl⟩
      | cons entry _ => exact ⟨entry.1, rfl⟩
    refine ⟨⟨(run.state n).inbox.length + 1, 0, false, id⟩, lives.trans alive, granted.trans authorized, rfl, seen, _,
      _, _, [], (run.state n).store, after, inbox, rfl, head, ?_, ?_⟩
    · unfold Tracks
      rw [fingerprints, salt]
      exact tracks
    · rw [salt]
      exact ⟨replays, moves, differ⟩
  rcases kind with ⟨w, is⟩ | ⟨logins, is⟩
  · rw [is] at notices moved
    rw [moved] at altered owed ⊢
    exact owed rfl ⟨rfl, rfl, rfl, rfl⟩ (.changed inv.forms notices.1) (notices.2 altered)
  · rw [is] at notices moved
    rw [moved] at altered owed ⊢
    exact owed rfl ⟨rfl, rfl, rfl, rfl⟩ (.retained _ _) (notices altered)

theorem told_after (initial : Noticing platform (run.state 0) /\ Numbered (run.state 0)) (fair : run.Fair) {n : ℕ}
    (alters : run.AltersAt platform n) : ∃ m, n < m /\
      (run.TellsAt m \/ (run.state m).authorized = false \/ (run.state m).alive = false) := by
  obtain ⟨stage, owed⟩ := run.owed_of_alters nonempty initial alters
  obtain ⟨m, later, timer | ends⟩ := (run.turns nonempty initial fair).reaches owed
  · obtain ⟨l, le, rings | ends⟩ := fair.rings m timer
    · refine ⟨l, by omega, .inl ?_⟩
      unfold TellsAt
      rw [(run.moved l).2, rings]
      exact ⟨_, rfl⟩
    · exact ⟨l, by omega, .inr ends⟩
  · exact ⟨m, by omega, .inr ends⟩

end Noticing

end NoticeRun

/-- From here on every alteration is followed by `passwordsChanged`, unless sync is revoked first. -/
def Told (platform : SyncPlatform) (moves : PasswordSync → SyncOp → PasswordSync → Prop) (s : PasswordSync) : Prop :=
  ∀ run : NoticeRun moves, run.state 0 = s → run.Fair → ∀ n, run.AltersAt platform n → ∃ m, n < m ∧
    (run.TellsAt m ∨ (run.state m).authorized = false ∨ (run.state m).alive = false)

/-- Where the fingerprints show what is altered, and no batch that ends without a write held a change
back, every alteration is followed by `passwordsChanged`. -/
theorem changes_told (platform : SyncPlatform) (nonempty : ∀ text, platform.sha256 text ≠ "") (granted : Bool)
    (salt : String) (store : List StoredCredential) (forms : Distinct store)
    (trace : List (PasswordSync × SyncOp)) (s : PasswordSync)
    (run : Trace (noticingStep platform) (construct true granted salt store) trace s) :
    Told platform (noticingStep platform) s := by
  have initial : Noticing platform (construct true granted salt store) ∧
      Numbered (construct true granted salt store) := by
    refine ⟨fun _ => ?_, (startWatching_posts _).numbered (.empty rfl rfl)⟩
    cases granted with
    | false =>
      exact ⟨⟨rfl, forms, rfl, fun _ => rfl, (absurd · Bool.false_ne_true)⟩, (absurd · Bool.false_ne_true), store,
        fun _ => (absurd · (Option.some_ne_none _).symm), .nil store⟩
    | true => exact ⟨⟨rfl, forms, rfl, nofun, nofun⟩, nofun, store, nofun, .nil store⟩
  have preserved (t : PasswordSync) (op : SyncOp) (u : PasswordSync) (inv : Noticing platform t ∧ Numbered t)
      (moved : noticingStep platform t op u) : Noticing platform u ∧ Numbered u := by
    obtain ⟨⟨permitted, turn, notices⟩, rfl⟩ := moved
    exact ⟨next_noticing nonempty inv.1 permitted turn notices, next_numbered inv.2 op⟩
  have inv := run.preserves preserved initial
  rintro later rfl fair n alters
  exact later.told_after nonempty inv fair alters

def otherLogin : StoredCredential :=
  { signonRealm := "https://example.com/", url := ⟨"https://example.com/"⟩, usernameValue := "bob"
    passwordValue := "hidden" }

theorem webPlatform_nonempty (text : String) : webPlatform.sha256 text ≠ "" := by
  intro same
  have length := congrArg String.length same
  change ("#" ++ text).length = 0 at length
  rw [String.length_append] at length
  exact absurd (Nat.eq_zero_of_add_eq_zero_right length) (by decide)

-- A login is saved while nothing is applied.
theorem changes_told_saved :
    ∃ s : PasswordSync, s.revision = 1 ∧ Told webPlatform (noticingStep webPlatform) s := by
  have follows : Follows (fun s op => s.permitted op ∧ s.InTurn op ∧ s.Notices webPlatform op) (next webPlatform)
      (construct true false "" [savedLogin])
      [authorize true, .perform 0 true, .deliver 0, .external (.add otherLogin), .deliver 1, .changeTimer] := by
    refine ⟨⟨rfl, trivial, trivial⟩, ⟨by decide, trivial, fun _ _ found => by cases found⟩,
      ⟨by decide, rfl, fun _ _ _ _ => by decide⟩, ⟨trivial, trivial, ⟨?_, ?_, nofun⟩, fun _ same => ?_⟩,
      ⟨by decide, rfl, fun _ _ _ _ => by decide⟩, ⟨by decide, trivial, trivial⟩, trivial⟩
    · unfold Keyed
      decide
    · unfold Keyed
      decide
    · exact absurd (congrArg ExtTreeMap.size same) (by decide)
  obtain ⟨trace, run, -⟩ := follows.trace
  exact ⟨_, by decide +kernel, changes_told webPlatform webPlatform_nonempty false "" _
    (by unfold Distinct; decide) trace _ run⟩

-- A login is saved while a batch is applied that has nothing to write: nobody is told.
def heldBack : List SyncOp :=
  [.perform 0 true, .deliver 0, applyForSync 1, .external (.add otherLogin), .deliver 2, .perform 1 true,
    .deliver 1, .perform 3 true, .deliver 3]

theorem heldBack_follows : Follows (fun s op => s.permitted op /\ s.InTurn op) (next webPlatform)
    (construct true true "" [savedLogin]) heldBack :=
  ⟨⟨by decide, trivial⟩, ⟨by decide, rfl⟩, ⟨rfl, trivial⟩, ⟨trivial, trivial⟩,
    ⟨by decide, rfl⟩, ⟨by decide, trivial⟩, ⟨by decide, rfl⟩, ⟨by decide, trivial⟩,
    ⟨by decide, rfl⟩, trivial⟩

theorem tick_rests (platform : SyncPlatform) (s : PasswordSync) : next platform s (.tick 0) = s := by
  cases s
  simp [next]

def heldBackRun : NoticeRun (orderedStep webPlatform) where
  state := restState (next webPlatform) heldBack (.tick 0) (construct true true "" [savedLogin])
  op := restLabel heldBack (.tick 0)
  moved := rest_moves heldBack_follows (tick_rests _ _) ⟨trivial, trivial⟩

def SyncEvent.tells : SyncEvent → Bool
  | .told _ => true
  | _ => false

theorem heldBack_always {holds : PasswordSync -> Prop} (early : ∀ n ≤ 9, holds (heldBackRun.state n)) (n : ℕ) :
    holds (heldBackRun.state n) :=
  @restState_always _ _ (next webPlatform) heldBack (.tick 0) (construct true true "" [savedLogin]) (tick_rests _ _)
    holds early n

-- The step at which the store performs the task, and that at which its answer is delivered.
def heldBackTurns (id : ℕ) : ℕ × ℕ := if id = 0 then (0, 1) else if id = 1 then (5, 6) else if id = 2 then (0, 4) else (7, 8)

theorem heldBack_runs : ∀ n ≤ 9,
    (∀ id ∈ (heldBackRun.state n).tasks.map Prod.fst, n <= (heldBackTurns id).1 /\ (id = 0 \/ id = 1 \/ id = 3)) /\
    (∀ id ∈ (heldBackRun.state n).inbox.map Prod.fst,
      n <= (heldBackTurns id).2 /\ (id = 0 \/ id = 1 \/ id = 2 \/ id = 3)) /\
    (heldBackRun.state n).changeTimer = false /\ (heldBackRun.state n).log.any SyncEvent.tells = false /\
    (heldBackRun.state n).authorized = true /\ (heldBackRun.state n).alive = true /\
    (carried webPlatform (heldBackRun.state n).store).length = if n < 4 then 1 else 2 := by
  decide

theorem heldBack_fair : heldBackRun.Fair := by
  have ended (n : ℕ) (late : 9 <= n) : heldBackRun.state n = heldBackRun.state 9 :=
    (restState_late (tick_rests _ _) late).trans (restState_late (tick_rests _ _) le_rfl).symm
  refine ⟨fun n id mem => ?_, fun n id mem => ?_, fun n runs => ?_⟩
  · rcases Nat.le_total n 9 with early | late
    · obtain ⟨before, kind⟩ := (heldBack_runs n early).1 id mem
      refine ⟨_, before, true, ?_⟩
      rcases kind with rfl | rfl | rfl <;> rfl
    · rw [ended n late] at mem
      obtain ⟨before, rfl | rfl | rfl⟩ := (heldBack_runs 9 le_rfl).1 id mem <;> exact absurd before (by decide)
  · rcases Nat.le_total n 9 with early | late
    · obtain ⟨before, kind⟩ := (heldBack_runs n early).2.1 id mem
      refine ⟨_, before, ?_⟩
      rcases kind with rfl | rfl | rfl | rfl <;> rfl
    · rw [ended n late] at mem
      obtain ⟨before, rfl | rfl | rfl | rfl⟩ := (heldBack_runs 9 le_rfl).2.1 id mem <;> exact absurd before (by decide)
  · have quiet : (heldBackRun.state n).changeTimer = false :=
      @heldBack_always (fun s => s.changeTimer = false) (fun n early => (heldBack_runs n early).2.2.1) n
    exact absurd (quiet.symm.trans runs) Bool.false_ne_true

theorem held_change_untold :
    ¬ ∀ (platform : SyncPlatform) (_ : ∀ text, platform.sha256 text ≠ "") (granted : Bool) (salt : String)
      (store : List StoredCredential) (_ : Distinct store) (trace : List (PasswordSync × SyncOp)) (s : PasswordSync),
      Trace (orderedStep platform) (construct true granted salt store) trace s →
        Told platform (orderedStep platform) s := by
  intro every
  have told := every webPlatform webPlatform_nonempty true "" [savedLogin] (List.pairwise_singleton _ _) [] _
    (.nil _)
  have alters : heldBackRun.AltersAt webPlatform 3 := by
    obtain ⟨-, -, -, -, granted, lives, before⟩ := heldBack_runs 3 (by decide)
    refine ⟨lives, granted, .inl ⟨_, rfl⟩, fun same => ?_⟩
    have after := (heldBack_runs 4 (by decide)).2.2.2.2.2.2
    exact absurd (before.symm.trans ((congrArg List.length same).trans after)) (by decide)
  obtain ⟨m, later, ⟨revision, tells⟩ | refused | dead⟩ := told heldBackRun rfl heldBack_fair 3 alters
  · have silent : (heldBackRun.state (m + 1)).log.any SyncEvent.tells = false :=
      @heldBack_always (fun s => s.log.any SyncEvent.tells = false) (fun n early => (heldBack_runs n early).2.2.2.1) _
    rw [tells, List.any_append, Bool.or_eq_false_iff] at silent
    exact absurd silent.2 (by simp [SyncEvent.tells])
  · have granted : (heldBackRun.state m).authorized = true :=
      @heldBack_always (fun s => s.authorized = true) (fun n early => (heldBack_runs n early).2.2.2.2.1) m
    exact absurd (refused.symm.trans granted) Bool.false_ne_true
  · have lives : (heldBackRun.state m).alive = true :=
      @heldBack_always (fun s => s.alive = true) (fun n early => (heldBack_runs n early).2.2.2.2.2.1) m
    exact absurd (dead.symm.trans lives) Bool.false_ne_true

end PasswordSync

end ChromiumHmos.Passwords
