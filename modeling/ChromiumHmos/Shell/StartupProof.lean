import ChromiumHmos.Lib.History
import ChromiumHmos.Shell.StartupHandoff

set_option autoImplicit false

/-!
# What an answer to the shell proves

An accepted piece of work is gone with the first event that makes its document another one. What is left of
it when its callback comes is the proof that the answer needs.
-/

namespace ChromiumHmos.Shell

open Std Transition History OrderedMap Base

namespace HandoffEvent

def isRequested : HandoffEvent → Bool
  | .requested _ _ _ => true
  | _ => false

-- A transaction begins or ends.
def opens : HandoffEvent → Bool
  | .began _ | .cancelled => true
  | _ => false

def isReadyAck : HandoffEvent → Bool
  | .ack _ _ .ready _ _ _ => true
  | _ => false

-- What is in front may be another document from then on.
def disturbs (contents : Nat) : HandoffEvent → Bool
  | .switched _ => true
  | .navigated other => decide (other = contents)
  | event => event.opens

end HandoffEvent

/-- In this transaction the page at this URL had exactly the token, and the shell was told `ready`; no other
page since. -/
def ReadyFor (token probeUrl : String) (log : List HandoffEvent) : Prop :=
  ∃ front work requestId shown since, log = front ++ .carried work (some token) probeUrl ::
      .ack token .ready .ready requestId (some work) shown :: since ∧
    ∀ event ∈ since, event.opens = false ∧ event.isReadyAck = false

/-- Accepted while another page than the probe's was in front, and undisturbed since. -/
def Undisturbed (work : Nat) (token : String) (phase : Phase) (contents document : Nat)
    (log since : List HandoffEvent) : Prop :=
  ∃ front url probeUrl, log = front ++ .accepted work token phase contents document url probeUrl :: since ∧
    (∀ event ∈ since, event.disturbs contents = false) ∧
    (phase = .frame → url ≠ probeUrl ∧ ReadyFor token probeUrl front)

/-- What the shell may be told, given what happened before. -/
def AckOk (log : List HandoffEvent) : HandoffEvent → Prop
  | .ack token phase status requestId work shown =>
    0 < requestId ∧
    Latest (fun event => event.isRequested = false) log (.requested token phase requestId) ∧
    Latest (fun event => event.opens = false) log (.began token) ∧
    (∀ accepted, work = some accepted → ∀ token phase status requestId shown,
      .ack token phase status requestId (some accepted) shown ∉ log) ∧
    (status = .presented → ∃ accepted contents document since, work = some accepted ∧ shown = some document ∧
      Undisturbed accepted token .frame contents document log (since ++ [.presentation accepted]) ∧
      .submitted accepted true ∈ since)
  | _ => True

variable {token : String} {log : List HandoffEvent} {event : HandoffEvent}

theorem ReadyFor.snoc {probeUrl : String} (ready : ReadyFor token probeUrl log) (opens : event.opens = false) (ack : event.isReadyAck = false) :
    ReadyFor token probeUrl (log ++ [event]) := by
  obtain ⟨front, work, requestId, shown, since, rfl, quiet⟩ := ready
  refine ⟨front, work, requestId, shown, since ++ [event], by simp, fun other mem => ?_⟩
  rcases List.mem_append.mp mem with before | last
  · exact quiet other before
  · cases List.mem_singleton.mp last
    exact ⟨opens, ack⟩

theorem ReadyFor.of_ack (token probeUrl : String) (log : List HandoffEvent) (work : Nat) (requestId : Int)
    (shown : Option Nat) : ReadyFor token probeUrl (log ++ [.carried work (some token) probeUrl] ++
      [.ack token .ready .ready requestId (some work) shown]) :=
  ⟨log, work, requestId, shown, [], by simp, by simp⟩

theorem Undisturbed.snoc {work : Nat} {phase : Phase} {contents document : Nat}
    {since : List HandoffEvent} (proof : Undisturbed work token phase contents document log since) (calm : event.disturbs contents = false) :
    Undisturbed work token phase contents document (log ++ [event]) (since ++ [event]) := by
  obtain ⟨front, url, probeUrl, rfl, quiet, frame⟩ := proof
  refine ⟨front, url, probeUrl, by simp, fun other mem => ?_, frame⟩
  rcases List.mem_append.mp mem with before | last
  · exact quiet other before
  · cases List.mem_singleton.mp last
    exact calm

namespace StartupHandoff

variable {s : StartupHandoff}

/-- What a callback that still counts rests on. -/
structure Working (s : StartupHandoff) (callback : Callback) : Prop where
  pending : s.pending = true
  work : callback.work = s.workId
  phase : s.phase = if callback.awaited = .script then .ready else .frame
  proof : ∃ contents document since, s.watched = some contents ∧ s.document = some document ∧
    Undisturbed s.workId s.token s.phase contents document s.log since ∧
    (callback.awaited = .presentation → .submitted s.workId true ∈ since)

structure HandoffInv (s : StartupHandoff) : Prop where
  tabs : s.active = none ∨ s.active = s.watched
  work : s.pending = true → s.token ≠ "" ∧ 0 < s.requestId
  began : s.token ≠ "" → Latest (fun event => event.opens = false) s.log (.began s.token)
  probed : s.probeUrl ≠ "" → ReadyFor s.token s.probeUrl s.log
  acked : ∀ token phase status requestId work shown, .ack token phase status requestId (some work) shown ∈ s.log →
    work ≤ s.workId ∧ (s.pending = true → work < s.workId)
  ids : ∀ (id : Nat) (callback : Callback), s.callbacks[id]? = some callback → id < s.nextCallback
  live : ∀ (id : Nat) (callback : Callback), s.callbacks[id]? = some callback → callback.weak ≤ s.weak ∧
    (callback.weak = s.weak → callback.awaited ≠ .retry → s.Working callback)
  alone : ∀ (id id' : Nat) (callback callback' : Callback), s.callbacks[id]? = some callback →
    s.callbacks[id']? = some callback' → callback.weak = s.weak → callback'.weak = s.weak →
    callback.awaited ≠ .retry → callback'.awaited ≠ .retry → id = id'
  checks : Throughout AckOk s.log

/-- The request whose fields the handoff holds is the newest. -/
def Newest (s : StartupHandoff) : Prop :=
  s.token ≠ "" → 0 < s.requestId →
    Latest (fun event => event.isRequested = false) s.log (.requested s.token s.phase s.requestId)

theorem initial_inv (window : Option Nat) (now : TimeTicks) :
    HandoffInv { window := window, now := now } /\ Newest { window := window, now := now } :=
  ⟨⟨.inl rfl, nofun, fun named => absurd rfl named, fun named => absurd rfl named, by simp, by simp, by simp, by simp,
    .nil _⟩, fun named => absurd rfl named⟩

theorem HandoffInv.note (inv : HandoffInv s) (event : HandoffEvent) (opens : event.opens = false)
    (check : AckOk s.log event) (ack : ∀ token phase status requestId work shown,
      event ≠ .ack token phase status requestId work shown)
    (calm : s.pending = true -> ∀ contents, s.watched = some contents -> event.disturbs contents = false) :
    HandoffInv (s.note event) where
  tabs := inv.tabs
  work := inv.work
  began named := (inv.began named).snoc opens
  probed named := (inv.probed named).snoc opens (by
    cases event
    case ack token phase status requestId work shown => exact absurd rfl (ack _ _ _ _ _ _)
    all_goals rfl)
  acked token phase status requestId work shown mem := by
    rcases List.mem_append.mp mem with before | last
    · exact inv.acked token phase status requestId work shown before
    · exact absurd (List.mem_singleton.mp last).symm (ack _ _ _ _ _ _)
  ids := inv.ids
  live id callback held := by
    refine ⟨(inv.live id callback held).1, fun live waits => ?_⟩
    have working := (inv.live id callback held).2 live waits
    obtain ⟨contents, document, since, watched, same, proof, submitted⟩ := working.proof
    exact ⟨working.pending, working.work, working.phase, contents, document, since ++ [event], watched, same,
      proof.snoc (calm working.pending contents watched), fun is => List.mem_append_left _ (submitted is)⟩
  alone := inv.alone
  checks := inv.checks.snoc check

theorem HandoffInv.invalidate (inv : HandoffInv s) (retry : Bool) :
    HandoffInv { s.invalidate with retryAfterSameDocument := retry } where
  tabs := inv.tabs
  work := nofun
  began := inv.began
  probed := inv.probed
  acked token phase status requestId work shown mem :=
    ⟨(inv.acked token phase status requestId work shown mem).1, nofun⟩
  ids := inv.ids
  live id callback held := by
    have before := (inv.live id callback held).1
    exact ⟨Nat.le_succ_of_le before, fun same => absurd same (Nat.lt_succ_of_le before).ne⟩
  alone id id' callback callback' held _ same := absurd same (Nat.lt_succ_of_le (inv.live id callback held).1).ne
  checks := inv.checks

theorem HandoffInv.ended (inv : HandoffInv s) : HandoffInv s.invalidate := inv.invalidate false

structure Aside (s t : StartupHandoff) : Prop where
  active : t.active = s.active
  watched : t.watched = s.watched
  token : t.token = s.token
  phase : t.phase = s.phase
  probeUrl : t.probeUrl = s.probeUrl
  document : t.document = s.document
  workId : t.workId = s.workId
  pending : t.pending = s.pending
  weak : t.weak = s.weak
  callbacks : t.callbacks = s.callbacks
  nextCallback : t.nextCallback = s.nextCallback
  log : t.log = s.log

variable {t : StartupHandoff}

theorem HandoffInv.aside (inv : HandoffInv s) (aside : Aside s t)
    (positive : s.pending = true -> 0 < s.requestId -> 0 < t.requestId) : HandoffInv t where
  tabs := by
    rw [aside.active, aside.watched]
    exact inv.tabs
  work := by
    rw [aside.pending, aside.token]
    exact fun pending => ⟨(inv.work pending).1, positive pending (inv.work pending).2⟩
  began := by
    rw [aside.token, aside.log]
    exact inv.began
  probed := by
    rw [aside.token, aside.probeUrl, aside.log]
    exact inv.probed
  acked := by
    rw [aside.log, aside.workId, aside.pending]
    exact inv.acked
  ids := by
    rw [aside.callbacks, aside.nextCallback]
    exact inv.ids
  live := by
    rw [aside.callbacks, aside.weak]
    refine fun id callback held => ⟨(inv.live id callback held).1, fun live waits => ?_⟩
    have working := (inv.live id callback held).2 live waits
    obtain ⟨contents, document, since, proof⟩ := working.proof
    refine ⟨aside.pending.trans working.pending, working.work.trans aside.workId.symm,
      aside.phase.trans working.phase, contents, document, since, ?_⟩
    rw [aside.watched, aside.document, aside.workId, aside.token, aside.phase, aside.log]
    exact proof
  alone := by
    rw [aside.callbacks, aside.weak]
    exact inv.alone
  checks := by
    rw [aside.log]
    exact inv.checks

structure Settled (s t : StartupHandoff) : Prop where
  tabs : t.active = none ∨ t.active = t.watched
  token : t.token = s.token
  probeUrl : t.probeUrl = s.probeUrl
  pending : t.pending = false
  weak : t.weak = s.weak
  callbacks : t.callbacks = s.callbacks
  nextCallback : t.nextCallback = s.nextCallback
  workId : t.workId = s.workId
  log : t.log = s.log

theorem HandoffInv.none_live (inv : HandoffInv s) (idle : s.pending = false) {id : Nat} {callback : Callback}
    (held : s.callbacks[id]? = some callback) (live : callback.weak = s.weak) : callback.awaited = .retry := by
  by_contra waits
  exact absurd (idle.symm.trans ((inv.live id callback held).2 live waits).pending) nofun

theorem HandoffInv.settled (inv : HandoffInv s) (idle : s.pending = false) (settled : Settled s t) :
    HandoffInv t where
  tabs := settled.tabs
  work pending := absurd (settled.pending.symm.trans pending) nofun
  began := by
    rw [settled.token, settled.log]
    exact inv.began
  probed := by
    rw [settled.token, settled.probeUrl, settled.log]
    exact inv.probed
  acked token phase status requestId work shown mem := by
    rw [settled.log] at mem
    rw [settled.workId]
    exact ⟨(inv.acked token phase status requestId work shown mem).1, fun pending =>
      absurd (settled.pending.symm.trans pending) nofun⟩
  ids := by
    rw [settled.callbacks, settled.nextCallback]
    exact inv.ids
  live := by
    rw [settled.callbacks, settled.weak]
    exact fun id callback held =>
      ⟨(inv.live id callback held).1, fun live waits => absurd (inv.none_live idle held live) waits⟩
  alone := by
    rw [settled.callbacks, settled.weak]
    exact inv.alone
  checks := by
    rw [settled.log]
    exact inv.checks

variable {status : StartupStatus}

theorem HandoffInv.reply (inv : HandoffInv s) (idle : s.pending = false)
    {work : Option Nat} (probeUrl : String) (check : AckOk s.log (.ack s.token s.phase status s.requestId work s.shown))
    (known : ∀ accepted, work = some accepted -> accepted <= s.workId)
    (probed : probeUrl ≠ "" → ReadyFor s.token probeUrl
      (s.log ++ [.ack s.token s.phase status s.requestId work s.shown])) :
    HandoffInv { s.reply status work with probeUrl := probeUrl } where
  tabs := inv.tabs
  work := inv.work
  began named := (inv.began named).snoc rfl
  probed := probed
  acked token phase status requestId accepted shown mem := by
    refine ⟨?_, fun pending => absurd (idle.symm.trans pending) nofun⟩
    rcases List.mem_append.mp mem with before | last
    · exact (inv.acked token phase status requestId accepted shown before).1
    · cases List.mem_singleton.mp last
      exact known accepted rfl
  ids := inv.ids
  live id callback held :=
    ⟨(inv.live id callback held).1, fun live waits => absurd (inv.none_live idle held live) waits⟩
  alone := inv.alone
  checks := inv.checks.snoc check

theorem HandoffInv.probed_waiting (inv : HandoffInv s) {phase : Phase} {requestId : Int}
    {work shown : Option Nat} (other : status ≠ .ready) (named : s.probeUrl ≠ "") :
    ReadyFor s.token s.probeUrl (s.log ++ [.ack s.token phase status requestId work shown]) :=
  (inv.probed named).snoc rfl (by cases status <;> first | rfl | exact absurd rfl other)

theorem HandoffInv.ackOk (inv : HandoffInv s) (newest : s.Newest) (pending : s.pending = true)
    (event : HandoffEvent) (requested : event.isRequested = false) (opens : event.opens = false)
    (ack : ∀ token phase status requestId work shown, event ≠ .ack token phase status requestId work shown)
    (status : StartupStatus) (shown : Option Nat)
    (presented : status = .presented -> ∃ contents document since, shown = some document /\
      Undisturbed s.workId s.token .frame contents document (s.log ++ [event])
        (since ++ [.presentation s.workId]) /\ .submitted s.workId true ∈ since) :
    AckOk (s.log ++ [event]) (.ack s.token s.phase status s.requestId (some s.workId) shown) := by
  obtain ⟨named, positive⟩ := inv.work pending
  refine ⟨positive, (newest named positive).snoc requested, (inv.began named).snoc opens, ?_, ?_⟩
  · rintro accepted is token phase status' requestId shown' mem
    cases is
    rcases List.mem_append.mp mem with before | last
    · exact absurd ((inv.acked _ _ _ _ _ _ before).2 pending) (Nat.lt_irrefl _)
    · exact absurd (List.mem_singleton.mp last).symm (ack _ _ _ _ _ _)
  · intro is
    obtain ⟨contents, document, since, shown, proof⟩ := presented is
    exact ⟨s.workId, contents, document, since, rfl, shown, proof⟩

theorem HandoffInv.called (inv : HandoffInv s) {id : Nat} {callback : Callback}
    (held : s.callbacks[id]? = some callback) (live : callback.weak = s.weak) (waits : callback.awaited ≠ .retry) :
    HandoffInv { s with callbacks := s.callbacks.erase id, pending := false } where
  tabs := inv.tabs
  work := nofun
  began := inv.began
  probed := inv.probed
  acked token phase status requestId work shown mem :=
    ⟨(inv.acked token phase status requestId work shown mem).1, nofun⟩
  ids other found held' := inv.ids other found ((getElem?_erase_some ..).mp held').2
  live other found held' := by
    obtain ⟨apart, was⟩ := (getElem?_erase_some ..).mp held'
    refine ⟨(inv.live other found was).1, fun live' waits' => ?_⟩
    exact absurd (inv.alone other id found callback was held live' live waits' waits) apart
  alone one other first second held' held'' :=
    inv.alone one other first second ((getElem?_erase_some ..).mp held').2 ((getElem?_erase_some ..).mp held'').2
  checks := inv.checks

theorem HandoffInv.erase (inv : HandoffInv s) (id : Nat) : HandoffInv { s with callbacks := s.callbacks.erase id } where
  tabs := inv.tabs
  work := inv.work
  began := inv.began
  probed := inv.probed
  acked := inv.acked
  ids other found held := inv.ids other found ((getElem?_erase_some ..).mp held).2
  live other found held := by
    have was := inv.live other found ((getElem?_erase_some ..).mp held).2
    refine ⟨was.1, fun live waits => ?_⟩
    have working := was.2 live waits
    exact ⟨working.pending, working.work, working.phase, working.proof⟩
  alone one other first second held held' :=
    inv.alone one other first second ((getElem?_erase_some ..).mp held).2 ((getElem?_erase_some ..).mp held').2
  checks := inv.checks

variable {awaited : Awaited}

theorem await_some {id : Nat} {callback : Callback} :
    (s.await awaited).callbacks[id]? = some callback ↔
      (id = s.nextCallback /\ callback = ⟨awaited, s.weak, s.workId⟩) \/
        (id ≠ s.nextCallback /\ s.callbacks[id]? = some callback) :=
  getElem?_insert_some ..

theorem HandoffInv.await (inv : HandoffInv s)
    (none : awaited ≠ .retry -> ∀ (id : Nat) (callback : Callback), s.callbacks[id]? = some callback ->
      callback.weak = s.weak -> callback.awaited = .retry)
    (working : awaited ≠ .retry -> s.Working ⟨awaited, s.weak, s.workId⟩) : HandoffInv (s.await awaited) where
  tabs := inv.tabs
  work := inv.work
  began := inv.began
  probed := inv.probed
  acked := inv.acked
  ids id callback held := by
    rcases await_some.mp held with ⟨rfl, -⟩ | ⟨-, was⟩
    · exact Nat.lt_succ_self _
    · exact Nat.lt_succ_of_lt (inv.ids id callback was)
  live id callback held := by
    rcases await_some.mp held with ⟨-, rfl⟩ | ⟨-, was⟩
    · refine ⟨Nat.le_refl _, fun _ waits => ?_⟩
      have new := working waits
      exact ⟨new.pending, new.work, new.phase, new.proof⟩
    · refine ⟨(inv.live id callback was).1, fun live waits => ?_⟩
      have old := (inv.live id callback was).2 live waits
      exact ⟨old.pending, old.work, old.phase, old.proof⟩
  alone id id' callback callback' held held' live live' waits waits' := by
    rcases await_some.mp held with ⟨rfl, rfl⟩ | ⟨-, was⟩ <;> rcases await_some.mp held' with ⟨rfl, rfl⟩ | ⟨-, was'⟩
    · rfl
    · exact absurd (none waits id' callback' was' live') waits'
    · exact absurd (none waits' id callback was live) waits
    · exact inv.alone id id' callback callback' was was' live live' waits waits'
  checks := inv.checks

theorem matches_shown (matched : s.matchesNow = true) : s.document = s.shown /\ s.shown.isSome := by
  unfold matchesNow at matched
  unfold shown
  cases front : s.activeContents with
  | none => simp [front] at matched
  | some page =>
    obtain ⟨same, visible, -⟩ : s.document = some page.document /\ page.visible = true /\ page.pendingEntry = false := by
      simpa [front, and_assoc] using (Bool.and_eq_true_iff.mp matched).2
    simp [same, visible, Option.filter]

variable {id work : Nat} {callback : Callback}

theorem HandoffInv.answering (inv : HandoffInv s) (newest : s.Newest) (held : s.callbacks[id]? = some callback)
    (live : callback.weak = s.weak) (waits : callback.awaited ≠ .retry) : s.Working callback /\
      HandoffInv { s with callbacks := s.callbacks.erase id, pending := false } /\
      (∀ accepted, some s.workId = some accepted -> accepted <= s.workId) /\
      Latest (fun event => event.isRequested = false) s.log (.requested s.token s.phase s.requestId) := by
  have working := (inv.live id callback held).2 live waits
  obtain ⟨named, positive⟩ := inv.work working.pending
  exact ⟨working, inv.called held live waits, fun _ is => (Option.some.inj is).ge, newest named positive⟩

theorem onReady_inv (inv : HandoffInv s) (newest : s.Newest) (held : s.callbacks[id]? = some callback)
    (live : callback.weak = s.weak) (is : callback.awaited = .script) (value : Value) :
    HandoffInv ({ s with callbacks := s.callbacks.erase id }.onReady callback.work value) /\
      Newest ({ s with callbacks := s.callbacks.erase id }.onReady callback.work value) := by
  have waits : callback.awaited ≠ .retry := by rw [is]; nofun
  obtain ⟨working, called, known, newer⟩ := inv.answering newest held live waits
  have ready : s.phase = .ready := by rw [working.phase, if_pos is]
  unfold onReady
  rw [working.work]
  dsimp only
  let url := StartupHandoff.frontUrl { s with callbacks := s.callbacks.erase id, pending := false }
  have carried := called.note (.carried s.workId (textOf value) url) rfl trivial nofun nofun
  have ok (status : StartupStatus) (shown : Option Nat) (other : status ≠ .presented) :=
    inv.ackOk newest working.pending (.carried s.workId (textOf value) url) rfl rfl nofun status shown
      fun is => absurd is other
  split
  · next authentic =>
    obtain ⟨-, text⟩ := authentic
    have text : textOf value = some s.token := text
    -- The page that has just answered is the probe from now on.
    have fresh (shown : Option Nat) : ReadyFor s.token url (s.log ++ [.carried s.workId (textOf value) url] ++
        [.ack s.token s.phase .ready s.requestId (some s.workId) shown]) := by
      rw [text, ready]
      exact .of_ack ..
    exact ⟨carried.reply rfl url (ok .ready _ nofun) known fun _ => fresh _, fun _ _ => (newer.snoc rfl).snoc rfl⟩
  · exact ⟨carried.reply rfl s.probeUrl (ok .waiting _ nofun) known fun named => carried.probed_waiting nofun named,
      fun _ _ => (newer.snoc rfl).snoc rfl⟩

theorem onPresented_inv (inv : HandoffInv s) (newest : s.Newest) (held : s.callbacks[id]? = some callback)
    (live : callback.weak = s.weak) (is : callback.awaited = .presentation) :
    HandoffInv ({ s with callbacks := s.callbacks.erase id }.onPresented callback.work) /\
      Newest ({ s with callbacks := s.callbacks.erase id }.onPresented callback.work) := by
  have waits : callback.awaited ≠ .retry := by rw [is]; nofun
  obtain ⟨working, called, known, newer⟩ := inv.answering newest held live waits
  have frame : s.phase = .frame := by rw [working.phase, if_neg (by rw [is]; nofun)]
  obtain ⟨contents, document, since, watched, same, proof, submitted⟩ := working.proof
  rw [frame] at proof
  unfold onPresented
  rw [working.work]
  dsimp only
  have presented := called.note (.presentation s.workId) rfl trivial nofun nofun
  refine ⟨?_, fun _ _ => (newer.snoc rfl).snoc rfl⟩
  split
  · next matched =>
    have front := (matches_shown matched).1
    refine presented.reply rfl s.probeUrl (inv.ackOk newest working.pending (.presentation s.workId) rfl rfl nofun
      .presented _ fun _ => ⟨contents, document, since, ?_, proof.snoc rfl, submitted is⟩) known fun named =>
      presented.probed_waiting nofun named
    exact front.symm.trans same
  · exact presented.reply rfl s.probeUrl (inv.ackOk newest working.pending (.presentation s.workId) rfl rfl nofun
      .waiting _ nofun) known fun named => presented.probed_waiting nofun named

theorem onSubmitted_inv (inv : HandoffInv s) (newest : s.Newest) (held : s.callbacks[id]? = some callback)
    (live : callback.weak = s.weak) (is : callback.awaited = .visualState) (success hasCompositor : Bool) :
    HandoffInv ({ s with callbacks := s.callbacks.erase id }.onSubmitted callback.work success hasCompositor) /\
      Newest ({ s with callbacks := s.callbacks.erase id }.onSubmitted callback.work success hasCompositor) := by
  have waits : callback.awaited ≠ .retry := by rw [is]; nofun
  obtain ⟨working, called, known, newer⟩ := inv.answering newest held live waits
  obtain ⟨contents, document, since, watched, same, proof, -⟩ := working.proof
  unfold onSubmitted
  rw [working.work]
  dsimp only
  split
  · have submitted := called.note (.submitted s.workId success) rfl trivial nofun nofun
    exact ⟨submitted.reply rfl s.probeUrl (inv.ackOk newest working.pending (.submitted s.workId success) rfl rfl nofun
      .waiting _ nofun) known fun named => submitted.probed_waiting nofun named, fun _ _ => (newer.snoc rfl).snoc rfl⟩
  · next succeeded =>
    have success : success = true := by
      by_contra failed
      exact succeeded (.inl (by simpa using failed))
    subst success
    refine ⟨?_, fun _ _ => newer.snoc rfl⟩
    have submitted := (inv.erase id).note (.submitted s.workId true) rfl trivial nofun fun _ _ _ => rfl
    refine submitted.await (fun _ other found held' live' => ?_) fun _ => ?_
    · obtain ⟨apart, was⟩ := (getElem?_erase_some ..).mp held'
      by_contra waits'
      exact apart (inv.alone other id found callback was held live' live waits' waits)
    · have extended : Undisturbed s.workId s.token s.phase contents document
          (s.log ++ [.submitted s.workId true]) (since ++ [.submitted s.workId true]) := proof.snoc rfl
      exact ⟨working.pending, rfl, working.phase.trans (by rw [is]; rfl), contents, document, _, watched, same,
        extended, fun _ => List.mem_append_right _ List.mem_cons_self⟩

section Platform

variable {parse : String → Option String}

structure Taken (s : StartupHandoff) (phase : Phase) : Prop where
  inv : HandoffInv s
  named : s.token ≠ ""
  positive : 0 < s.requestId
  newest : Latest (fun event => event.isRequested = false) s.log (.requested s.token phase s.requestId)

theorem Taken.waiting (taken : Taken s s.phase) (idle : s.pending = false) :
    HandoffInv (s.reply .waiting none) /\ Newest (s.reply .waiting none) := by
  refine ⟨taken.inv.reply idle s.probeUrl ⟨taken.positive, taken.newest, taken.inv.began taken.named, nofun, nofun⟩
    nofun fun named => taken.inv.probed_waiting nofun named, fun _ _ => taken.newest.snoc rfl⟩

theorem Taken.resume (taken : Taken s s.phase) (idle : s.pending = false) (command : DictValue) :
    Taken (s.resume parse command) (s.resume parse command).phase /\ (s.resume parse command).pending = false := by
  unfold StartupHandoff.resume
  split
  · split
    · exact ⟨taken, idle⟩
    · refine ⟨⟨taken.inv.note _ rfl trivial nofun fun pending => absurd (idle.symm.trans pending) nofun, taken.named,
        taken.positive, taken.newest.snoc rfl⟩, idle⟩
  · exact ⟨taken, idle⟩

theorem Taken.accept {contents : Nat} {page : Contents} {awaited : Awaited} (taken : Taken s s.phase)
    (idle : s.pending = false) (active : s.active = some contents) (document : s.document = some page.document)
    (phase : s.phase = if awaited = .script then .ready else .frame) (first : awaited ≠ .presentation)
    (apart : s.phase = .frame → page.url ≠ s.probeUrl ∧ s.probeUrl ≠ "") :
    HandoffInv (s.accept contents page awaited) /\ Newest (s.accept contents page awaited) := by
  refine ⟨?_, fun _ _ => taken.newest.snoc rfl⟩
  have watched : s.watched = some contents := by
    rcases taken.inv.tabs with none | same
    · rw [none] at active
      cases active
    · exact same.symm.trans active
  have accepted : HandoffInv ({ s with pending := true, started := s.now, workId := s.workId + 1 }.note
      (.accepted (s.workId + 1) s.token s.phase contents page.document page.url s.probeUrl)) := by
    constructor
    · exact taken.inv.tabs
    · exact fun _ => ⟨taken.named, taken.positive⟩
    · exact fun named => (taken.inv.began named).snoc rfl
    · exact fun named => (taken.inv.probed named).snoc rfl rfl
    · intro token phase status requestId work shown mem
      rcases List.mem_append.mp mem with before | last
      · have known := (taken.inv.acked token phase status requestId work shown before).1
        exact ⟨Nat.le_succ_of_le known, fun _ => Nat.lt_succ_of_le known⟩
      · cases List.mem_singleton.mp last
    · exact taken.inv.ids
    · exact fun id callback held => ⟨(taken.inv.live id callback held).1, fun live waits =>
        absurd (taken.inv.none_live idle held live) waits⟩
    · exact taken.inv.alone
    · exact taken.inv.checks.snoc trivial
  refine accepted.await (fun _ id callback held live => taken.inv.none_live idle held live) fun _ => ?_
  refine ⟨rfl, rfl, phase, contents, page.document, [], watched, document, ?_, fun is => absurd is first⟩
  exact ⟨s.log, page.url, s.probeUrl, rfl, by simp, fun frame =>
    ⟨(apart frame).1, taken.inv.probed (apart frame).2⟩⟩

variable {phase : Phase}

theorem Taken.prepare (taken : Taken s phase) (known : phase ≠ .unset) (command : DictValue) :
    HandoffInv (s.prepare parse phase command) /\ Newest (s.prepare parse phase command) := by
  have ended : Taken { s.invalidate with phase } phase := by
    refine ⟨taken.inv.ended.settled rfl ⟨taken.inv.tabs, rfl, rfl, rfl, rfl, rfl, rfl, rfl, rfl⟩, taken.named,
      taken.positive, taken.newest⟩
  unfold StartupHandoff.prepare
  dsimp only
  split
  · next contents page active front =>
    split
    · exact ended.waiting rfl
    · have located : Taken { s.invalidate with phase, document := some page.document } phase :=
        ⟨ended.inv.settled rfl ⟨taken.inv.tabs, rfl, rfl, rfl, rfl, rfl, rfl, rfl, rfl⟩, taken.named,
          taken.positive, taken.newest⟩
      split
      · next frame =>
        split
        · exact located.waiting rfl
        · next probed =>
          split
          · obtain ⟨resumed, idle⟩ := located.resume rfl command
            exact resumed.waiting idle
          · next other =>
            exact located.accept rfl active rfl (by rw [frame]; rfl) nofun fun _ => ⟨other, probed⟩
      · next ready =>
        refine located.accept rfl active rfl ?_ nofun fun frame => absurd frame ready
        cases phase
        · exact absurd rfl known
        · rfl
        · exact absurd rfl ready
  · exact ended.waiting rfl

theorem phaseOf_known {text : String} (is : phaseOf text = some phase) : phase ≠ .unset := by
  unfold phaseOf at is
  split at is
  · cases is
    nofun
  · split at is
    · cases is
      nofun
    · cases is

theorem take_inv (inv : HandoffInv s) (named : s.token ≠ "") (widget : Nat) (known : phase ≠ .unset)
    (command : DictValue) (positive : s.pending = true → 0 < (command.findInt "requestId").getD 0) :
    HandoffInv (s.take parse widget phase command) /\ Newest (s.take parse widget phase command) := by
  have fields : HandoffInv { s with widget, requestId := (command.findInt "requestId").getD 0 } :=
    inv.aside ⟨rfl, rfl, rfl, rfl, rfl, rfl, rfl, rfl, rfl, rfl, rfl, rfl⟩ fun pending _ => positive pending
  unfold StartupHandoff.take
  dsimp only
  split
  · next refused =>
    exact ⟨fields, fun _ valid => absurd valid (Int.not_lt.mpr refused)⟩
  · next valid =>
    have requested := fields.note (.requested s.token phase ((command.findInt "requestId").getD 0)) rfl trivial nofun
      fun _ _ _ => rfl
    have newest : Latest (fun event => event.isRequested = false)
        (s.log ++ [.requested s.token phase ((command.findInt "requestId").getD 0)])
        (.requested s.token phase ((command.findInt "requestId").getD 0)) := latest_snoc _ _ _
    split
    · next running =>
      refine ⟨requested, fun _ _ => ?_⟩
      have same : s.phase = phase := running.2.1
      rw [<- same] at newest
      subst same
      exact newest
    · exact Taken.prepare ⟨requested, named, Int.not_le.mp valid, newest⟩ known command

theorem cancel_inv (inv : HandoffInv s) : HandoffInv s.cancel /\ Newest s.cancel := by
  refine ⟨?_, fun named => absurd rfl named⟩
  have ended := inv.ended
  exact
    { ended with
      work := nofun
      began := fun named => absurd rfl named
      probed := fun named => absurd rfl named
      acked := fun token phase status requestId work shown mem => by
        refine ⟨?_, nofun⟩
        rcases List.mem_append.mp mem with before | last
        · exact (inv.acked token phase status requestId work shown before).1
        · cases List.mem_singleton.mp last
      live := fun id callback held => ⟨(ended.live id callback held).1, fun live waits =>
        absurd (ended.none_live rfl held live) waits⟩
      checks := ended.checks.snoc trivial }

theorem beginTransaction_inv (inv : HandoffInv s) (token : String) : HandoffInv (s.beginTransaction token) := by
  have ended := inv.ended
  exact
    { ended with
      work := nofun
      began := fun _ => latest_snoc _ _ _
      probed := fun named => absurd rfl named
      acked := fun token phase status requestId work shown mem => by
        refine ⟨?_, nofun⟩
        rcases List.mem_append.mp mem with before | last
        · exact (inv.acked token phase status requestId work shown before).1
        · cases List.mem_singleton.mp last
      live := fun id callback held => ⟨(ended.live id callback held).1, fun live waits =>
        absurd (ended.none_live rfl held live) waits⟩
      checks := ended.checks.snoc trivial }

/-- The command is one of the transaction's own, and the handoff takes its fields. -/
def takesUp (s : StartupHandoff) (widget : Nat) (command : DictValue) : Bool :=
  match command.findString "startupToken", command.findString "startupPhase" with
  | some token, some text =>
    decide (token ≠ "" ∧ token.utf8ByteSize ≤ 128 ∧ widget ≠ 0 ∧ token = s.token) && (phaseOf text).isSome
  | _, _ => false

theorem request_inv (inv : HandoffInv s) (newest : s.Newest) (widget : Nat) (command : DictValue)
    (positive : s.pending = true → s.takesUp widget command = true → 0 < (command.findInt "requestId").getD 0) :
    HandoffInv (s.request parse widget command) /\ Newest (s.request parse widget command) := by
  unfold StartupHandoff.request
  split
  · next token text tokenIs textIs =>
    split
    · exact ⟨inv, newest⟩
    · next wellFormed =>
      rw [not_or, not_or, Nat.not_lt] at wellFormed
      split
      · split
        · exact cancel_inv inv
        · exact ⟨inv, newest⟩
      · split
        · exact ⟨inv, newest⟩
        · next phase is =>
          split
          · next own =>
            refine take_inv inv (own ▸ wellFormed.1) widget (phaseOf_known is) command fun pending => ?_
            refine positive pending ?_
            unfold takesUp
            rw [tokenIs, textIs]
            simp [wellFormed.1, wellFormed.2.1, wellFormed.2.2, is, <- own]
          · split
            · exact take_inv (beginTransaction_inv inv token) wellFormed.1 widget (phaseOf_known is) command nofun
            · exact ⟨inv, newest⟩
  · exact ⟨inv, newest⟩

theorem retry_inv (inv : HandoffInv s) (newest : s.Newest) :
    HandoffInv (s.retryAfterSameDocumentNavigation parse) /\ Newest (s.retryAfterSameDocumentNavigation parse) := by
  have cleared : HandoffInv { s with retryAfterSameDocument := false } :=
    inv.aside ⟨rfl, rfl, rfl, rfl, rfl, rfl, rfl, rfl, rfl, rfl, rfl, rfl⟩ fun _ positive => positive
  unfold retryAfterSameDocumentNavigation
  dsimp only
  split
  · exact ⟨cleared, newest⟩
  · next goes =>
    rw [not_or, not_or] at goes
    refine request_inv cleared newest s.widget _ fun _ _ => ?_
    have positive := Int.not_le.mp goes.2.2
    simpa [DictValue.findInt, DictValue.find, List.lookup] using positive

end Platform

end StartupHandoff

end ChromiumHmos.Shell
