import ChromiumHmos.Lib.History
import ChromiumHmos.Lib.Transition
import ChromiumHmos.Base.Value

set_option autoImplicit false

/-!
# Asking for HarmonyOS permissions

A content setting pulls in the HarmonyOS permissions behind it, each asked for once in a run of the
process. What waits for the answer runs when the shell gives it, or at once where nothing is left
to ask for.
-/

namespace ChromiumHmos.Shell.Permissions

open Base Transition

inductive ContentSettingsType
  | geolocation
  | mediastreamCamera
  | mediastreamMic
  | sensors
  | other (value : Nat)
deriving DecidableEq

inductive SystemPermission
  | notDetermined
  | denied
  | allowed
deriving DecidableEq

def ohosPermissionsFor : ContentSettingsType -> List String
  | .geolocation => ["ohos.permission.LOCATION", "ohos.permission.APPROXIMATELY_LOCATION"]
  | .mediastreamCamera => ["ohos.permission.CAMERA"]
  | .mediastreamMic => ["ohos.permission.MICROPHONE"]
  | .sensors => ["ohos.permission.ACCELEROMETER", "ohos.permission.GYROSCOPE"]
  | .other _ => []

def contentTypeForOhosPermission (permission : String) : Option ContentSettingsType :=
  if permission = "ohos.permission.CAMERA" then some .mediastreamCamera
  else if permission = "ohos.permission.MICROPHONE" then some .mediastreamMic
  else none

def kOhosBackedPermissions : List ContentSettingsType :=
  [.geolocation, .mediastreamCamera, .mediastreamMic, .sensors]

/-- What happens: a call of `RequestOhosPermissionsFor`, a request sent to the shell, a continuation
run, and a `permissionResult` with the permissions it names. -/
inductive Event
  | called (contentType : ContentSettingsType) (done : Option Nat)
  | asked (requestId : Int) (permissions : List String)
  | ran (done : Nat)
  | resulted (requestId : Option Int) (named : List String)
deriving DecidableEq

structure State where
  alreadyRequested : List String
  pending : List (Int × Nat)
  lastRequestId : Int
  systemPermissions : List (ContentSettingsType × SystemPermission)
  log : List Event

def getOhosSystemPermission (s : State) (contentType : ContentSettingsType) : SystemPermission :=
  (s.systemPermissions.lookup contentType).getD .notDetermined

def setOhosSystemPermission (contentType : ContentSettingsType) (state : SystemPermission)
    (s : State) : State :=
  { s with
    systemPermissions :=
      (contentType, state) :: s.systemPermissions.filter fun entry => entry.1 ≠ contentType }

-- Registering a type makes `IsAllowed` wait for an answer about it.
def registerOhosManagedPermissions (s : State) : State :=
  [ContentSettingsType.mediastreamCamera, .mediastreamMic].foldl
    (fun s contentType =>
      if getOhosSystemPermission s contentType = .notDetermined then
        setOhosSystemPermission contentType .notDetermined s
      else s) s

def start : State :=
  registerOhosManagedPermissions
    { alreadyRequested := [], pending := [], lastRequestId := 0, systemPermissions := [], log := [] }

-- The permissions asked for so far with these among them, and those that were not.
def collectWanted : List String -> List String -> List String × List String
  | [], requested => (requested, [])
  | permission :: rest, requested =>
    if permission ∈ requested then collectWanted rest requested
    else
      let collected := collectWanted rest (permission :: requested)
      (collected.1, permission :: collected.2)

def State.remember (s : State) (requestId : Int) : Option Nat -> State
  | none => s
  | some done =>
    { s with pending := (requestId, done) :: s.pending.filter fun entry => entry.1 ≠ requestId }

def requestOhosPermissionsFor (contentType : ContentSettingsType) (done : Option Nat)
    (s : State) : State :=
  let collected := collectWanted (ohosPermissionsFor contentType) s.alreadyRequested
  let called : State := { s with
    alreadyRequested := collected.1
    log := s.log ++ [.called contentType done] }
  if collected.2 = [] then
    { called with log := called.log ++ (done.map Event.ran).toList }
  else
    let requestId := called.lastRequestId + 1
    let counted : State := { called with lastRequestId := requestId }
    let remembered := counted.remember requestId done
    { remembered with log := remembered.log ++ [.asked requestId collected.2] }

-- `allows` is `AnySiteAllows`, which looks through the settings of every profile.
def onContentSettingChanged (changed : List ContentSettingsType)
    (allows : ContentSettingsType -> Bool) (s : State) : State :=
  (kOhosBackedPermissions.filter fun contentType => contentType ∈ changed && allows contentType).foldl
    (fun s contentType => requestOhosPermissionsFor contentType none s) s

def namedIn (values : Option (List Value)) : List String :=
  (values.getD []).filterMap fun entry =>
    match entry with
    | .string permission => some permission
    | _ => none

def recordOutcome (outcome : SystemPermission) (permissions : List String) (s : State) : State :=
  permissions.foldl
    (fun s permission =>
      match contentTypeForOhosPermission permission with
      | none => s
      | some contentType => setOhosSystemPermission contentType outcome s) s

def answer (requestId : Option Int) (s : State) : State :=
  match requestId.bind fun id => s.pending.lookup id with
  | none => s
  | some done =>
    { s with
      pending := s.pending.filter fun entry => some entry.1 ≠ requestId
      log := s.log ++ [.ran done] }

def permissionResult (command : DictValue) (s : State) : State :=
  let granted := namedIn (command.findList "granted")
  let denied := namedIn (command.findList "denied")
  let requestId := command.findInt "requestId"
  let received : State := { s with log := s.log ++ [.resulted requestId (granted ++ denied)] }
  let recorded := recordOutcome .denied denied (recordOutcome .allowed granted received)
  answer requestId recorded

inductive Label
  | request (contentType : ContentSettingsType) (done : Option Nat)
  | settingChanged (changed : List ContentSettingsType) (allows : ContentSettingsType -> Bool)
  | result (command : DictValue)

def next (s : State) : Label -> State
  | .request contentType done => requestOhosPermissionsFor contentType done s
  | .settingChanged changed allows => onContentSettingChanged changed allows s
  | .result command => permissionResult command s

-- Every continuation is one of its own.
def Allowed (s : State) : Label -> Prop
  | .request _ (some done) => forall contentType, Event.called contentType (some done) ∉ s.log
  | _ => True

def RequestAnswered (log : List Event) (requestId : Int) : Prop :=
  exists before named after, log = before ++ .resulted (some requestId) named :: after ∧
    exists permissions, Event.asked requestId permissions ∈ before

def PermissionAnswered (log : List Event) (permission : String) : Prop :=
  (exists requestId named, Event.resulted requestId named ∈ log ∧ permission ∈ named) ∨
  exists before requestId named after, log = before ++ .resulted (some requestId) named :: after ∧
    exists permissions, Event.asked requestId permissions ∈ before ∧ permission ∈ permissions

/-- A continuation runs once, after the answers of all permissions its content type needs, and a
permission is asked for once. -/
def Proper (before : List Event) : Event -> Prop
  | .ran done => Event.ran done ∉ before ∧
      exists contentType, Event.called contentType (some done) ∈ before ∧
        forall permission, permission ∈ ohosPermissionsFor contentType ->
          PermissionAnswered before permission
  | .asked _ permissions => permissions.Nodup ∧
      forall permission, permission ∈ permissions -> forall requestId others,
        Event.asked requestId others ∈ before -> permission ∉ others
  | _ => True

structure WaitsForAnswers (log : List Event) : Prop where
  proper : History.Throughout Proper log
  complete : (forall requestId permissions, Event.asked requestId permissions ∈ log ->
      RequestAnswered log requestId) ->
    forall contentType done, Event.called contentType (some done) ∈ log -> Event.ran done ∈ log

/-- No continuation is requested for a content type while a permission it needs has been asked for
and not been answered. -/
def Meets (s : State) : Label -> Prop
  | .request contentType (some _) =>
    forall permission, permission ∈ ohosPermissionsFor contentType ->
      permission ∈ s.alreadyRequested -> PermissionAnswered s.log permission
  | _ => True

theorem collectWanted_spec (permissions requested : List String) :
    (collectWanted permissions requested).2.Nodup /\
      (∀ permission, permission ∈ (collectWanted permissions requested).2 ->
        permission ∉ requested) /\
      (∀ permission, permission ∈ (collectWanted permissions requested).1 ↔
        permission ∈ requested \/ permission ∈ (collectWanted permissions requested).2) /\
      ∀ permission ∈ permissions,
        permission ∈ (collectWanted permissions requested).1 := by
  induction permissions generalizing requested with
  | nil => simp [collectWanted]
  | cons permission rest ih =>
    by_cases known : permission ∈ requested
    · obtain ⟨distinct, fresh, all, covered⟩ := ih requested
      simp only [collectWanted, known, if_true]
      refine ⟨distinct, fresh, all, fun other member => ?_⟩
      rcases List.mem_cons.mp member with rfl | later
      · exact (all other).mpr (Or.inl known)
      · exact covered other later
    · obtain ⟨distinct, fresh, all, covered⟩ := ih (permission :: requested)
      simp only [collectWanted, known, if_false]
      refine ⟨?_, ?_, ?_, ?_⟩
      · refine List.nodup_cons.mpr ⟨fun again => fresh permission again (by simp), distinct⟩
      · intro other member
        rcases List.mem_cons.mp member with rfl | later
        · exact known
        · exact fun old => fresh other later (List.mem_cons_of_mem _ old)
      · intro other
        rw [all other, List.mem_cons, List.mem_cons]
        tauto
      · intro other member
        rcases List.mem_cons.mp member with rfl | later
        · exact (all other).mpr (Or.inl (by simp))
        · exact covered other later

variable {log : List Event}

theorem PermissionAnswered.append {permission : String}
    (answered : PermissionAnswered log permission) (more : List Event) :
    PermissionAnswered (log ++ more) permission := by
  rcases answered with ⟨requestId, named, member, inside⟩ |
    ⟨before, requestId, named, after, rfl, asked⟩
  · exact Or.inl ⟨requestId, named, List.mem_append_left _ member, inside⟩
  · exact Or.inr ⟨before, requestId, named, after ++ more, by simp, asked⟩

variable {event : Event} {requestId : Int}

theorem requestAnswered_snoc
    (answered : RequestAnswered (log ++ [event]) requestId) :
    RequestAnswered log requestId \/
      (∃ named, event = .resulted (some requestId) named) /\
        ∃ permissions, Event.asked requestId permissions ∈ log := by
  obtain ⟨before, named, after, split, asked⟩ := answered
  rcases List.eq_nil_or_concat after with rfl | ⟨rest, last, rfl⟩
  · obtain ⟨rfl, same⟩ := List.append_inj' split rfl
    exact Or.inr ⟨⟨named, List.singleton_inj.mp same⟩, asked⟩
  · rw [List.concat_eq_append, <- List.cons_append, <- List.append_assoc] at split
    obtain ⟨rfl, _⟩ := List.append_inj' split rfl
    exact Or.inl ⟨before, named, rest, rfl, asked⟩

/-- A continuation that waits: it has not run, its request has no answer, and of the permissions it
needs each was asked for with it or is answered. -/
structure Waiting (log : List Event) (requestId : Int) (done : Nat) : Prop where
  unrun : Event.ran done ∉ log
  unanswered : ¬ RequestAnswered log requestId
  needs : exists contentType permissions, Event.called contentType (some done) ∈ log ∧
    Event.asked requestId permissions ∈ log ∧
    forall permission, permission ∈ ohosPermissionsFor contentType ->
      permission ∈ permissions ∨ PermissionAnswered log permission

variable {done : Nat}

theorem Waiting.snoc
    (waiting : Waiting log requestId done) (notRun : event ≠ .ran done)
    (notResult : ∀ named, event ≠ .resulted (some requestId) named) :
    Waiting (log ++ [event]) requestId done := by
  constructor
  · intro member
    rcases List.mem_append.mp member with old | new
    · exact waiting.unrun old
    · exact notRun (List.mem_singleton.mp new).symm
  · intro answered
    rcases requestAnswered_snoc answered with old | ⟨⟨named, same⟩, _⟩
    · exact waiting.unanswered old
    · exact notResult named same
  · obtain ⟨contentType, permissions, called, asked, needs⟩ := waiting.needs
    refine ⟨contentType, permissions, List.mem_append_left _ called,
      List.mem_append_left _ asked, fun permission member => ?_⟩
    rcases needs permission member with inside | answered
    · exact Or.inl inside
    · exact Or.inr (answered.append [event])

/-- What waits was asked for and has no answer yet, what was asked for has a number already used,
and every continuation has run or waits. -/
structure Inv (s : State) : Prop where
  proper : History.Throughout Proper s.log
  numbers : (s.pending.map Prod.fst).Nodup
  continuations : (s.pending.map Prod.snd).Nodup
  waits : forall requestId done, (requestId, done) ∈ s.pending -> Waiting s.log requestId done
  asked : forall requestId permissions, Event.asked requestId permissions ∈ s.log ->
    requestId <= s.lastRequestId
  requested : forall permission, permission ∈ s.alreadyRequested ↔
    exists requestId permissions, Event.asked requestId permissions ∈ s.log ∧
      permission ∈ permissions
  ran : forall done, Event.ran done ∈ s.log ->
    exists contentType, Event.called contentType (some done) ∈ s.log
  called : forall contentType done, Event.called contentType (some done) ∈ s.log ->
    Event.ran done ∈ s.log ∨ exists requestId, (requestId, done) ∈ s.pending

variable {s : State}

theorem Inv.numbered (inv : Inv s)
    (member : (requestId, done) ∈ s.pending) : requestId <= s.lastRequestId := by
  obtain ⟨_, permissions, _, asked, _⟩ := (inv.waits requestId done member).needs
  exact inv.asked requestId permissions asked

theorem start_log : start.log = [] := rfl

theorem start_pending : start.pending = [] := rfl

theorem start_inv : Inv start where
  proper := History.Throughout.nil Proper
  numbers := by simp [start_pending]
  continuations := by simp [start_pending]
  waits := by simp [start_pending]
  asked := by simp [start_log]
  requested := by
    intro permission
    have nothing : start.alreadyRequested = [] := rfl
    simp [nothing, start_log]
  ran := by simp [start_log]
  called := by simp [start_log]

variable {requested : List String}

theorem Inv.satisfied (inv : Inv s) {contentType : ContentSettingsType} {done : Option Nat}
    (fresh : ∀ token, done = some token ->
      ∀ other, Event.called other (some token) ∉ s.log)
    (answered : done.isSome = true -> ∀ permission,
      permission ∈ ohosPermissionsFor contentType -> PermissionAnswered s.log permission)
    (same : ∀ permission, permission ∈ requested ↔ permission ∈ s.alreadyRequested) :
    Inv { s with
      alreadyRequested := requested
      log := s.log ++ [.called contentType done] ++ (done.map Event.ran).toList } := by
  have unrun : ∀ token, done = some token -> Event.ran token ∉ s.log := by
    intro token given ran
    obtain ⟨other, called⟩ := inv.ran token ran
    exact fresh token given other called
  have memLog : ∀ event, event ∈ s.log ++ [Event.called contentType done] ++
      (done.map Event.ran).toList -> event ∈ s.log \/ event = .called contentType done \/
        ∃ token, done = some token /\ event = .ran token := by
    intro event member
    cases done <;> simpa using member
  refine {
    proper := ?_
    numbers := inv.numbers
    continuations := inv.continuations
    waits := ?_
    asked := ?_
    requested := ?_
    ran := ?_
    called := ?_ }
  · have first : History.Throughout Proper (s.log ++ [.called contentType done]) :=
      inv.proper.snoc trivial
    cases done with
    | none => simpa using first
    | some token =>
      refine first.snoc ⟨?_, contentType, by simp, fun permission member => ?_⟩
      · intro ran
        rcases List.mem_append.mp ran with old | new
        · exact unrun token rfl old
        · cases List.mem_singleton.mp new
      · exact (answered rfl permission member).append _
  · intro requestId token member
    have before : Waiting (s.log ++ [.called contentType done]) requestId token :=
      (inv.waits requestId token member).snoc (by simp) (by simp)
    cases done with
    | none => simpa using before
    | some new =>
      refine before.snoc ?_ (by simp)
      intro equal
      obtain rfl := Event.ran.inj equal
      obtain ⟨other, _, called, _⟩ := (inv.waits requestId new member).needs
      exact fresh new rfl other called
  · intro requestId permissions member
    rcases memLog _ member with old | impossible | ⟨_, _, impossible⟩
    · exact inv.asked requestId permissions old
    · cases impossible
    · cases impossible
  · intro permission
    rw [same permission, inv.requested permission]
    constructor
    · rintro ⟨requestId, permissions, asked, inside⟩
      exact ⟨requestId, permissions, by simp [asked], inside⟩
    · rintro ⟨requestId, permissions, asked, inside⟩
      rcases memLog _ asked with old | impossible | ⟨_, _, impossible⟩
      · exact ⟨requestId, permissions, old, inside⟩
      · cases impossible
      · cases impossible
  · intro token member
    rcases memLog _ member with old | impossible | ⟨given, isDone, same⟩
    · obtain ⟨other, called⟩ := inv.ran token old
      exact ⟨other, by simp [called]⟩
    · cases impossible
    · obtain rfl := Event.ran.inj same
      exact ⟨contentType, by simp [isDone]⟩
  · intro other token member
    rcases memLog _ member with old | same | ⟨_, _, impossible⟩
    · rcases inv.called other token old with ran | waits
      · exact Or.inl (by simp [ran])
      · exact Or.inr waits
    · obtain ⟨rfl, rfl⟩ := Event.called.inj same
      exact Or.inl (by simp)
    · cases impossible

theorem Inv.asks (inv : Inv s) {contentType : ContentSettingsType} {done : Option Nat}
    (fresh : ∀ token, done = some token ->
      ∀ other, Event.called other (some token) ∉ s.log)
    (met : done.isSome = true -> ∀ permission,
      permission ∈ ohosPermissionsFor contentType -> permission ∈ s.alreadyRequested ->
        PermissionAnswered s.log permission)
    {wanted : List String} (distinct : wanted.Nodup)
    (unasked : ∀ permission ∈ wanted, permission ∉ s.alreadyRequested)
    (all : ∀ permission, permission ∈ requested ↔
      permission ∈ s.alreadyRequested \/ permission ∈ wanted)
    (covered : ∀ permission, permission ∈ ohosPermissionsFor contentType ->
      permission ∈ requested) :
    Inv { (State.remember { s with lastRequestId := s.lastRequestId + 1 } (s.lastRequestId + 1) done)
      with
      alreadyRequested := requested
      log := s.log ++ [.called contentType done] ++ [.asked (s.lastRequestId + 1) wanted] } := by
  have memLog : ∀ event, event ∈ s.log ++ [Event.called contentType done] ++
      [.asked (s.lastRequestId + 1) wanted] -> event ∈ s.log \/ event = .called contentType done \/
        event = .asked (s.lastRequestId + 1) wanted := by
    intro event member
    simpa using member
  have older : ∀ requestId token, (requestId, token) ∈ s.pending ->
      requestId ≠ s.lastRequestId + 1 := by
    intro requestId token member same
    have bound := inv.numbered member
    omega
  have kept : (s.pending.filter fun entry => entry.1 ≠ s.lastRequestId + 1) = s.pending := by
    apply List.filter_eq_self.mpr
    intro entry member
    simpa using older entry.1 entry.2 member
  have oldWaits : ∀ requestId token, (requestId, token) ∈ s.pending ->
      Waiting (s.log ++ [.called contentType done] ++ [.asked (s.lastRequestId + 1) wanted])
        requestId token := by
    intro requestId token member
    exact ((inv.waits requestId token member).snoc (by simp) (by simp)).snoc (by simp) (by simp)
  have newWaits : ∀ token, done = some token ->
      Waiting (s.log ++ [.called contentType done] ++ [.asked (s.lastRequestId + 1) wanted])
        (s.lastRequestId + 1) token := by
    rintro token rfl
    constructor
    · intro ran
      rcases memLog _ ran with old | impossible | impossible
      · obtain ⟨other, called⟩ := inv.ran token old
        exact fresh token rfl other called
      · cases impossible
      · cases impossible
    · intro answered
      rcases requestAnswered_snoc answered with early | ⟨⟨_, impossible⟩, _⟩
      · rcases requestAnswered_snoc early with old | ⟨⟨_, impossible⟩, _⟩
        · obtain ⟨before, named, after, split, permissions, asked⟩ := old
          have bound := inv.asked (s.lastRequestId + 1) permissions (by rw [split]; simp [asked])
          omega
        · cases impossible
      · cases impossible
    · refine ⟨contentType, wanted, by simp, by simp, fun permission member => ?_⟩
      rcases (all permission).mp (covered permission member) with old | new
      · exact Or.inr (((met rfl permission member old).append _).append _)
      · exact Or.inl new
  have pending : ∀ requestId token,
      (requestId, token) ∈ (State.remember { s with lastRequestId := s.lastRequestId + 1 }
        (s.lastRequestId + 1) done).pending ↔
      (requestId, token) ∈ s.pending \/ requestId = s.lastRequestId + 1 /\ done = some token := by
    intro requestId token
    cases done with
    | none => simp [State.remember]
    | some given =>
      simp only [State.remember, kept, List.mem_cons, Prod.mk.injEq, Option.some.injEq]
      constructor
      · rintro (⟨rfl, rfl⟩ | old)
        · exact Or.inr ⟨rfl, rfl⟩
        · exact Or.inl old
      · rintro (old | ⟨rfl, rfl⟩)
        · exact Or.inr old
        · exact Or.inl ⟨rfl, rfl⟩
  refine {
    proper := ?_
    numbers := ?_
    continuations := ?_
    waits := ?_
    asked := ?_
    requested := ?_
    ran := ?_
    called := ?_ }
  · have first : History.Throughout Proper (s.log ++ [.called contentType done]) :=
      inv.proper.snoc trivial
    refine first.snoc ⟨distinct, fun permission member => ?_⟩
    intro requestId others asked inside
    have before : Event.asked requestId others ∈ s.log := by simpa using asked
    exact unasked permission member
      ((inv.requested permission).mpr ⟨requestId, others, before, inside⟩)
  · cases done with
    | none => exact inv.numbers
    | some token =>
      simp only [State.remember, kept, List.map_cons, List.nodup_cons]
      refine ⟨fun member => ?_, inv.numbers⟩
      obtain ⟨⟨requestId, other⟩, inside, same⟩ := List.mem_map.mp member
      exact older requestId other inside same
  · cases done with
    | none => exact inv.continuations
    | some token =>
      simp only [State.remember, kept, List.map_cons, List.nodup_cons]
      refine ⟨fun member => ?_, inv.continuations⟩
      obtain ⟨⟨requestId, other⟩, inside, same⟩ := List.mem_map.mp member
      obtain ⟨otherType, _, called, _⟩ := (inv.waits requestId other inside).needs
      exact fresh token rfl otherType (by rw [<- show other = token from same]; exact called)
  · intro requestId token member
    rcases (pending requestId token).mp member with old | ⟨rfl, given⟩
    · exact oldWaits requestId token old
    · exact newWaits token given
  · intro requestId permissions member
    have last : (State.remember { s with lastRequestId := s.lastRequestId + 1 }
        (s.lastRequestId + 1) done).lastRequestId = s.lastRequestId + 1 := by
      cases done <;> rfl
    show requestId <= _
    rw [last]
    rcases memLog _ member with old | impossible | same
    · have bound := inv.asked requestId permissions old
      omega
    · cases impossible
    · obtain ⟨rfl, rfl⟩ := Event.asked.inj same
      exact le_refl _
  · intro permission
    rw [all permission, inv.requested permission]
    constructor
    · rintro (⟨requestId, permissions, asked, inside⟩ | new)
      · exact ⟨requestId, permissions, by simp [asked], inside⟩
      · exact ⟨s.lastRequestId + 1, wanted, by simp, new⟩
    · rintro ⟨requestId, permissions, asked, inside⟩
      rcases memLog _ asked with old | impossible | same
      · exact Or.inl ⟨requestId, permissions, old, inside⟩
      · cases impossible
      · obtain ⟨rfl, rfl⟩ := Event.asked.inj same
        exact Or.inr inside
  · intro token member
    rcases memLog _ member with old | impossible | impossible
    · obtain ⟨other, called⟩ := inv.ran token old
      exact ⟨other, by simp [called]⟩
    · cases impossible
    · cases impossible
  · intro other token member
    rcases memLog _ member with old | same | impossible
    · rcases inv.called other token old with ran | ⟨requestId, waits⟩
      · exact Or.inl (by simp [ran])
      · exact Or.inr ⟨requestId, (pending requestId token).mpr (Or.inl waits)⟩
    · obtain ⟨rfl, given⟩ := Event.called.inj same
      exact Or.inr ⟨s.lastRequestId + 1, (pending _ token).mpr (Or.inr ⟨rfl, given.symm⟩)⟩
    · cases impossible

theorem Inv.request {s : State} (inv : Inv s) {contentType : ContentSettingsType}
    {done : Option Nat} (allowed : Allowed s (.request contentType done))
    (meets : Meets s (.request contentType done)) :
    Inv (requestOhosPermissionsFor contentType done s) := by
  have fresh : ∀ token, done = some token ->
      ∀ other, Event.called other (some token) ∉ s.log := by
    rintro token rfl
    exact allowed
  have met : done.isSome = true -> ∀ permission,
      permission ∈ ohosPermissionsFor contentType -> permission ∈ s.alreadyRequested ->
        PermissionAnswered s.log permission := by
    intro given
    obtain ⟨token, rfl⟩ := Option.isSome_iff_exists.mp given
    exact meets
  obtain ⟨distinct, unasked, all, covered⟩ :=
    collectWanted_spec (ohosPermissionsFor contentType) s.alreadyRequested
  simp only [requestOhosPermissionsFor]
  split
  case isTrue nothing =>
    have same : ∀ permission,
        permission ∈ (collectWanted (ohosPermissionsFor contentType) s.alreadyRequested).1 ↔
          permission ∈ s.alreadyRequested := by
      intro permission
      rw [all permission, nothing]
      simp
    refine inv.satisfied fresh (fun given permission member => ?_) same
    exact met given permission member ((same permission).mp (covered permission member))
  case isFalse =>
    have asks := inv.asks fresh met distinct unasked all covered
    cases done <;> exact asks

theorem recordOutcome_frame (outcome : SystemPermission) (permissions : List String) (s : State) :
    ∃ states, recordOutcome outcome permissions s = { s with systemPermissions := states } := by
  induction permissions generalizing s with
  | nil => exact ⟨s.systemPermissions, rfl⟩
  | cons permission rest ih =>
    simp only [recordOutcome, List.foldl_cons]
    cases contentTypeForOhosPermission permission with
    | none => exact ih s
    | some contentType =>
      obtain ⟨states, same⟩ := ih (setOhosSystemPermission contentType outcome s)
      exact ⟨states, same⟩

theorem Inv.unrelated (inv : Inv s) {requestId : Option Int} {named : List String}
    (nobody : ∀ id done, requestId = some id -> (id, done) ∉ s.pending)
    (states : List (ContentSettingsType × SystemPermission)) :
    Inv { s with systemPermissions := states, log := s.log ++ [.resulted requestId named] } where
  proper := inv.proper.snoc trivial
  numbers := inv.numbers
  continuations := inv.continuations
  waits := by
    intro id done member
    refine (inv.waits id done member).snoc (by simp) ?_
    intro others same
    exact nobody id done (Event.resulted.inj same).1 member
  asked := by
    intro id permissions member
    exact inv.asked id permissions (by simpa using member)
  requested := by
    intro permission
    simpa using inv.requested permission
  ran := by
    intro done member
    obtain ⟨contentType, called⟩ := inv.ran done (by simpa using member)
    exact ⟨contentType, by simp [called]⟩
  called := by
    intro contentType done member
    rcases inv.called contentType done (by simpa using member) with ran | waits
    · exact Or.inl (by simp [ran])
    · exact Or.inr waits

theorem Inv.answered {s : State} (inv : Inv s) {requestId : Int} {done : Nat}
    {named : List String} (waits : (requestId, done) ∈ s.pending)
    (states : List (ContentSettingsType × SystemPermission)) :
    Inv { s with
      systemPermissions := states
      pending := s.pending.filter fun entry => some entry.1 ≠ some requestId
      log := s.log ++ [.resulted (some requestId) named] ++ [.ran done] } := by
  have waiting := inv.waits requestId done waits
  have others : ∀ id token, (id, token) ∈ s.pending -> id ≠ requestId -> token ≠ done := by
    intro id token member differs same
    have equal := List.inj_on_of_nodup_map inv.continuations member waits same
    exact differs (Prod.mk.inj equal).1
  refine {
    proper := ?_
    numbers := (List.filter_sublist.map _).nodup inv.numbers
    continuations := (List.filter_sublist.map _).nodup inv.continuations
    waits := ?_
    asked := ?_
    requested := ?_
    ran := ?_
    called := ?_ }
  · have first : History.Throughout Proper (s.log ++ [.resulted (some requestId) named]) :=
      inv.proper.snoc trivial
    obtain ⟨contentType, permissions, called, asked, needs⟩ := waiting.needs
    refine first.snoc ⟨?_, contentType, by simp [called], fun permission member => ?_⟩
    · intro ran
      exact waiting.unrun (by simpa using ran)
    · rcases needs permission member with inside | answered
      · exact Or.inr ⟨s.log, requestId, named, [], rfl, permissions, asked, inside⟩
      · exact answered.append _
  · intro id token member
    obtain ⟨inside, apart⟩ := List.mem_filter.mp member
    have differs : id ≠ requestId := by simpa using apart
    have unequal := others id token inside differs
    refine ((inv.waits id token inside).snoc (by simp) ?_).snoc ?_ (by simp)
    · intro list same
      exact differs (Option.some.inj (Event.resulted.inj same).1).symm
    · intro same
      exact unequal (Event.ran.inj same).symm
  · intro id permissions member
    exact inv.asked id permissions (by simpa using member)
  · intro permission
    simpa using inv.requested permission
  · intro token member
    have before : Event.ran token ∈ s.log \/ token = done := by simpa using member
    rcases before with old | rfl
    · obtain ⟨contentType, called⟩ := inv.ran token old
      exact ⟨contentType, by simp [called]⟩
    · obtain ⟨contentType, _, called, _⟩ := waiting.needs
      exact ⟨contentType, by simp [called]⟩
  · intro contentType token member
    rcases inv.called contentType token (by simpa using member) with ran | ⟨id, inside⟩
    · exact Or.inl (by simp [ran])
    · by_cases same : id = requestId
      · subst same
        have equal := List.inj_on_of_nodup_map inv.numbers inside waits rfl
        exact Or.inl (by simp [(Prod.mk.inj equal).2])
      · exact Or.inr ⟨id, List.mem_filter.mpr ⟨inside, by simpa using same⟩⟩

theorem Inv.result (inv : Inv s) (command : DictValue) : Inv (permissionResult command s) := by
  simp only [permissionResult]
  generalize command.findInt "requestId" = requestId
  generalize namedIn (command.findList "granted") = granted
  generalize namedIn (command.findList "denied") = denied
  obtain ⟨first, allowed⟩ := recordOutcome_frame .allowed granted
    { s with log := s.log ++ [.resulted requestId (granted ++ denied)] }
  rw [allowed]
  obtain ⟨states, recorded⟩ := recordOutcome_frame .denied denied
    { s with
      systemPermissions := first
      log := s.log ++ [.resulted requestId (granted ++ denied)] }
  rw [recorded, answer]
  cases found : requestId.bind fun id => s.pending.lookup id with
  | none =>
    refine inv.unrelated ?_ states
    rintro id done rfl member
    have missing := List.lookup_eq_none_iff.mp found (id, done) member
    simp at missing
  | some done =>
    obtain ⟨id, rfl, lookup⟩ := Option.bind_eq_some_iff.mp found
    obtain ⟨front, back, split, _⟩ := List.lookup_eq_some_iff.mp lookup
    exact inv.answered (by rw [split]; simp) states

theorem Inv.settingChanged (inv : Inv s) (changed : List ContentSettingsType)
    (allows : ContentSettingsType -> Bool) : Inv (onContentSettingChanged changed allows s) := by
  simp only [onContentSettingChanged]
  generalize kOhosBackedPermissions.filter _ = wanted
  induction wanted generalizing s with
  | nil => exact inv
  | cons contentType rest ih =>
    have called : Inv (requestOhosPermissionsFor contentType none s) :=
      inv.request trivial trivial
    exact ih called

theorem Inv.next (inv : Inv s) {label : Label}
    (step : Allowed s label /\ Meets s label) : Inv (next s label) := by
  cases label with
  | request contentType done => exact inv.request step.1 step.2
  | settingChanged changed allows => exact inv.settingChanged changed allows
  | result command => exact inv.result command

theorem Inv.waitsForAnswers (inv : Inv s) : WaitsForAnswers s.log where
  proper := inv.proper
  complete := by
    intro all contentType done called
    rcases inv.called contentType done called with ran | ⟨requestId, member⟩
    · exact ran
    · have waiting := inv.waits requestId done member
      obtain ⟨_, permissions, _, asked, _⟩ := waiting.needs
      exact absurd (all requestId permissions asked) waiting.unanswered

theorem permission_requests_wait (labels : List Label) (run : Follows Allowed next start labels)
    (met : Follows Meets next start labels) : WaitsForAnswers (labels.foldl next start).log := by
  have inv : Inv (labels.foldl next start) :=
    (run.and met).preserves (fun _ _ before step => before.next step) start_inv
  exact inv.waitsForAnswers

-- A site asks for the camera, and the user agrees.
def cameraAllowed : List Label :=
  [.request .mediastreamCamera (some 0),
    .result [("requestId", .int 1), ("granted", .list [.string "ohos.permission.CAMERA"])]]

theorem permission_requests_wait_camera :
    WaitsForAnswers (cameraAllowed.foldl next start).log ∧
      Event.ran 0 ∈ (cameraAllowed.foldl next start).log := by
  constructor
  · apply permission_requests_wait
    · exact ⟨by intro contentType; simp [start_log], trivial, trivial⟩
    · refine ⟨?_, trivial, trivial⟩
      intro permission _ requested
      cases requested
  · decide

-- The watcher has asked for the camera; the media path asks while the prompt is on screen.
def askedWhilePrompting : List Label :=
  [.request .mediastreamCamera none, .request .mediastreamCamera (some 0)]

theorem camera_runs_unanswered :
    ¬ forall labels, Follows Allowed next start labels ->
      WaitsForAnswers (labels.foldl next start).log := by
  intro claim
  have first : (next start (.request .mediastreamCamera none)).log =
      [.called .mediastreamCamera none, .asked 1 ["ohos.permission.CAMERA"]] := by decide
  have waits := claim askedWhilePrompting
    ⟨trivial, by intro contentType; rw [first]; simp, trivial⟩
  have log : (askedWhilePrompting.foldl next start).log =
      [.called .mediastreamCamera none, .asked 1 ["ohos.permission.CAMERA"],
        .called .mediastreamCamera (some 0)] ++ [.ran 0] := by decide
  rw [log] at waits
  obtain ⟨_, contentType, called, answered⟩ := (History.throughout_snoc.mp waits.proper).2
  have camera : contentType = .mediastreamCamera := by simpa using called
  subst camera
  rcases answered "ohos.permission.CAMERA" (by decide) with ⟨_, _, member, _⟩ |
    ⟨before, requestId, named, after, split, _⟩
  · simp at member
  · have member : Event.resulted (some requestId) named ∈
        [Event.called .mediastreamCamera none, .asked 1 ["ohos.permission.CAMERA"],
          .called .mediastreamCamera (some 0)] := by
      rw [split]
      simp
    simp at member

end ChromiumHmos.Shell.Permissions
