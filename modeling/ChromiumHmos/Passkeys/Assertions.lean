import ChromiumHmos.Lib.Transition
import ChromiumHmos.Passkeys.CredentialStore

set_option autoImplicit false

/-!
# Assertions

The assertion flow of `device/fido/ohos/authenticator.cc`: a step on the sequence of the keystore,
a reply on the authenticator's own sequence, a system prompt between, and the signing calls of
`huks_signing_key.cc`. Registrations are their last step alone, the only one that writes the file.
-/

namespace ChromiumHmos.Passkeys

open Base Transition

-- `OH_Huks_Result::errorCode`
inductive HuksCode
  | success
  | keyAuthVerifyFailed
  | keyAuthTimeOut
  | keyAuthPermanentlyInvalidated
  | itemNotExist
  | other (code : Int)
deriving DecidableEq

-- The codes that say the key is no more, or will never sign again.
def HuksCode.keyGone : HuksCode -> Bool
  | .keyAuthPermanentlyInvalidated => true
  | .itemNotExist => true
  | _ => false

structure SigningSession where
  handle : UInt64
  challenge : Bytes

inductive SignStatus
  | success
  | authRejected
  | keyInvalidated
  | error
deriving DecidableEq

structure SignResult where
  status : SignStatus
  signature : Bytes

/-- What building the parameters and `OH_Huks_InitSession` give. -/
structure InitAnswer where
  paramsBuilt : Bool
  code : HuksCode
  session : SigningSession

/-- What building the parameters, `OH_Huks_FinishSession` and the conversion to DER give. -/
structure FinishAnswer where
  paramsBuilt : Bool
  code : HuksCode
  derSignature : Option Bytes

/-- How the calls of one task turn out; `written` is whether the file can be replaced. -/
structure HuksAnswer where
  init : InitAnswer
  finish : FinishAnswer
  written : Bool

-- The session, and what is left in `error_code`.
def beginSigning (answer : InitAnswer) (errorCode : HuksCode) : Option SigningSession × HuksCode :=
  if !answer.paramsBuilt then (none, errorCode)
  else if answer.code ≠ .success then (none, answer.code)
  else if answer.session.challenge = [] then (none, answer.code)
  else (some answer.session, answer.code)

def finishSigning (answer : FinishAnswer) : SignResult :=
  if !answer.paramsBuilt then { status := .error, signature := [] }
  else
    match answer.code with
    | .success =>
      match answer.derSignature with
      | none => { status := .error, signature := [] }
      | some der => { status := .success, signature := der }
    | .keyAuthVerifyFailed => { status := .authRejected, signature := [] }
    | .keyAuthTimeOut => { status := .authRejected, signature := [] }
    | .keyAuthPermanentlyInvalidated => { status := .keyInvalidated, signature := [] }
    | .itemNotExist => { status := .keyInvalidated, signature := [] }
    | .other _ => { status := .error, signature := [] }

structure PreparedAssertion where
  credential : StoredCredential
  session : SigningSession

-- A pointer of `operation_weak_factory_`, with the flag the factory hands out to all of them.
structure WeakPtr where
  authenticator : Nat
  generation : Nat
deriving DecidableEq

inductive HuksTask
  | prepareAssertion (weak : WeakPtr) (rpId : String)
      (allowList : List PublicKeyCredentialDescriptor)
  | finishSigning (weak : WeakPtr) (prepared : PreparedAssertion)
  | abortSigning (session : SigningSession)
  | removeCredential (credentialId : Bytes)
  | findCredentials (rpId : String) (allowList : List PublicKeyCredentialDescriptor)
  | commitCredential (excludeList : List PublicKeyCredentialDescriptor)
      (credential : StoredCredential)

inductive Reply
  | assertionPrepared (weak : WeakPtr) (prepared : Option PreparedAssertion)
  | assertionSigned (weak : WeakPtr) (prepared : PreparedAssertion) (result : SignResult)

-- A system prompt the user has not answered.
structure Prompt where
  weak : WeakPtr
  prepared : PreparedAssertion

inductive GetAssertionStatus
  | success
  | userConsentButCredentialNotRecognized
  | userConsentDenied
  | authenticatorResponseInvalid

/-- What can be seen of a run: the credential an assertion chose, the credentials that are offered,
a keystore's report that a key is gone, a credential removed, and an assertion's answer. -/
inductive Event
  | selected (credentialId : Bytes)
  | offered (credentialIds : List Bytes)
  | keyGone (weak : WeakPtr) (credentialId : Bytes)
  | removed (credentialId : Bytes)
  | answered (weak : WeakPtr) (status : GetAssertionStatus)

structure State where
  file : Option Bytes
  huks : List HuksTask
  replies : List Reply
  prompts : List Prompt
  generations : Nat -> Nat
  invalidated : List WeakPtr
  pendingSession : Nat -> Option SigningSession
  issued : List Bytes
  log : List Event

def State.valid (s : State) (weak : WeakPtr) : Bool := weak ∉ s.invalidated

def State.weakPtr (s : State) (authenticator : Nat) : WeakPtr :=
  { authenticator := authenticator, generation := s.generations authenticator }

section Tasks

variable (codecs : Codecs) (newestFirst : NewestFirst)

-- The first credential found, the newest, is the one to sign with.
def chosen (file : Option Bytes) (rpId : String)
    (allowList : List PublicKeyCredentialDescriptor) : Option StoredCredential :=
  (find codecs newestFirst file rpId allowList).bind List.head?

def prepareAssertion (answer : InitAnswer) (file : Option Bytes) (rpId : String)
    (allowList : List PublicKeyCredentialDescriptor) : Option PreparedAssertion :=
  match chosen codecs newestFirst file rpId allowList with
  | none => none
  | some credential =>
    -- The error code is received, and not looked at.
    match beginSigning answer .success with
    | (none, _) => none
    | (some session, _) => some { credential := credential, session := session }

def prepareEvents (answer : InitAnswer) (file : Option Bytes) (weak : WeakPtr) (rpId : String)
    (allowList : List PublicKeyCredentialDescriptor) : List Event :=
  match chosen codecs newestFirst file rpId allowList with
  | none => []
  | some credential =>
    .selected credential.credentialId ::
      if answer.paramsBuilt && answer.code.keyGone then [.keyGone weak credential.credentialId]
      else []

def finishEvents (answer : FinishAnswer) (weak : WeakPtr) (prepared : PreparedAssertion) :
    List Event :=
  if answer.paramsBuilt && answer.code.keyGone then
    [.keyGone weak prepared.credential.credentialId]
  else []

def credentialInfo (file : Option Bytes) (rpId : String)
    (allowList : List PublicKeyCredentialDescriptor) : List Bytes :=
  ((find codecs newestFirst file rpId allowList).getD []).map StoredCredential.credentialId

-- An excluded credential, or a file that cannot be read, ends the registration.
def refusesCommit (file : Option Bytes) (excludeList : List PublicKeyCredentialDescriptor)
    (credential : StoredCredential) : Bool :=
  !excludeList.isEmpty && decide (find codecs newestFirst file credential.rpId excludeList ≠ some [])

def commitCredential (answer : HuksAnswer) (file : Option Bytes)
    (excludeList : List PublicKeyCredentialDescriptor) (credential : StoredCredential) :
    Option Bytes :=
  if refusesCommit codecs newestFirst file excludeList credential then file
  else if (finishSigning answer.finish).status ≠ .success then file
  else (add codecs answer.written file credential).file

def runTask (answer : HuksAnswer) (task : HuksTask) (s : State) : State :=
  match task with
  | .prepareAssertion weak rpId allowList =>
    let prepared := prepareAssertion codecs newestFirst answer.init s.file rpId allowList
    { s with
      replies := s.replies ++ [.assertionPrepared weak prepared]
      log := s.log ++ prepareEvents codecs newestFirst answer.init s.file weak rpId allowList }
  | .finishSigning weak prepared =>
    { s with
      replies := s.replies ++ [.assertionSigned weak prepared (finishSigning answer.finish)]
      log := s.log ++ finishEvents answer.finish weak prepared }
  | .abortSigning _ => s
  | .removeCredential credentialId =>
    let outcome := remove codecs answer.written s.file credentialId
    { s with
      file := outcome.file
      log := if outcome.accepted then s.log ++ [.removed credentialId] else s.log }
  | .findCredentials rpId allowList =>
    { s with log := s.log ++ [.offered (credentialInfo codecs newestFirst s.file rpId allowList)] }
  | .commitCredential excludeList credential =>
    { s with file := commitCredential codecs newestFirst answer s.file excludeList credential }

end Tasks

def onAssertionPrepared (weak : WeakPtr) (prepared : Option PreparedAssertion) (s : State) : State :=
  match prepared with
  | none =>
    if s.valid weak then
      { s with log := s.log ++ [.answered weak .userConsentButCredentialNotRecognized] }
    else s
  | some prepared =>
    if s.valid weak then
      { s with
        pendingSession :=
          Function.update s.pendingSession weak.authenticator (some prepared.session)
        prompts := s.prompts ++ [{ weak := weak, prepared := prepared }] }
    else { s with huks := s.huks ++ [.abortSigning prepared.session] }

def onAssertionSigned (weak : WeakPtr) (prepared : PreparedAssertion) (result : SignResult)
    (s : State) : State :=
  if !s.valid weak then s
  else
    match result.status with
    | .success => { s with log := s.log ++ [.answered weak .success] }
    | .keyInvalidated =>
      { s with
        huks := s.huks ++ [.removeCredential prepared.credential.credentialId]
        log := s.log ++ [.answered weak .userConsentButCredentialNotRecognized] }
    | .authRejected => { s with log := s.log ++ [.answered weak .userConsentDenied] }
    | .error => { s with log := s.log ++ [.answered weak .authenticatorResponseInvalid] }

def runReply (reply : Reply) (s : State) : State :=
  match reply with
  | .assertionPrepared weak prepared => onAssertionPrepared weak prepared s
  | .assertionSigned weak prepared result => onAssertionSigned weak prepared result s

def onGetAssertionUserAuthenticated (prompt : Prompt) (authenticated : Bool) (s : State) : State :=
  if !s.valid prompt.weak then s
  else if !authenticated then
    { s with
      pendingSession := Function.update s.pendingSession prompt.weak.authenticator none
      huks := s.huks ++ [.abortSigning prompt.prepared.session]
      log := s.log ++ [.answered prompt.weak .userConsentDenied] }
  else
    { s with
      pendingSession := Function.update s.pendingSession prompt.weak.authenticator none
      huks := s.huks ++ [.finishSigning prompt.weak prompt.prepared] }

-- `Cancel`, and the destructor: replies that come later find their pointer invalid.
def cancel (authenticator : Nat) (s : State) : State :=
  { s with
    generations := Function.update s.generations authenticator (s.generations authenticator + 1)
    invalidated := s.weakPtr authenticator :: s.invalidated
    pendingSession := Function.update s.pendingSession authenticator none
    huks := s.huks ++ ((s.pendingSession authenticator).map HuksTask.abortSigning).toList }

inductive Label
  | getAssertion (authenticator : Nat) (rpId : String)
      (allowList : List PublicKeyCredentialDescriptor)
  | getCredentialInfo (rpId : String) (allowList : List PublicKeyCredentialDescriptor)
  | commit (excludeList : List PublicKeyCredentialDescriptor) (credential : StoredCredential)
  | runTask (answer : HuksAnswer)
  | runReply
  | authenticated (prompt : Nat) (authenticated : Bool)
  | cancel (authenticator : Nat)

def next (codecs : Codecs) (newestFirst : NewestFirst) (s : State) : Label -> State
  | .getAssertion authenticator rpId allowList =>
    { s with huks := s.huks ++ [.prepareAssertion (s.weakPtr authenticator) rpId allowList] }
  | .getCredentialInfo rpId allowList =>
    { s with huks := s.huks ++ [.findCredentials rpId allowList] }
  | .commit excludeList credential =>
    { s with
      huks := s.huks ++ [.commitCredential excludeList credential]
      issued := credential.credentialId :: s.issued }
  | .runTask answer =>
    match s.huks with
    | [] => s
    | task :: rest => runTask codecs newestFirst answer task { s with huks := rest }
  | .runReply =>
    match s.replies with
    | [] => s
    | reply :: rest => runReply reply { s with replies := rest }
  | .authenticated index authenticated =>
    match s.prompts[index]? with
    | none => s
    | some prompt =>
      onGetAssertionUserAuthenticated prompt authenticated
        { s with prompts := s.prompts.eraseIdx index }
  | .cancel authenticator => cancel authenticator s

-- New credential ids are 16 random bytes, which do not repeat.
def Allowed (s : State) : Label -> Prop
  | .commit _ credential =>
    credential.credentialId.length = 16 ∧ credential.credentialId ∉ s.issued
  | _ => True

def fileIds (codecs : Codecs) (file : Option Bytes) : List Bytes :=
  ((readAll codecs file).getD []).map StoredCredential.credentialId

structure Initial (codecs : Codecs) (s : State) : Prop where
  issued : forall id, id ∈ fileIds codecs s.file -> id ∈ s.issued
  huks : s.huks = []
  replies : s.replies = []
  prompts : s.prompts = []
  log : s.log = []

end ChromiumHmos.Passkeys
