import ChromiumHmos.Lib.Transition
import ChromiumHmos.Base.Value

set_option autoImplicit false

/-!
# The password encryption key

The key is kept in a file, wrapped by a key that the keystore holds and never hands out. Each call
that gets it runs on a thread of its own, one keystore or file call at a time.
-/

namespace ChromiumHmos.Passwords

open Std Transition Base

/-- AES-GCM as the keystore does it; the wrapping keys are numbered. -/
structure AesGcm where
  cipher : Nat → Bytes → Bytes → Bytes
  tag : Nat → Bytes → Bytes → Bytes
  decrypt : Nat → Bytes → Bytes → Bytes → Option Bytes
  cipher_length : ∀ wrapping nonce input, (cipher wrapping nonce input).length = input.length
  tag_length : ∀ wrapping nonce input, (tag wrapping nonce input).length = 16
  decrypt_sealed : ∀ wrapping nonce input,
    decrypt wrapping nonce (tag wrapping nonce input) (cipher wrapping nonce input) = some input

def kKeyBytes : Nat := 32

def kNonceBytes : Nat := 12

def kAeTagBytes : Nat := 16

namespace Huks

/-- One pass of AES-GCM: opening what the file holds, or sealing a new key. -/
inductive Pass
  | unwrap (hadFile : Bool) (nonce aeTag input : Bytes)
  | wrap (key nonce : Bytes)
deriving DecidableEq

/-- Where a call of `LoadOrCreateKey` is. `checkKey` and `generate` are `EnsureHuksKey`, before
anything else or within a pass. -/
inductive Stage
  | checkKey (pass : Option Pass)
  | generate (pass : Option Pass)
  | pathExists
  | readFile (hadFile : Bool)
  | buildParams (pass : Pass)
  | initSession (pass : Pass)
  | finishSession (pass : Pass) (session : Nat)
  | newKey (hadFile : Bool)
  | openFile (key file : Bytes)
  | writeFile (key file : Bytes)
  | finished (key : Option Bytes)
deriving DecidableEq

/-- How the keystore or the file system answers, and what it draws. -/
structure Env where
  ok : Bool := true
  -- The bytes of a new key, and then those of the nonce.
  random : Bytes := []
  -- The wrapping key that is made.
  made : Nat := 0
  -- So much of the file is written.
  count : Nat := 0

inductive KeyEvent
  | delivered (key : Bytes)
  -- `kTemporarilyUnavailable`
  | unavailable
deriving DecidableEq

structure KeyProvider where
  wrapping : Option Nat
  file : Option Bytes
  keyWasReplaced : Bool := false
  calls : ExtTreeMap Nat Stage := ∅
  nextCall : Nat := 0
  log : List KeyEvent := []

-- nonce | tag | wrapped key
def fileOf (nonce wrapped : Bytes) : Bytes :=
  nonce ++ wrapped.drop (wrapped.length - kAeTagBytes) ++ wrapped.take (wrapped.length - kAeTagBytes)

def unwrapPass (hadFile : Bool) (blob : Bytes) : Option Pass :=
  if blob.length ≤ kNonceBytes + kAeTagBytes then none
  else some (.unwrap hadFile (blob.take kNonceBytes) ((blob.drop kNonceBytes).take kAeTagBytes)
    (blob.drop (kNonceBytes + kAeTagBytes)))

section Steps

variable (gcm : AesGcm)

-- What HUKS gives out: the tag is appended.
def sealed (wrapping : Nat) (nonce key : Bytes) : Bytes :=
  gcm.cipher wrapping nonce key ++ gcm.tag wrapping nonce key

-- What the file opens to.
def unwrapFile (wrapping : Nat) (blob : Bytes) : Option Bytes :=
  match unwrapPass true blob with
  | some (.unwrap _ nonce aeTag input) => gcm.decrypt wrapping nonce aeTag input
  | _ => none

def afterEnsure : Option Pass → Stage
  | none => .pathExists
  | some pass => .initSession pass

-- The keystore did not do what was asked.
def failed : Option Pass → Stage
  | some (.unwrap hadFile _ _ _) => .newKey hadFile
  | _ => .finished none

def advance (s : KeyProvider) (env : Env) : Stage → KeyProvider × Stage
  | .checkKey pass =>
    if env.ok ∧ s.wrapping.isSome then (s, afterEnsure pass) else (s, .generate pass)
  | .generate pass =>
    if env.ok then ({ s with wrapping := some env.made }, afterEnsure pass) else (s, failed pass)
  | .pathExists => (s, .readFile (env.ok && s.file.isSome))
  | .readFile hadFile =>
    match (if env.ok then s.file else none).bind (unwrapPass hadFile) with
    | some pass => (s, .buildParams pass)
    | none => (s, .newKey hadFile)
  | .buildParams pass => if env.ok then (s, .checkKey (some pass)) else (s, failed (some pass))
  | .initSession pass =>
    match env.ok, s.wrapping with
    | true, some wrapping => (s, .finishSession pass wrapping)
    | _, _ => (s, failed (some pass))
  | .finishSession (.unwrap hadFile nonce aeTag input) session =>
    match if env.ok then gcm.decrypt session nonce aeTag input else none with
    | some key => (s, .finished (some key))
    | none => (s, .newKey hadFile)
  | .finishSession (.wrap key nonce) session =>
    if env.ok ∧ kAeTagBytes ≤ (sealed gcm session nonce key).length
    then (s, .openFile key (fileOf nonce (sealed gcm session nonce key)))
    else (s, .finished none)
  | .newKey hadFile =>
    ({ s with keyWasReplaced := s.keyWasReplaced || hadFile },
      .buildParams (.wrap (env.random.take kKeyBytes) (env.random.drop kKeyBytes)))
  -- The file is emptied, and then written from its start.
  | .openFile key file => if env.ok then ({ s with file := some [] }, .writeFile key file) else (s, .finished none)
  | .writeFile key file =>
    ({ s with file := some (file.take env.count ++ (s.file.getD []).drop env.count) },
      .finished (if file.length ≤ env.count then some key else none))
  | .finished key => (s, .finished key)

inductive KeyOp
  | getKey
  | step (call : Nat) (env : Env)
  | reply (call : Nat)
  -- The process ends, and starts again.
  | stop

def next (s : KeyProvider) : KeyOp → KeyProvider
  | .getKey => { s with calls := s.calls.insert s.nextCall (.checkKey none), nextCall := s.nextCall + 1 }
  | .step call env =>
    match s.calls[call]? with
    | some stage =>
      let (t, stage) := advance gcm s env stage
      { t with calls := t.calls.insert call stage }
    | none => s
  | .reply call =>
    match s.calls[call]? with
    | some (.finished (some key)) => { s with calls := s.calls.erase call, log := s.log ++ [.delivered key] }
    | some (.finished none) => { s with calls := s.calls.erase call, log := s.log ++ [.unavailable] }
    | _ => s
  | .stop => { s with calls := ∅, keyWasReplaced := false }

/-- What the environment promises of a step: a new wrapping key opens nothing sealed before it. -/
def promised (s : KeyProvider) (env : Env) : Stage → Prop
  | .generate _ => ∀ blob, s.file = some blob → unwrapFile gcm env.made blob = none
  | .newKey _ => env.random.length = kKeyBytes + kNonceBytes
  | .finished _ => False
  | _ => True

def permitted (s : KeyProvider) : KeyOp → Prop
  | .step call env => ∃ stage, s.calls[call]? = some stage ∧ promised gcm s env stage
  | .reply call => ∃ key, s.calls[call]? = some (.finished key)
  | _ => True

def step : KeyProvider → KeyOp → KeyProvider → Prop := guarded (permitted gcm) (next gcm)

end Steps

end Huks

end ChromiumHmos.Passwords
