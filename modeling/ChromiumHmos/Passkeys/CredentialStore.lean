import ChromiumHmos.Base.Value

set_option autoImplicit false

/-!
# The passkey file

What `device/fido/ohos/credential_store.cc` reads and writes: the passkeys of one profile in one
JSON file.
-/

namespace ChromiumHmos.Passkeys

open Base

structure PublicKeyCredentialUserEntity where
  id : Bytes
  name : Option String
  displayName : Option String
deriving DecidableEq

structure StoredCredential where
  credentialId : Bytes
  rpId : String
  user : PublicKeyCredentialUserEntity
  created : Time
deriving DecidableEq

structure PublicKeyCredentialDescriptor where
  id : Bytes

-- The `//base` codecs the file goes through.
structure Codecs where
  base64Encode : Bytes -> String
  base64Decode : String -> Option Bytes
  writeJson : DictValue -> Option Bytes
  readJson : Bytes -> Option DictValue
  inSecondsFSinceUnixEpoch : Time -> Double
  fromSecondsSinceUnixEpoch : Double -> Time

def kUnixEpoch : Time := 11644473600000000

-- What is read of a creation time that was written.
def Codecs.reread (codecs : Codecs) (created : Time) : Time :=
  codecs.fromSecondsSinceUnixEpoch (codecs.inSecondsFSinceUnixEpoch created)

/-- Base64 and JSON give back what was written. Times keep their order, except that the Unix epoch
itself is written as 0, which stands for no time at all. -/
structure Codecs.Faithful (codecs : Codecs) : Prop where
  base64 : forall bytes, codecs.base64Decode (codecs.base64Encode bytes) = some bytes
  json : forall dict text, codecs.writeJson dict = some text -> codecs.readJson text = some dict
  noTime : codecs.reread 0 = 0
  epoch : codecs.reread kUnixEpoch = 0
  ordered : forall earlier later : Time, earlier <= later -> earlier ≠ kUnixEpoch ->
    later ≠ kUnixEpoch -> codecs.reread earlier <= codecs.reread later

-- `std::ranges::sort` by descending creation time; equal times come in any order.
structure NewestFirst where
  sort : List StoredCredential -> List StoredCredential
  perm : forall credentials, (sort credentials).Perm credentials
  sorted : forall credentials,
    (sort credentials).Pairwise fun first second => second.created <= first.created

def kMaxFileSize : Nat := 4 * 1024 * 1024
def kFormatVersion : Int := 1
def kVersionKey : String := "version"
def kCredentialsKey : String := "credentials"
def kCredentialIdKey : String := "credential_id"
def kRpIdKey : String := "rp_id"
def kUserIdKey : String := "user_id"
def kUserNameKey : String := "user_name"
def kUserDisplayNameKey : String := "user_display_name"
def kCreatedKey : String := "created"

def setIfGiven (dict : DictValue) (key : String) : Option String -> DictValue
  | none => dict
  | some text => dict.set key (.string text)

def toDict (codecs : Codecs) (credential : StoredCredential) : DictValue :=
  let dict := DictValue.set [] kCredentialIdKey
    (.string (codecs.base64Encode credential.credentialId))
  let dict := dict.set kRpIdKey (.string credential.rpId)
  let dict := dict.set kUserIdKey (.string (codecs.base64Encode credential.user.id))
  let dict := setIfGiven dict kUserNameKey credential.user.name
  let dict := setIfGiven dict kUserDisplayNameKey credential.user.displayName
  dict.set kCreatedKey (.double (codecs.inSecondsFSinceUnixEpoch credential.created))

def fromDict (codecs : Codecs) (dict : DictValue) : Option StoredCredential := do
  let credentialId <- dict.findString kCredentialIdKey
  let rpId <- dict.findString kRpIdKey
  let userId <- dict.findString kUserIdKey
  let decodedId <- codecs.base64Decode credentialId
  let decodedUserId <- codecs.base64Decode userId
  if decodedId = [] then none
  else some {
    credentialId := decodedId
    rpId := rpId
    user := {
      id := decodedUserId
      name := dict.findString kUserNameKey
      displayName := dict.findString kUserDisplayNameKey }
    created :=
      codecs.fromSecondsSinceUnixEpoch ((dict.findDouble kCreatedKey).getD (.finite 0)) }

-- `Value::GetIfDict`, then `FromDict`: a malformed item reads as no credential.
def readItem (codecs : Codecs) : Value -> Option StoredCredential
  | .dict entries => fromDict codecs entries
  | _ => none

def parseCredentials (codecs : Codecs) (contents : Bytes) : Option (List StoredCredential) := do
  let root <- codecs.readJson contents
  if (root.findInt kVersionKey).getD 0 ≠ kFormatVersion then none
  else
    let list <- root.findList kCredentialsKey
    some (list.filterMap (readItem codecs))

-- The file is `none` while it does not exist.
def readAll (codecs : Codecs) : Option Bytes -> Option (List StoredCredential)
  | none => some []
  | some contents =>
    if kMaxFileSize < contents.length then none
    else parseCredentials codecs contents

def wanted (rpId : String) (allowList : List PublicKeyCredentialDescriptor)
    (credential : StoredCredential) : Bool :=
  decide (credential.rpId = rpId) &&
    (allowList.isEmpty || allowList.any fun descriptor => descriptor.id = credential.credentialId)

def find (codecs : Codecs) (newestFirst : NewestFirst) (file : Option Bytes) (rpId : String)
    (allowList : List PublicKeyCredentialDescriptor) : Option (List StoredCredential) :=
  (readAll codecs file).map fun all => newestFirst.sort (all.filter (wanted rpId allowList))

def rootOf (codecs : Codecs) (credentials : List StoredCredential) : DictValue :=
  let list := credentials.map fun credential => Value.dict (toDict codecs credential)
  DictValue.set (DictValue.set [] kVersionKey (.int kFormatVersion)) kCredentialsKey (.list list)

-- The text a list of credentials is stored as.
def storedText (codecs : Codecs) (credentials : List StoredCredential) : Option Bytes :=
  codecs.writeJson (rootOf codecs credentials)

/-- What a call leaves: its answer, the file, and the credentials whose signing keys it had
deleted. -/
structure Outcome where
  accepted : Bool
  file : Option Bytes
  deletedKeys : List Bytes

-- `written` is whether `WriteFileAtomically` succeeds; if not, the old file stays.
def writeAll (codecs : Codecs) (written : Bool) (file : Option Bytes)
    (credentials : List StoredCredential) : Bool × Option Bytes :=
  match storedText codecs credentials with
  | none => (false, file)
  | some json => if written then (true, some json) else (false, file)

def sameAccount (credential existing : StoredCredential) : Bool :=
  decide (existing.rpId = credential.rpId) && decide (existing.user.id = credential.user.id)

def keptBeside (credential : StoredCredential) (all : List StoredCredential) :
    List StoredCredential :=
  all.filter fun existing => !sameAccount credential existing

def retiredBy (credential : StoredCredential) (all : List StoredCredential) : List Bytes :=
  (all.filter fun existing => sameAccount credential existing &&
    decide (existing.credentialId ≠ credential.credentialId)).map StoredCredential.credentialId

def add (codecs : Codecs) (written : Bool) (file : Option Bytes) (credential : StoredCredential) :
    Outcome :=
  match readAll codecs file with
  | none => { accepted := false, file := file, deletedKeys := [] }
  | some all =>
    match writeAll codecs written file (keptBeside credential all ++ [credential]) with
    | (false, after) => { accepted := false, file := after, deletedKeys := [] }
    | (true, after) =>
      { accepted := true, file := after, deletedKeys := retiredBy credential all }

def without (credentialId : Bytes) (all : List StoredCredential) : List StoredCredential :=
  all.filter fun credential => decide (credential.credentialId ≠ credentialId)

def remove (codecs : Codecs) (written : Bool) (file : Option Bytes) (credentialId : Bytes) :
    Outcome :=
  match readAll codecs file with
  | none => { accepted := false, file := file, deletedKeys := [] }
  | some all =>
    -- The key of a credential this profile does not own is left alone.
    if (all.countP fun credential => credential.credentialId = credentialId) = 0 then
      { accepted := true, file := file, deletedKeys := [] }
    else
      match writeAll codecs written file (without credentialId all) with
      | (false, after) => { accepted := false, file := after, deletedKeys := [] }
      | (true, after) =>
        { accepted := true, file := after, deletedKeys := [credentialId] }

end ChromiumHmos.Passkeys
