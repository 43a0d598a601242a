import ChromiumHmos.Lib.OrderedMap
import ChromiumHmos.Passwords.HuksKeyProvider

set_option autoImplicit false

/-!
# The password encryption key over all runs

A file that opens is not written again, and the key that wraps it is not made again. Until then one
call at most makes a key, so that the first key that is handed out is the one that stays.
-/

namespace ChromiumHmos.Passwords

open Std Transition OrderedMap Base

namespace Huks

variable (gcm : AesGcm)

def opened (wrapping : Option Nat) (file : Option Bytes) : Option Bytes :=
  wrapping.bind fun wrapping => file.bind (unwrapFile gcm wrapping)

-- The call makes a key.
def Stage.making : Stage → Bool
  | .newKey _ | .openFile _ _ | .writeFile _ _ => true
  | .checkKey (some (.wrap _ _)) | .generate (some (.wrap _ _)) => true
  | .buildParams (.wrap _ _) | .initSession (.wrap _ _) | .finishSession (.wrap _ _) _ => true
  | _ => false

def missesKey (s : KeyProvider) (env : Env) : Stage → Bool
  | .readFile hadFile => ((if env.ok then s.file else none).bind (unwrapPass hadFile)).isNone
  | .generate (some (.unwrap _ _ _ _)) | .buildParams (.unwrap _ _ _ _) => !env.ok
  | .initSession (.unwrap _ _ _ _) => !(env.ok && s.wrapping.isSome)
  | .finishSession (.unwrap _ nonce aeTag input) session =>
    !env.ok || (gcm.decrypt session nonce aeTag input).isNone
  | _ => false

/-- The condition on a step: the wrapping key is made only where there is none, and a call finds no key
only where the file does not open and no other call makes one. -/
def Sure (s : KeyProvider) : KeyOp → Prop
  | .step call env => ∀ stage, s.calls[call]? = some stage →
      (∀ pass, stage = .generate pass → env.ok = true → s.wrapping = none) ∧
      (missesKey gcm s env stage = true → opened gcm s.wrapping s.file = none ∧
        ∀ (other : Nat) (busy : Stage), s.calls[other]? = some busy → busy.making = false)
  | _ => True

variable {gcm}

variable {hadFile : Bool} {blob nonce : Bytes}

theorem unwrapFile_of_pass {aeTag input : Bytes}
    (is : unwrapPass hadFile blob = some (.unwrap hadFile nonce aeTag input)) (wrapping : Nat) :
    unwrapFile gcm wrapping blob = gcm.decrypt wrapping nonce aeTag input := by
  unfold unwrapPass at is
  split at is
  · cases is
  · next long =>
    cases is
    unfold unwrapFile unwrapPass
    rw [if_neg long]

theorem unwrapPass_is {pass : Pass} (is : unwrapPass hadFile blob = some pass) :
    ∃ nonce aeTag input, pass = .unwrap hadFile nonce aeTag input := by
  unfold unwrapPass at is
  split at is
  · cases is
  · exact ⟨_, _, _, (Option.some.inj is).symm⟩

theorem sealed_length (wrapping : Nat) (nonce key : Bytes) :
    (sealed gcm wrapping nonce key).length = key.length + kAeTagBytes := by
  rw [sealed, List.length_append, gcm.cipher_length, gcm.tag_length]
  rfl

theorem unwrapFile_fileOf (wrapping : Nat) {key : Bytes} (fixed : nonce.length = kNonceBytes) (filled : key ≠ []) :
    unwrapFile gcm wrapping (fileOf nonce (sealed gcm wrapping nonce key)) = some key := by
  have split : fileOf nonce (sealed gcm wrapping nonce key) =
      nonce ++ gcm.tag wrapping nonce key ++ gcm.cipher wrapping nonce key := by
    have length : (sealed gcm wrapping nonce key).length - kAeTagBytes = (gcm.cipher wrapping nonce key).length := by
      rw [sealed_length, Nat.add_sub_cancel, gcm.cipher_length]
    rw [fileOf, length, sealed, List.drop_left, List.take_left]
  have tagged : (nonce ++ gcm.tag wrapping nonce key).length = kNonceBytes + kAeTagBytes := by
    rw [List.length_append, fixed, gcm.tag_length]
    rfl
  have long : ¬ (nonce ++ gcm.tag wrapping nonce key ++ gcm.cipher wrapping nonce key).length <=
      kNonceBytes + kAeTagBytes := by
    have more := List.length_pos_iff.mpr filled
    rw [List.length_append, tagged, gcm.cipher_length]
    omega
  rw [split]
  unfold unwrapFile unwrapPass
  rw [if_neg long]
  have parts : (nonce ++ gcm.tag wrapping nonce key ++ gcm.cipher wrapping nonce key).take kNonceBytes = nonce /\
      ((nonce ++ gcm.tag wrapping nonce key ++ gcm.cipher wrapping nonce key).drop kNonceBytes).take kAeTagBytes =
        gcm.tag wrapping nonce key /\
      (nonce ++ gcm.tag wrapping nonce key ++ gcm.cipher wrapping nonce key).drop (kNonceBytes + kAeTagBytes) =
        gcm.cipher wrapping nonce key := by
    refine ⟨?_, ?_, ?_⟩
    · rw [List.append_assoc, <- fixed, List.take_left]
    · have tagLength : (gcm.tag wrapping nonce key).length = kAeTagBytes := gcm.tag_length wrapping nonce key
      rw [List.append_assoc, <- fixed, List.drop_left, <- tagLength, List.take_left]
    · rw [<- tagged, List.drop_left]
  dsimp only
  rw [parts.1, parts.2.1, parts.2.2]
  exact gcm.decrypt_sealed wrapping nonce key

variable (gcm) in
def PassInv (wrapping : Option Nat) (file : Option Bytes) : Pass → Prop
  | .unwrap _ nonce aeTag input => ∀ session key, wrapping = some session →
      gcm.decrypt session nonce aeTag input = some key → opened gcm wrapping file = some key
  | .wrap key nonce => opened gcm wrapping file = none ∧ key.length = kKeyBytes ∧ nonce.length = kNonceBytes

variable (gcm) in
def StageInv (wrapping : Option Nat) (file : Option Bytes) : Stage → Prop
  | .checkKey none | .generate none | .finished none => True
  | .checkKey (some pass) | .generate (some pass) | .buildParams pass | .initSession pass =>
    wrapping.isSome ∧ PassInv gcm wrapping file pass
  | .finishSession pass session => wrapping = some session ∧ PassInv gcm wrapping file pass
  | .pathExists | .readFile _ => wrapping.isSome
  | .newKey _ => wrapping.isSome ∧ opened gcm wrapping file = none
  | .openFile key sealedKey => opened gcm wrapping file = none ∧
      ∃ session, wrapping = some session ∧ unwrapFile gcm session sealedKey = some key
  | .writeFile key sealedKey => opened gcm wrapping file = none ∧ file = some [] ∧
      ∃ session, wrapping = some session ∧ unwrapFile gcm session sealedKey = some key
  | .finished (some key) => opened gcm wrapping file = some key

variable (gcm) in
structure KeyInv (s : KeyProvider) : Prop where
  ids : ∀ (call : Nat) (stage : Stage), s.calls[call]? = some stage → call < s.nextCall
  stages : ∀ (call : Nat) (stage : Stage), s.calls[call]? = some stage → StageInv gcm s.wrapping s.file stage
  alone : ∀ (call other : Nat) (stage busy : Stage), s.calls[call]? = some stage → s.calls[other]? = some busy →
    stage.making = true → busy.making = true → call = other
  delivered : ∀ key, .delivered key ∈ s.log → opened gcm s.wrapping s.file = some key

section Stages

variable {wrapping : Option Nat} {file : Option Bytes}

variable {stage : Stage}

theorem making_closed (inv : StageInv gcm wrapping file stage) (making : stage.making = true) :
    opened gcm wrapping file = none := by
  unfold Stage.making at making
  split at making
  · exact inv.2
  · exact inv.1
  · exact inv.1
  · exact inv.2.1
  · exact inv.2.1
  · exact inv.2.1
  · exact inv.2.1
  · exact inv.2.1
  · cases making

theorem PassInv.written {pass : Pass} (inv : PassInv gcm wrapping file pass) (idle : (Stage.buildParams pass).making = false)
    (closed : opened gcm wrapping file = none) (file' : Option Bytes) : PassInv gcm wrapping file' pass := by
  cases pass with
  | unwrap hadFile nonce aeTag input =>
    intro session key is opens
    exact absurd (closed.symm.trans (inv session key is opens)) nofun
  | wrap key nonce => cases idle

theorem StageInv.written (inv : StageInv gcm wrapping file stage) (idle : stage.making = false)
    (closed : opened gcm wrapping file = none) (file' : Option Bytes) : StageInv gcm wrapping file' stage := by
  cases stage with
  | checkKey pass =>
    cases pass with
    | none => trivial
    | some pass => exact ⟨inv.1, inv.2.written (by cases pass <;> trivial) closed file'⟩
  | generate pass =>
    cases pass with
    | none => trivial
    | some pass => exact ⟨inv.1, inv.2.written (by cases pass <;> trivial) closed file'⟩
  | pathExists => exact inv
  | readFile hadFile => exact inv
  | buildParams pass => exact ⟨inv.1, inv.2.written idle closed file'⟩
  | initSession pass => exact ⟨inv.1, inv.2.written (by cases pass <;> trivial) closed file'⟩
  | finishSession pass session => exact ⟨inv.1, inv.2.written (by cases pass <;> trivial) closed file'⟩
  | finished key =>
    cases key with
    | none => trivial
    | some key => exact absurd (closed.symm.trans inv) nofun
  | newKey hadFile => cases idle
  | openFile key sealedKey => cases idle
  | writeFile key sealedKey => cases idle

theorem StageInv.generated (inv : StageInv gcm none file stage) (wrapping' : Option Nat) :
    StageInv gcm wrapping' file stage := by
  cases stage with
  | checkKey pass =>
    cases pass with
    | none => trivial
    | some pass => cases inv.1
  | generate pass =>
    cases pass with
    | none => trivial
    | some pass => cases inv.1
  | pathExists => cases inv
  | readFile hadFile => cases inv
  | buildParams pass => cases inv.1
  | initSession pass => cases inv.1
  | finishSession pass session => cases inv.1
  | newKey hadFile => cases inv.1
  | openFile key sealedKey =>
    obtain ⟨-, session, is, -⟩ := inv
    cases is
  | writeFile key sealedKey =>
    obtain ⟨-, -, session, is, -⟩ := inv
    cases is
  | finished key =>
    cases key with
    | none => trivial
    | some key => cases inv

variable (gcm) in
inductive Kept (s t : KeyProvider) (stage : Stage) : Prop
  | same (wrapping : t.wrapping = s.wrapping) (file : t.file = s.file)
  | generated (without : s.wrapping = none) (file : t.file = s.file) (closed : opened gcm t.wrapping t.file = none)
  | written (making : stage.making = true) (wrapping : t.wrapping = s.wrapping)

variable (gcm) in
/-- What a step of a call leaves: where the call is, who makes a key, and what the calls share. -/
structure Advanced (s : KeyProvider) (env : Env) (stage : Stage) (t : KeyProvider) (stage' : Stage) : Prop where
  calls : t.calls = s.calls
  nextCall : t.nextCall = s.nextCall
  log : t.log = s.log
  kept : Kept gcm s t stage
  making : stage'.making = true → stage.making = true ∨ missesKey gcm s env stage = true
  inv : StageInv gcm t.wrapping t.file stage'

theorem afterEnsure_making (pass : Option Pass) :
    (afterEnsure pass).making = (Stage.checkKey pass).making := by
  cases pass with
  | none => rfl
  | some pass => cases pass <;> rfl

variable {pass : Option Pass}

theorem afterEnsure_inv {s : KeyProvider} (present : s.wrapping.isSome)
    (inv : StageInv gcm s.wrapping s.file (.checkKey pass)) :
    StageInv gcm s.wrapping s.file (afterEnsure pass) := by
  cases pass with
  | none => exact present
  | some pass => exact inv

variable {s : KeyProvider} {env : Env}

theorem Advanced.quiet {stage' : Stage}
    (making : stage'.making = true -> stage.making = true \/ missesKey gcm s env stage = true)
    (inv : StageInv gcm s.wrapping s.file stage') : Advanced gcm s env stage s stage' :=
  ⟨rfl, rfl, rfl, .same rfl rfl, making, inv⟩

theorem failed_advanced
    (before : StageInv gcm s.wrapping s.file (.checkKey pass))
    (misses : ∀ hadFile nonce aeTag input, pass = some (.unwrap hadFile nonce aeTag input) ->
      missesKey gcm s env stage = true)
    (sure : missesKey gcm s env stage = true -> opened gcm s.wrapping s.file = none) :
    Advanced gcm s env stage s (failed pass) := by
  cases pass with
  | none => exact .quiet nofun trivial
  | some pass =>
    cases pass with
    | unwrap hadFile nonce aeTag input =>
      have missed := misses hadFile nonce aeTag input rfl
      exact .quiet (fun _ => .inr missed) ⟨before.1, sure missed⟩
    | wrap key nonce => exact .quiet nofun trivial

theorem advance_spec (inv : StageInv gcm s.wrapping s.file stage) (keeps : promised gcm s env stage)
    (single : ∀ pass, stage = .generate pass -> env.ok = true -> s.wrapping = none)
    (sure : missesKey gcm s env stage = true -> opened gcm s.wrapping s.file = none) :
    Advanced gcm s env stage (advance gcm s env stage).1 (advance gcm s env stage).2 := by
  cases stage with
  | checkKey pass =>
    rw [advance]
    split
    · next present =>
      exact .quiet (fun making => .inl (afterEnsure_making pass ▸ making)) (afterEnsure_inv present.2 inv)
    · refine .quiet (fun making => .inl ?_) ?_
      · cases pass with
        | none => cases making
        | some pass => cases pass <;> trivial
      · cases pass <;> exact inv
  | generate pass =>
    rw [advance]
    split
    · next made =>
      have without := single pass rfl made
      have first : pass = none := by
        cases pass with
        | none => rfl
        | some pass =>
          have present : s.wrapping.isSome := inv.1
          rw [without] at present
          cases present
      subst first
      refine ⟨rfl, rfl, rfl, .generated without rfl ?_, nofun, rfl⟩
      change (s.file.bind (unwrapFile gcm env.made)) = none
      cases held : s.file with
      | none => rfl
      | some blob => exact keeps blob held
    · next refused =>
      refine failed_advanced ?_ ?_ sure
      · cases pass <;> exact inv
      · intro hadFile nonce aeTag input is
        subst is
        simp [missesKey, refused]
  | pathExists => exact .quiet nofun inv
  | readFile hadFile =>
    rw [advance]
    split
    · next pass is =>
      obtain ⟨blob, held, opens⟩ := Option.bind_eq_some_iff.mp is
      obtain ⟨nonce, aeTag, input, rfl⟩ := unwrapPass_is opens
      have file : s.file = some blob := by
        split at held
        · exact held
        · cases held
      refine .quiet nofun ⟨inv, ?_⟩
      intro session key wrapping decrypts
      rw [opened, wrapping, file]
      exact (unwrapFile_of_pass opens session).trans decrypts
    · next is =>
      have misses : missesKey gcm s env (.readFile hadFile) = true := by
        rw [missesKey, is]
        rfl
      exact .quiet (fun _ => .inr misses) ⟨inv, sure misses⟩
  | buildParams pass =>
    rw [advance]
    split
    · refine .quiet (fun making => .inl ?_) inv
      cases pass <;> exact making
    · next refused =>
      refine failed_advanced inv ?_ sure
      intro hadFile nonce aeTag input is
      cases is
      simp [missesKey, refused]
  | initSession pass =>
    rw [advance]
    split
    · next session ok wrapping =>
      refine .quiet (fun making => .inl ?_) ⟨wrapping, inv.2⟩
      cases pass <;> exact making
    · next refused =>
      refine failed_advanced inv ?_ sure
      intro hadFile nonce aeTag input is
      cases is
      obtain ⟨session, wrapping⟩ := Option.isSome_iff_exists.mp inv.1
      have unavailable : env.ok ≠ true := fun ok => refused session ok wrapping
      simp [missesKey, unavailable]
  | finishSession pass session =>
    cases pass with
    | unwrap hadFile nonce aeTag input =>
      rw [advance]
      split
      · next key is =>
        split at is
        · exact .quiet nofun (inv.2 session key inv.1 is)
        · cases is
      · next is =>
        have misses : missesKey gcm s env (.finishSession (.unwrap hadFile nonce aeTag input) session) = true := by
          split at is
          · simp [missesKey, is]
          next refused => simp [missesKey, refused]
        exact .quiet (fun _ => .inr misses) ⟨by rw [inv.1]; rfl, sure misses⟩
    | wrap key nonce =>
      rw [advance]
      split
      · refine .quiet (fun _ => .inl rfl) ⟨inv.2.1, session, inv.1, ?_⟩
        have filled : key ≠ [] := by
          rintro rfl
          exact absurd inv.2.2.1 (by decide)
        exact unwrapFile_fileOf session inv.2.2.2 filled
      · exact .quiet nofun trivial
  | newKey hadFile =>
    have drawn : env.random.length = kKeyBytes + kNonceBytes := keeps
    refine ⟨rfl, rfl, rfl, .same rfl rfl, fun _ => .inl rfl, inv.1, inv.2, ?_, ?_⟩
    · rw [List.length_take, drawn]
      rfl
    · rw [List.length_drop, drawn]
      rfl
  | openFile key file =>
    rw [advance]
    split
    · obtain ⟨-, session, wrapping, opens⟩ := inv
      refine ⟨rfl, rfl, rfl, .written rfl rfl, fun _ => .inl rfl, ?_, rfl, session, wrapping, opens⟩
      rw [wrapping]
      rfl
    · exact .quiet nofun trivial
  | writeFile key file =>
    obtain ⟨-, emptied, session, wrapping, opens⟩ := inv
    refine ⟨rfl, rfl, rfl, .written rfl rfl, nofun, ?_⟩
    rw [advance]
    split
    · next whole =>
      have all : file.take env.count ++ (s.file.getD []).drop env.count = file := by
        rw [List.take_of_length_le whole, emptied]
        simp
      change opened gcm s.wrapping (some _) = some key
      rw [all, wrapping]
      exact opens
    · trivial
  | finished key => cases keeps

end Stages

section Runs

variable {s t : KeyProvider} {call : Nat} {stage stage' : Stage} {env : Env}

/-- The invariant over a step of one call. The others have not got to the wrapping key while there is none,
and do not mind what is written while the file does not open. -/
theorem KeyInv.advanced (inv : KeyInv gcm s) (found : s.calls[call]? = some stage)
    (next : Advanced gcm s env stage t stage')
    (alone : missesKey gcm s env stage = true ->
      ∀ (other : Nat) (busy : Stage), s.calls[other]? = some busy -> busy.making = false) :
    KeyInv gcm { t with calls := t.calls.insert call stage' } := by
  have others (other : Nat) (busy : Stage) (held : s.calls[other]? = some busy) (distinct : other ≠ call) :
      StageInv gcm t.wrapping t.file busy := by
    have was := inv.stages other busy held
    cases next.kept with
    | same wrapping file => rwa [wrapping, file]
    | generated without file closed =>
      rw [without] at was
      rw [file]
      exact was.generated t.wrapping
    | written making wrapping =>
      have idle : busy.making = false := by
        by_contra busyMaking
        exact distinct (inv.alone other call busy stage held found (by simpa using busyMaking) making)
      rw [wrapping]
      exact was.written idle (making_closed (inv.stages call stage found) making) t.file
  have makes (making : stage'.making = true) (other : Nat) (busy : Stage) (held : s.calls[other]? = some busy)
      (distinct : other ≠ call) : busy.making = false := by
    rcases next.making making with before | missed
    · by_contra busyMaking
      exact distinct (inv.alone other call busy stage held found (by simpa using busyMaking) before)
    · exact alone missed other busy held
  constructor
  · intro other busy held
    change other < t.nextCall
    rw [next.nextCall]
    rcases (getElem?_insert_some ..).mp held with ⟨rfl, -⟩ | ⟨-, was⟩
    · exact inv.ids _ stage found
    · rw [next.calls] at was
      exact inv.ids other busy was
  · intro other busy held
    rcases (getElem?_insert_some ..).mp held with ⟨rfl, rfl⟩ | ⟨distinct, was⟩
    · exact next.inv
    · rw [next.calls] at was
      exact others other busy was distinct
  · intro one other first second held held' making making'
    rcases (getElem?_insert_some ..).mp held with ⟨rfl, rfl⟩ | ⟨distinct, was⟩ <;>
      rcases (getElem?_insert_some ..).mp held' with ⟨rfl, rfl⟩ | ⟨distinct', was'⟩
    · rfl
    · rw [next.calls] at was'
      exact absurd (makes making other second was' distinct') (by simp [making'])
    · rw [next.calls] at was
      exact absurd (makes making' one first was distinct) (by simp [making])
    · rw [next.calls] at was was'
      exact inv.alone one other first second was was' making making'
  · intro key mem
    change .delivered key ∈ t.log at mem
    rw [next.log] at mem
    have was := inv.delivered key mem
    change opened gcm t.wrapping t.file = some key
    cases next.kept with
    | same wrapping file => rwa [wrapping, file]
    | generated without =>
      rw [without] at was
      cases was
    | written making =>
      have closed := making_closed (inv.stages call stage found) making
      exact absurd (closed.symm.trans was) nofun

theorem initial_inv (wrapping : Option Nat) (file : Option Bytes) :
    KeyInv gcm { wrapping := wrapping, file := file } :=
  ⟨by simp, by simp, by simp, by simp⟩

theorem KeyInv.dropped (inv : KeyInv gcm s) (call : Nat) {log : List KeyEvent}
    (delivered : ∀ key, .delivered key ∈ log -> opened gcm s.wrapping s.file = some key) :
    KeyInv gcm { s with calls := s.calls.erase call, log } where
  ids other busy held := inv.ids other busy ((getElem?_erase_some ..).mp held).2
  stages other busy held := inv.stages other busy ((getElem?_erase_some ..).mp held).2
  alone one other first second held held' :=
    inv.alone one other first second ((getElem?_erase_some ..).mp held).2 ((getElem?_erase_some ..).mp held').2
  delivered := delivered

variable {op : KeyOp}

theorem next_inv (inv : KeyInv gcm s) (permitted : permitted gcm s op) (sure : Sure gcm s op) :
    KeyInv gcm (next gcm s op) := by
  cases op with
  | getKey =>
    refine ⟨?_, ?_, ?_, inv.delivered⟩
    · intro call stage held
      rcases (getElem?_insert_some ..).mp held with ⟨rfl, -⟩ | ⟨-, was⟩
      · exact Nat.lt_succ_self _
      · exact Nat.lt_succ_of_lt (inv.ids call stage was)
    · intro call stage held
      rcases (getElem?_insert_some ..).mp held with ⟨-, rfl⟩ | ⟨-, was⟩
      · trivial
      · exact inv.stages call stage was
    · intro one other first second held held' making making'
      rcases (getElem?_insert_some ..).mp held with ⟨-, rfl⟩ | ⟨-, was⟩
      · cases making
      · rcases (getElem?_insert_some ..).mp held' with ⟨-, rfl⟩ | ⟨-, was'⟩
        · cases making'
        · exact inv.alone one other first second was was' making making'
  | step call env =>
    obtain ⟨stage, found, keeps⟩ := permitted
    obtain ⟨single, misses⟩ := sure stage found
    rw [next, found]
    exact inv.advanced found
      (advance_spec (inv.stages call stage found) keeps single fun missed => (misses missed).1)
      fun missed => (misses missed).2
  | reply call =>
    obtain ⟨key, found⟩ := permitted
    cases key with
    | none =>
      rw [next, found]
      refine inv.dropped call fun key mem => inv.delivered key ?_
      simpa using mem
    | some key =>
      rw [next, found]
      refine inv.dropped call fun other mem => ?_
      rcases List.mem_append.mp mem with before | last
      · exact inv.delivered other before
      · cases List.mem_singleton.mp last
        exact inv.stages call _ found
  | stop => exact ⟨by simp [next], by simp [next], by simp [next], inv.delivered⟩

theorem next_untouched {key : Bytes} (inv : KeyInv gcm s) (permitted : permitted gcm s op)
    (sure : Sure gcm s op) (opens : opened gcm s.wrapping s.file = some key) :
    (next gcm s op).wrapping = s.wrapping /\ (next gcm s op).file = s.file := by
  cases op with
  | getKey => exact ⟨rfl, rfl⟩
  | step call env =>
    obtain ⟨stage, found, keeps⟩ := permitted
    obtain ⟨single, misses⟩ := sure stage found
    have spec := advance_spec (inv.stages call stage found) keeps single fun missed => (misses missed).1
    rw [next, found]
    cases spec.kept with
    | same wrapping file => exact ⟨wrapping, file⟩
    | generated without =>
      rw [without] at opens
      cases opens
    | written making =>
      have closed := making_closed (inv.stages call stage found) making
      exact absurd (closed.symm.trans opens) nofun
  | reply call =>
    obtain ⟨key, found⟩ := permitted
    rw [next, found]
    cases key <;> exact ⟨rfl, rfl⟩
  | stop => exact ⟨rfl, rfl⟩

variable (gcm) in
/-- The key that was handed out is still the one that is kept, and from then on neither the wrapping key nor
the file is touched. What is written opens to what it was made of. -/
structure KeyKept (trace : List (KeyProvider × KeyOp)) (s : KeyProvider) : Prop where
  kept : ∀ key, .delivered key ∈ s.log → opened gcm s.wrapping s.file = some key
  same : ∀ key other, .delivered key ∈ s.log → .delivered other ∈ s.log → key = other
  untouched : ∀ entry ∈ trace, ∀ key, .delivered key ∈ entry.1.log →
    s.wrapping = entry.1.wrapping ∧ s.file = entry.1.file
  roundTrip : ∀ wrapping nonce key, nonce.length = kNonceBytes → key.length = kKeyBytes →
    unwrapFile gcm wrapping (fileOf nonce (sealed gcm wrapping nonce key)) = some key

variable (gcm) in
def carefulStep : KeyProvider → KeyOp → KeyProvider → Prop :=
  guarded (fun s op => permitted gcm s op ∧ Sure gcm s op) (next gcm)

/-- Over any number of starts and calls, where the wrapping key is made only while there is none, and a call
finds no key only while there is none to find and no other call makes one, the key that was handed out
first is the one that stays. -/
theorem key_never_lost (wrapping : Option Nat) (file : Option Bytes) (trace : List (KeyProvider × KeyOp))
    (s : KeyProvider) (run : Trace (carefulStep gcm) { wrapping := wrapping, file := file } trace s) :
    KeyKept gcm trace s := by
  have history : KeyInv gcm s ∧ ∀ entry ∈ trace, ∀ key, .delivered key ∈ entry.1.log →
      opened gcm s.wrapping s.file = some key ∧ s.wrapping = entry.1.wrapping ∧ s.file = entry.1.file := by
    refine run.history (P := fun trace s => KeyInv gcm s ∧ ∀ entry ∈ trace, ∀ key,
      .delivered key ∈ entry.1.log → opened gcm s.wrapping s.file = some key ∧
        s.wrapping = entry.1.wrapping ∧ s.file = entry.1.file) ?_ ⟨initial_inv wrapping file, by simp⟩
    rintro trace t op u ⟨inv, before⟩ ⟨⟨permitted, sure⟩, rfl⟩
    refine ⟨next_inv inv permitted sure, ?_⟩
    intro entry mem key delivered
    have was : opened gcm t.wrapping t.file = some key ∧ t.wrapping = entry.1.wrapping ∧ t.file = entry.1.file := by
      rcases List.mem_append.mp mem with earlier | last
      · exact before entry earlier key delivered
      · cases List.mem_singleton.mp last
        exact ⟨inv.delivered key delivered, rfl, rfl⟩
    obtain ⟨wrapping, file⟩ := next_untouched inv permitted sure was.1
    rw [wrapping, file]
    exact was
  obtain ⟨inv, before⟩ := history
  exact
    { kept := inv.delivered
      same := fun key other mem mem' =>
        Option.some.inj ((inv.delivered key mem).symm.trans (inv.delivered other mem'))
      untouched := fun entry mem key delivered => (before entry mem key delivered).2
      roundTrip := by
        intro wrapping nonce key fixed sized
        refine unwrapFile_fileOf wrapping fixed ?_
        rintro rfl
        cases sized }

end Runs

-- It hides nothing, and tells by the tag which wrapping key was used.
def clearGcm : AesGcm where
  cipher _ _ input := input
  tag wrapping _ _ := List.replicate 16 (UInt8.ofNat wrapping)
  decrypt wrapping _ tag input := if tag = List.replicate 16 (UInt8.ofNat wrapping) then some input else none
  cipher_length _ _ _ := rfl
  tag_length _ _ _ := List.length_replicate
  decrypt_sealed _ _ _ := if_pos rfl

-- A first call that makes the key.
def firstCall : List KeyOp :=
  [.getKey, .step 0 {}, .step 0 { made := 7 }, .step 0 {}, .step 0 {},
    .step 0 { random := List.replicate 44 1 }, .step 0 {}, .step 0 {}, .step 0 {}, .step 0 {}, .step 0 {},
    .step 0 { count := 60 }, .reply 0]

def firstKey : Bytes := List.replicate 32 1

def firstNonce : Bytes := List.replicate 12 1

def firstFile : Bytes := firstNonce ++ List.replicate 16 7 ++ firstKey

def firstPass : Pass := .unwrap true firstNonce (List.replicate 16 7) firstKey

theorem ordinary {s : KeyProvider} {call : Nat} {env : Env} (stage : Stage) (found : s.calls[call]? = some stage)
    (keeps : promised clearGcm s env stage) (single : ∀ pass, stage = .generate pass -> s.wrapping = none)
    (finds : missesKey clearGcm s env stage = false) :
    permitted clearGcm s (.step call env) /\ Sure clearGcm s (.step call env) := by
  refine ⟨⟨stage, found, keeps⟩, fun stage' found' => ?_⟩
  obtain rfl := Option.some.inj (found.symm.trans found')
  exact ⟨fun pass is _ => single pass is, fun misses => absurd (finds.symm.trans misses) nofun⟩

-- The key is made, the process starts again, and the next call opens the same key.
theorem key_never_lost_restart :
    ∃ s : KeyProvider, s.log = [.delivered firstKey, .delivered firstKey] ∧ ∃ trace, KeyKept clearGcm trace s := by
  have follows : Follows (fun s op => permitted clearGcm s op ∧ Sure clearGcm s op) (next clearGcm)
      { wrapping := none, file := none }
      (firstCall ++ [.stop, .getKey, .step 1 {}, .step 1 {}, .step 1 {}, .step 1 {}, .step 1 {}, .step 1 {}, .step 1 {},
        .reply 1]) := by
    refine ⟨⟨trivial, trivial⟩, ordinary (.checkKey none) (by decide) trivial nofun rfl,
      ordinary (.generate none) (by decide) nofun (fun _ _ => by decide) rfl,
      ordinary .pathExists (by decide) trivial nofun rfl, ?_,
      ordinary (.newKey false) (by decide) List.length_replicate nofun rfl,
      ordinary (.buildParams (.wrap firstKey firstNonce)) (by decide) trivial nofun rfl,
      ordinary (.checkKey (some (.wrap firstKey firstNonce))) (by decide) trivial nofun rfl,
      ordinary (.initSession (.wrap firstKey firstNonce)) (by decide) trivial nofun rfl,
      ordinary (.finishSession (.wrap firstKey firstNonce) 7) (by decide) trivial nofun rfl,
      ordinary (.openFile firstKey firstFile) (by decide) trivial nofun rfl,
      ordinary (.writeFile firstKey firstFile) (by decide) trivial nofun rfl,
      ⟨⟨some firstKey, by decide⟩, trivial⟩, ⟨trivial, trivial⟩, ⟨trivial, trivial⟩,
      ordinary (.checkKey none) (by decide) trivial nofun rfl,
      ordinary .pathExists (by decide) trivial nofun rfl,
      ordinary (.readFile true) (by decide) trivial nofun (by decide),
      ordinary (.buildParams firstPass) (by decide) trivial nofun rfl,
      ordinary (.checkKey (some firstPass)) (by decide) trivial nofun rfl,
      ordinary (.initSession firstPass) (by decide) trivial nofun (by decide),
      ordinary (.finishSession firstPass 7) (by decide) trivial nofun (by decide),
      ⟨⟨some firstKey, by decide⟩, trivial⟩, trivial⟩
    refine ⟨⟨.readFile false, by decide, trivial⟩, ?_⟩
    intro stage found
    obtain rfl : Stage.readFile false = stage := Option.some.inj found
    refine ⟨nofun, fun _ => ⟨by decide, ?_⟩⟩
    intro other busy held
    rcases (getElem?_insert_some ..).mp held with ⟨-, rfl⟩ | ⟨distinct, was⟩
    · rfl
    · simp [next, advance, getElem?_insert_of_ne, distinct] at was
  obtain ⟨trace, run, -⟩ := follows.trace
  exact ⟨_, by decide, trace, key_never_lost none none trace _ run⟩

-- The keystore does not answer once, while the key is opened: another key takes its place.
theorem key_replaced :
    ¬ ∀ (wrapping : Option Nat) (file : Option Bytes) (trace : List (KeyProvider × KeyOp)) (s : KeyProvider),
      Trace (step clearGcm) { wrapping := wrapping, file := file } trace s → KeyKept clearGcm trace s := by
  intro every
  have follows : Follows (permitted clearGcm) (next clearGcm) { wrapping := some 7, file := some firstFile }
      [.getKey, .step 0 {}, .step 0 {}, .step 0 {}, .step 0 {}, .step 0 {}, .step 0 {}, .step 0 {}, .reply 0,
        .getKey, .step 1 {}, .step 1 {}, .step 1 {}, .step 1 {}, .step 1 {}, .step 1 {}, .step 1 { ok := false },
        .step 1 { random := List.replicate 44 2 }, .step 1 {}, .step 1 {}, .step 1 {}, .step 1 {}, .step 1 {},
        .step 1 { count := 60 }, .reply 1] :=
    ⟨trivial, ⟨.checkKey none, by decide, trivial⟩, ⟨.pathExists, by decide, trivial⟩,
      ⟨.readFile true, by decide, trivial⟩, ⟨.buildParams firstPass, by decide, trivial⟩,
      ⟨.checkKey (some firstPass), by decide, trivial⟩, ⟨.initSession firstPass, by decide, trivial⟩,
      ⟨.finishSession firstPass 7, by decide, trivial⟩, ⟨some firstKey, by decide⟩,
      trivial, ⟨.checkKey none, by decide, trivial⟩, ⟨.pathExists, by decide, trivial⟩,
      ⟨.readFile true, by decide, trivial⟩, ⟨.buildParams firstPass, by decide, trivial⟩,
      ⟨.checkKey (some firstPass), by decide, trivial⟩, ⟨.initSession firstPass, by decide, trivial⟩,
      ⟨.finishSession firstPass 7, by decide, trivial⟩, ⟨.newKey true, by decide, List.length_replicate⟩,
      ⟨.buildParams (.wrap (List.replicate 32 2) (List.replicate 12 2)), by decide, trivial⟩,
      ⟨.checkKey (some (.wrap (List.replicate 32 2) (List.replicate 12 2))), by decide, trivial⟩,
      ⟨.initSession (.wrap (List.replicate 32 2) (List.replicate 12 2)), by decide, trivial⟩,
      ⟨.finishSession (.wrap (List.replicate 32 2) (List.replicate 12 2)) 7, by decide, trivial⟩,
      ⟨.openFile (List.replicate 32 2) (List.replicate 12 2 ++ List.replicate 16 7 ++ List.replicate 32 2),
        by decide, trivial⟩,
      ⟨.writeFile (List.replicate 32 2) (List.replicate 12 2 ++ List.replicate 16 7 ++ List.replicate 32 2),
        by decide, trivial⟩,
      ⟨some (List.replicate 32 2), by decide⟩, trivial⟩
  obtain ⟨trace, run, -⟩ := follows.trace
  have same := (every _ _ trace _ run).same firstKey (List.replicate 32 2) (by decide) (by decide)
  exact absurd same (by decide)

end Huks

end ChromiumHmos.Passwords
