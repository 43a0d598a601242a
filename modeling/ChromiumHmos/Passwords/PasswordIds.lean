import ChromiumHmos.Lib.Decimal
import ChromiumHmos.Passwords.DeferredCommands

set_option autoImplicit false

/-!
# The ids the shell knows passwords by

An id is given to a realm and a username when they are first listed or looked for. It stays theirs, whatever
becomes of the stores.
-/

namespace ChromiumHmos.Passwords.ShellPasswords

open Base Transition Lib

/-- Every id is the digits of an earlier number, and no two are the same. -/
structure Numbered (ids : List (String × String)) (nextId : Nat) : Prop where
  given : ∀ pair ∈ ids, ∃ n < nextId, pair.2 = toString n
  distinct : (ids.map Prod.snd).Nodup

variable {P : Type}

structure Grown (s t : ShellPasswords P) : Prop where
  kept : ∀ key id, s.ids.lookup key = some id → t.ids.lookup key = some id
  numbered : Numbered s.ids s.nextId → Numbered t.ids t.nextId

variable {s t u : ShellPasswords P}

theorem Grown.same (ids : t.ids = s.ids) (nextId : t.nextId = s.nextId) : Grown s t :=
  ⟨fun _ _ found => ids ▸ found, fun numbered => by rwa [ids, nextId]⟩

theorem Grown.trans (first : Grown s t) (second : Grown t u) : Grown s u :=
  ⟨fun key id found => second.kept key id (first.kept key id found),
    fun numbered => second.numbered (first.numbered numbered)⟩

theorem toString_injective {n m : Nat} (same : toString n = toString m) : n = m := by
  have digits := congrArg (fun text : String => digitsValue text.toUTF8.toList) same
  simpa only [toUTF8_toString, digitsValue_decimal] using digits

theorem Numbered.unique {ids : List (String × String)} {nextId : Nat} (numbered : Numbered ids nextId)
    {key other id : String} (first : ids.lookup key = some id) (second : ids.lookup other = some id) : key = other := by
  have held {name : String} (found : ids.lookup name = some id) : (name, id) ∈ ids := by
    obtain ⟨before, after, rfl, -⟩ := List.lookup_eq_some_iff.mp found
    simp
  exact congrArg Prod.fst (List.inj_on_of_nodup_map numbered.distinct (held first) (held second) rfl)

variable (platform : PresenterPlatform P)

theorem idFor_grown (s : ShellPasswords P) (entry : CredentialUIEntry) : Grown s (s.idFor platform entry).2 /\
    (s.idFor platform entry).2.ids.lookup (idKey platform entry) = some (s.idFor platform entry).1 := by
  unfold idFor
  split
  next id found => exact ⟨.same rfl rfl, found⟩
  next missing =>
    refine ⟨⟨fun key id found => ?_, fun numbered => ⟨?_, ?_⟩⟩, by simp⟩
    next =>
      have other : key ≠ idKey platform entry := by
        rintro rfl
        rw [missing] at found
        contradiction
      rwa [List.lookup_cons, beq_eq_false_iff_ne.mpr other]
    next =>
      refine List.forall_mem_cons.mpr ⟨⟨s.nextId, Nat.lt_succ_self _, rfl⟩, fun pair member => ?_⟩
      obtain ⟨n, before, digits⟩ := numbered.given pair member
      exact ⟨n, Nat.lt_succ_of_lt before, digits⟩
    next =>
      refine List.nodup_cons.mpr ⟨fun member => ?_, numbered.distinct⟩
      obtain ⟨pair, held, same⟩ := List.mem_map.mp member
      obtain ⟨n, before, digits⟩ := numbered.given pair held
      exact before.ne (toString_injective (digits.symm.trans same))

theorem findIn_grown (id : String) (entries : List CredentialUIEntry) (s : ShellPasswords P) :
    Grown s (findIn platform id entries s).2 /\ ∀ entry, (findIn platform id entries s).1 = some entry ->
      (findIn platform id entries s).2.ids.lookup (idKey platform entry) = some id := by
  induction entries generalizing s with
  | nil => exact ⟨.same rfl rfl, nofun⟩
  | cons head rest ih =>
    obtain ⟨grown, known⟩ := idFor_grown platform s head
    simp only [findIn]
    split
    next same =>
      refine ⟨grown, fun entry found => ?_⟩
      obtain rfl := Option.some.inj found
      rwa [same] at known
    next => exact ⟨grown.trans (ih _).1, (ih _).2⟩

theorem listItems_grown (entries : List CredentialUIEntry) (s : ShellPasswords P) :
    Grown s (listItems platform entries s).2 := by
  induction entries generalizing s with
  | nil => exact .same rfl rfl
  | cons entry rest ih => exact (idFor_grown platform s entry).1.trans (ih _)

theorem perform_grown (s : ShellPasswords P) (target : ShellReplyTarget) (task : PasswordTask) :
    Grown s (s.perform platform target task) := by
  have looked {id : String} {found : Option CredentialUIEntry} {after : ShellPasswords P}
      (is : s.find platform id = (found, after)) : Grown s after := by
    have grown := (findIn_grown platform id (platform.getSavedPasswords s.presenter) s).1
    rwa [show findIn platform id _ s = (found, after) from is] at grown
  unfold perform
  split
  next => exact (listItems_grown platform _ s).trans (.same rfl rfl)
  next =>
    unfold reveal
    split <;> next found => exact (looked found).trans (.same rfl rfl)
  next =>
    unfold update
    split
    next found => exact (looked found).trans (.same rfl rfl)
    next original after found =>
      extract_lets updated edited changed new
      have kept : Grown s changed := (looked found).trans (.same rfl rfl)
      split
      next => exact kept.trans (.same rfl rfl)
      next => exact kept.trans ((idFor_grown platform changed updated).1.trans (.same rfl rfl))
  next =>
    unfold delete
    split <;> next found => exact (looked found).trans (.same rfl rfl)
  next =>
    unfold exportTo
    split <;> exact .same rfl rfl
  next =>
    unfold importFrom
    split <;> exact .same rfl rfl

theorem runTask_grown (s : ShellPasswords P) (waiting : ShellReplyTarget × PasswordTask) :
    Grown s (s.runTask platform waiting) :=
  Grown.trans (t := s.note (.ran waiting.2 s.auth.isAuthenticationFresh)) (.same rfl rfl)
    (perform_grown platform _ waiting.1 waiting.2)

theorem whenReady_grown (s : ShellPasswords P) (target : ShellReplyTarget) (task : PasswordTask) :
    Grown s (s.whenReady platform target task) := by
  unfold whenReady
  split
  next => exact runTask_grown platform s _
  next => exact .same rfl rfl

theorem handle_grown (s : ShellPasswords P) (widget : Nat) (offTheRecord : Bool) (name : String) (command : DictValue) :
    Grown s (s.handlePasswordsCommand platform widget offTheRecord name command).2 := by
  unfold handlePasswordsCommand denyAuthentication
  extract_lets target id
  have runs := whenReady_grown platform s target
  split_ifs
  all_goals first | exact runs _ | exact .same rfl rfl | split <;> first | exact runs _ | exact .same rfl rfl

theorem next_grown (s : ShellPasswords P) (op : PasswordOp P) : Grown s (s.next platform op) := by
  cases op with
  | command widget offTheRecord name command => exact handle_grown platform s widget offTheRecord name command
  | runPending =>
    simp only [next, runPending]
    split
    next => exact .same rfl rfl
    next waiting rest _ => exact Grown.trans (t := { s with running := rest }) (.same rfl rfl) (runTask_grown platform _ _)
  | exportProgress status =>
    simp only [next, onExportProgress]
    split <;> exact .same rfl rfl
  | importResults results =>
    simp only [next, onImportResults]
    split_ifs
    all_goals first | exact .same rfl rfl | split <;> first | exact .same rfl rfl | split_ifs <;> exact .same rfl rfl
  | continueImport =>
    simp only [next, continueImport]
    split
    next => exact .same rfl rfl
    next => split <;> exact .same rfl rfl
  | onReady | presenter | auth => exact .same rfl rfl

/-- No two realms and usernames share an id, and one that was listed under an id is the only one a later
command finds by it. -/
theorem ids_stay_with_entries {auth : DeviceAuth} {presenter : P} {trace : List (ShellPasswords P × PasswordOp P)}
    (run : Trace (step platform) { auth, presenter } trace s) :
    (∀ key other id, s.ids.lookup key = some id -> s.ids.lookup other = some id -> key = other) /\
    ∀ entry ∈ trace, ∀ key id, entry.1.ids.lookup key = some id -> s.ids.lookup key = some id /\
      ∀ saved, (s.find platform id).1 = some saved -> idKey platform saved = key := by
  have grown : ∀ u op t, True -> True -> step platform u op t -> Grown u t := by
    rintro u op t - - ⟨-, rfl⟩
    exact next_grown platform u op
  obtain ⟨-, fromStart, -⟩ := run.later (fun _ => True) Grown (fun _ => .same rfl rfl) (fun _ _ _ => .trans)
    (fun _ _ _ _ _ => trivial) grown (fun _ _ => trivial) trivial
  have numbered := fromStart.numbered ⟨nofun, List.nodup_nil⟩
  refine ⟨fun key other id => numbered.unique, fun entry member key id known => ?_⟩
  obtain ⟨before, after, rfl⟩ := List.append_of_mem member
  obtain ⟨v, -, moved, rest⟩ := run.split_cons
  obtain ⟨-, since, -⟩ := rest.later (fun _ => True) Grown (fun _ => .same rfl rfl) (fun _ _ _ => .trans)
    (fun _ _ _ _ _ => trivial) grown (fun _ _ => trivial) trivial
  have still := since.kept key id ((grown _ _ _ trivial trivial moved).kept key id known)
  obtain ⟨looked, found⟩ := findIn_grown platform id (platform.getSavedPasswords s.presenter) s
  exact ⟨still, fun saved is => (looked.numbered numbered).unique (found saved is) (looked.kept key id still)⟩

theorem ids_stay_with_entries_listed : ∃ (s : ShellPasswords (List CredentialUIEntry)) (key : String),
    s.ids.lookup key = some "1" ∧ ∀ other, s.ids.lookup other = some "1" → key = other := by
  have follows : Follows permitted (next plainPresenter) oneSaved [.onReady, .command 1 false "getSavedPasswords" []] := by
    decide
  obtain ⟨trace, run, -⟩ := follows.trace
  have listed : ([.onReady, .command 1 false "getSavedPasswords" []].foldl (next plainPresenter) oneSaved).ids.lookup
      "https://example.com/\x1fada" = some "1" := by decide
  exact ⟨_, _, listed, fun other => (ids_stay_with_entries plainPresenter run).1 _ other "1" listed⟩

end ChromiumHmos.Passwords.ShellPasswords
