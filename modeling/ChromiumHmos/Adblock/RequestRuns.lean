import ChromiumHmos.Adblock.RequestFreshness

set_option autoImplicit false

/-!
# Runs of the request checks

A check whose answer is out of date is asked once more; while nothing changes, that answer is the
last.
-/

namespace ChromiumHmos.Adblock

open Base Std Transition History
open UrlProtection (GURL UrlLibrary)

namespace FilterSystem

variable {platform : FilterPlatform}

structure SystemInv (platform : FilterPlatform) (s : FilterSystem) : Prop where
  filter : FilterInv platform [] s
  core : AdblockService.CoreInv platform.toAdblockPlatform [] s.service
  settled : AdblockService.Settled s.service

section Service

variable {s : FilterSystem}

theorem serve_service (op : ServiceOp) :
    (s.serve platform op).service = s.service.next platform.toAdblockPlatform op := by
  unfold serve
  split <;> rfl

theorem deliver_service (request : Nat) : (s.deliver platform request).service = s.service := by
  unfold deliver
  split
  · rfl
  · exact respond_service _ _

theorem answer_service (request : Nat) : (s.answer platform request).service = s.service := by
  unfold answer
  split <;> rfl

theorem ask_service (check : Check) : (s.ask platform check).service = s.service := by
  unfold ask
  exact checkRequest_service _ fun _ => respond_service _ _

theorem overrideSite_service (url : GURL) (enabled : Bool) :
    (s.overrideSite platform url enabled).service = s.service := by
  unfold overrideSite
  dsimp only
  split <;> rfl

theorem construct_system (context : String) (disk : Option DictValue) :
    SystemInv platform (construct context disk) := by
  obtain ⟨core, settled⟩ := AdblockService.construct_inv context disk
  exact ⟨construct_inv context disk, core, settled⟩

theorem SystemInv.same {t : FilterSystem} (inv : SystemInv platform s)
    (filter : FilterInv platform [] t) (same : t.service = s.service) : SystemInv platform t :=
  ⟨filter, same ▸ inv.core, same ▸ inv.settled⟩

theorem next_system (inv : SystemInv platform s) {op : FilterOp} (permitted : s.permitted op) :
    SystemInv platform (s.next platform op) := by
  have filter := next_inv inv.filter permitted
  cases op with
  | service op =>
    obtain ⟨core, settled⟩ := AdblockService.next_inv inv.core inv.settled permitted
    exact ⟨filter, (serve_service op) ▸ core, (serve_service op) ▸ settled⟩
  | overrideSite url enabled => exact inv.same filter (overrideSite_service url enabled)
  | check check => exact inv.same filter (ask_service check)
  | otherQuery => exact inv.same filter (by rw [next]; split <;> rfl)
  | answer request => exact inv.same filter (answer_service request)
  | deliver request => exact inv.same filter (deliver_service request)
  | navigate page navigation => exact inv.same filter rfl
  | destroyPage page => exact inv.same filter rfl
  | destroyHost host => exact inv.same filter rfl

end Service

structure Grows (s t : FilterSystem) : Prop where
  tasks : s.tasks ⊆ t.tasks
  answers : s.answers ⊆ t.answers
  log : s.log ⊆ t.log
  requests : s.requests ≤ t.requests

section Grows

variable {s t u : FilterSystem}

theorem Grows.refl (s : FilterSystem) : Grows s s := ⟨fun _ => id, fun _ => id, fun _ => id, le_rfl⟩

theorem Grows.trans (first : Grows s t) (second : Grows t u) : Grows s u :=
  ⟨List.Subset.trans first.tasks second.tasks, List.Subset.trans first.answers second.answers,
    List.Subset.trans first.log second.log, first.requests.trans second.requests⟩

theorem grows_run (s : FilterSystem) (check : Check) (decision : Decision) :
    Grows s (s.run platform check decision) :=
  ⟨fun _ => id, fun _ => id, List.subset_append_left _ _, le_rfl⟩

theorem grows_query (check : Check) {callback : EngineResult -> FilterSystem}
    (back : Grows s (callback {})) : Grows s (s.query platform check callback) := by
  unfold FilterSystem.query
  split
  · exact ⟨fun _ => id, fun _ => id, fun _ => id, le_rfl⟩
  · split
    · split
      · exact ⟨List.subset_append_left _ _, fun _ => id, fun _ => id, le_rfl⟩
      · exact back
    · exact back

theorem grows_checkRequest (check : Check) {callback : Check -> EngineResult -> FilterSystem}
    (back : ∀ other, Grows s (callback other {})) :
    Grows s (s.checkRequest platform check callback) := by
  unfold FilterSystem.checkRequest
  split
  · exact grows_run s check {}
  · exact grows_query _ (back _)

theorem grows_respond (platform : FilterPlatform) (s : FilterSystem) (check : Check) (result : EngineResult) :
    Grows s (s.respond platform check result) := by
  unfold FilterSystem.respond
  split
  · exact ⟨fun _ => id, fun _ => id, List.subset_append_left _ _, le_rfl⟩
  · split
    · exact grows_run s check {}
    · split
      · exact grows_checkRequest _ fun other => grows_run s other _
      · exact grows_run s check _

theorem grows_runChecks (checks : List Check) (s : FilterSystem) :
    Grows s (checks.foldl (fun s check => s.query platform check (s.respond platform check)) s) := by
  induction checks generalizing s with
  | nil => exact .refl s
  | cons check rest ih => exact (grows_query check (grows_respond _ _ check {})).trans (ih _)

theorem grows_serve (s : FilterSystem) (op : ServiceOp) : Grows s (s.serve platform op) := by
  have follows (t : FilterSystem) (service : AdblockService) : Grows t (t.follow service) :=
    ⟨fun _ => id, fun _ => id, fun _ => id, le_rfl⟩
  unfold serve
  split
  · refine Grows.trans ?_ (follows _ _)
    refine Grows.trans ?_ (grows_runChecks _ _)
    exact ⟨fun _ => id, fun _ => id, fun _ => id, le_rfl⟩
  · exact follows _ _

theorem grows_answer (platform : FilterPlatform) (request : Nat) (s : FilterSystem) :
    (∀ task ∈ s.tasks, task.2.request ≠ request -> task ∈ (s.answer platform request).tasks) /\
      s.answers ⊆ (s.answer platform request).answers /\ (s.answer platform request).log = s.log /\
      (s.answer platform request).requests = s.requests := by
  unfold answer
  split
  · exact ⟨fun _ mem _ => mem, fun _ => id, rfl, rfl⟩
  · refine ⟨fun task mem other => ?_, List.subset_append_left _ _, rfl, rfl⟩
    exact (List.mem_eraseP_of_neg (by simpa using other)).mpr mem

theorem grows_deliver (platform : FilterPlatform) (request : Nat) (s : FilterSystem) :
    s.tasks ⊆ (s.deliver platform request).tasks /\
      (∀ answer ∈ s.answers, answer.2.request ≠ request ->
        answer ∈ (s.deliver platform request).answers) /\
      s.log ⊆ (s.deliver platform request).log /\ s.requests <= (s.deliver platform request).requests := by
  unfold deliver
  split
  · exact ⟨fun _ => id, fun _ mem _ => mem, fun _ => id, le_rfl⟩
  · next result check found =>
    have grows := grows_respond platform { s with
      answers := s.answers.eraseP fun answer => answer.2.request = request } check result
    refine ⟨grows.tasks, fun answer mem other => grows.answers ?_, grows.log, grows.requests⟩
    exact (List.mem_eraseP_of_neg (by simpa using other)).mpr mem

theorem next_keeps (platform : FilterPlatform) (s : FilterSystem) (op : FilterOp) :
    (∀ task ∈ s.tasks, op ≠ .answer task.2.request -> task ∈ (s.next platform op).tasks) /\
      (∀ answer ∈ s.answers, op ≠ .deliver answer.2.request ->
        answer ∈ (s.next platform op).answers) /\
      s.log ⊆ (s.next platform op).log /\ s.requests <= (s.next platform op).requests := by
  have grown {t : FilterSystem} (grows : Grows s t) :
      (∀ task ∈ s.tasks, op ≠ .answer task.2.request -> task ∈ t.tasks) /\
        (∀ answer ∈ s.answers, op ≠ .deliver answer.2.request -> answer ∈ t.answers) /\
        s.log ⊆ t.log /\ s.requests <= t.requests :=
    ⟨fun _ mem _ => grows.tasks mem, fun _ mem _ => grows.answers mem, grows.log, grows.requests⟩
  cases op with
  | service op => exact grown (grows_serve s op)
  | overrideSite url enabled =>
    refine grown ?_
    change Grows s (s.overrideSite platform url enabled)
    unfold overrideSite
    dsimp only
    split
    · exact .refl s
    · exact ⟨fun _ => id, fun _ => id, fun _ => id, le_rfl⟩
  | check check =>
    refine grown ?_
    change Grows s (s.ask platform check)
    unfold ask
    refine Grows.trans ?_ (grows_checkRequest _ fun other => grows_respond _ _ other {})
    exact ⟨fun _ => id, fun _ => id, List.subset_append_left _ _, Nat.le_succ _⟩
  | otherQuery =>
    refine grown ?_
    rw [next]
    split
    · exact .refl s
    · exact ⟨fun _ => id, fun _ => id, fun _ => id, le_rfl⟩
  | answer request =>
    obtain ⟨tasks, answers, log, requests⟩ := grows_answer platform request s
    exact ⟨fun task mem other => tasks task mem fun same => other (same ▸ rfl),
      fun answer mem _ => answers mem, log ▸ fun _ => id, requests.ge⟩
  | deliver request =>
    obtain ⟨tasks, answers, log, requests⟩ := grows_deliver platform request s
    exact ⟨fun task mem _ => tasks mem, fun answer mem other =>
      answers answer mem fun same => other (same ▸ rfl), log, requests⟩
  | _ => exact grown ⟨fun _ => id, fun _ => id, fun _ => id, le_rfl⟩

end Grows

def Decided (s : FilterSystem) (request : Nat) : Prop :=
  ∃ check decision moment, .decided check decision moment ∈ s.log ∧ check.request = request

section Progress

variable {s : FilterSystem} {check : Check} {request : Nat}

theorem decided_run (s : FilterSystem) (check : Check) (decision : Decision) :
    (s.run platform check decision).Decided check.request :=
  ⟨check, decision, _, List.mem_append_right _ (List.mem_singleton_self _), rfl⟩

/-- The engine is asked, under the current revision, or will be when the initial load is over. -/
def AskedAnew (s t : FilterSystem) (request : Nat) : Prop :=
  (∃ task ∈ t.tasks, task.2.request = request ∧ task.2.revision = s.revision task.2.owner ∧
    s.service.engine = some task.1) ∨
  (s.service.initialized = false ∧ ∃ check ∈ t.waiting, check.request = request)

theorem query_progress (current : check.revision = s.revision check.owner)
    {callback : EngineResult -> FilterSystem} (back : (callback {}).Decided check.request) :
    (s.query platform check callback).Decided check.request \/
      AskedAnew s (s.query platform check callback) check.request := by
  unfold FilterSystem.query
  split
  · next fresh =>
    refine .inr (.inr ⟨Bool.eq_false_iff.mpr fresh.1, check, ?_, rfl⟩)
    exact List.mem_append_right _ (List.mem_singleton_self _)
  · split
    · next engine found =>
      split
      · refine .inr (.inl ⟨(engine, check), ?_, rfl, current, found⟩)
        exact List.mem_append_right _ (List.mem_singleton_self _)
      · exact .inl back
    · exact .inl back

theorem checkRequest_progress {callback : Check -> EngineResult -> FilterSystem}
    (back : ∀ other, other.request = check.request -> (callback other {}).Decided check.request) :
    (s.checkRequest platform check callback).Decided check.request \/
      AskedAnew s (s.checkRequest platform check callback) check.request := by
  unfold FilterSystem.checkRequest
  split
  · exact .inl (decided_run s check {})
  · exact query_progress rfl (back _ rfl)

theorem respond_progress (alive : s.alive check.host = true) (result : EngineResult) :
    (s.respond platform check result).Decided check.request \/
      (s.revision check.owner ≠ check.revision /\
        AskedAnew s (s.respond platform check result) check.request) := by
  unfold FilterSystem.respond
  split
  next dead => exact absurd alive dead
  · split
    · exact .inl (decided_run s check {})
    · split
      · next stale =>
        have decided (other : Check) (same : other.request = check.request) :
            (s.finish platform other {}).Decided check.request := by
          rw [<- same]
          exact decided_run s other _
        have asked := @checkRequest_progress platform s { check with
          page := if (s.navigationOf check.page).isSome then check.page else none } _ decided
        exact asked.imp_right fun posted => ⟨stale, posted⟩
      · exact .inl (decided_run s check _)

theorem task_inFlight {task : Engine × Check} (mem : task ∈ s.tasks) : task.2 ∈ s.inFlight :=
  List.mem_append_left _ (List.mem_append_right _ (List.mem_map_of_mem mem))

theorem answer_inFlight {answer : EngineResult × Check} (mem : answer ∈ s.answers) :
    answer.2 ∈ s.inFlight :=
  List.mem_append_right _ (List.mem_map_of_mem mem)

theorem unique_of_count {l : List Check} (few : l.countP (fun c => c.request = request) <= 1)
    {a b : Check} (memA : a ∈ l) (memB : b ∈ l) (isA : a.request = request)
    (isB : b.request = request) : a = b := by
  rw [List.countP_eq_length_filter] at few
  have inA : a ∈ l.filter fun c => c.request = request :=
    List.mem_filter.mpr ⟨memA, by simpa using isA⟩
  have inB : b ∈ l.filter fun c => c.request = request :=
    List.mem_filter.mpr ⟨memB, by simpa using isB⟩
  match filtered : l.filter fun c => c.request = request with
  | [] =>
    rw [filtered] at inA
    cases inA
  | [only] =>
    rw [filtered, List.mem_singleton] at inA inB
    exact inA.trans inB.symm
  | first :: second :: rest =>
    rw [filtered] at few
    simp at few

theorem SystemInv.unique (inv : SystemInv platform s) {a b : Check} (memA : a ∈ s.inFlight)
    (memB : b ∈ s.inFlight) (same : a.request = b.request) : a = b := by
  have balance := inv.filter.balance b.request
  rw [List.nil_append] at balance
  have few : s.inFlight.countP (fun c => c.request = b.request) <= 1 := by
    split at balance <;> omega
  exact unique_of_count few memA memB same rfl

theorem answer_turn (platform : FilterPlatform) (waits : ∃ task ∈ s.tasks, task.2.request = request) :
    ∃ task ∈ s.tasks, task.2.request = request /\
      ∃ result, (result, task.2) ∈ (s.answer platform request).answers := by
  obtain ⟨task, mem, same⟩ := waits
  unfold answer
  split
  next none => exact absurd (by simpa using same) (List.find?_eq_none.mp none task mem)
  · next engine check found =>
    obtain ⟨front, back, tasks, -⟩ := find_split found
    refine ⟨(engine, check), by simp [tasks], by simpa using List.find?_some found,
      platform.query engine (engineQuery platform check), ?_⟩
    exact List.mem_append_right _ (List.mem_singleton_self _)

theorem deliver_turn (platform : FilterPlatform)
    (waits : ∃ answer ∈ s.answers, answer.2.request = request) :
    ∃ answer ∈ s.answers, answer.2.request = request /\ s.deliver platform request =
      { s with answers := s.answers.eraseP fun answer => answer.2.request = request }.respond
        platform answer.2 answer.1 := by
  obtain ⟨answer, mem, same⟩ := waits
  unfold deliver
  split
  next none => exact absurd (by simpa using same) (List.find?_eq_none.mp none answer mem)
  · next result check found =>
    obtain ⟨front, back, answers, -⟩ := find_split found
    exact ⟨(result, check), by simp [answers], by simpa using List.find?_some found, rfl⟩

end Progress

structure FilterRun (platform : FilterPlatform) where
  state : ℕ → FilterSystem
  op : ℕ → FilterOp
  moved : ∀ n, step platform (state n) (op n) (state (n + 1))

/-- The worker's results are installed, and the engine answers. -/
structure FilterRun.Fair (run : FilterRun platform) : Prop where
  installs : ∀ n, (run.state n).service.busy →
    ∃ m, n ≤ m ∧ ∃ now, run.op m = .service (.receive now)
  answers : ∀ n request, (∃ task ∈ (run.state n).tasks, task.2.request = request) →
    ∃ m, n ≤ m ∧ run.op m = .answer request
  delivers : ∀ n request, (∃ answer ∈ (run.state n).answers, answer.2.request = request) →
    ∃ m, n ≤ m ∧ run.op m = .deliver request

def FilterRun.SettledFrom (run : FilterRun platform) (n : ℕ) : Prop :=
  ∀ m, n ≤ m → ∀ owner, (run.state m).revision owner = (run.state n).revision owner

def FilterRun.Alive (run : FilterRun platform) (request : Nat) : Prop :=
  ∀ n m check, .asked check ∈ (run.state n).log → check.request = request →
    (run.state m).alive check.host = true

/-- How far a check has come, the last answer being due first. -/
inductive Stage (request : Nat) (s : FilterSystem) : ℕ → Prop
  | asked {task : Engine × Check} (mem : task ∈ s.tasks) (same : task.2.request = request) :
      Stage request s 4
  | answered {answer : EngineResult × Check} (mem : answer ∈ s.answers)
      (same : answer.2.request = request) : Stage request s 3
  | askedAnew {task : Engine × Check} (mem : task ∈ s.tasks) (same : task.2.request = request)
      (current : task.2.revision = s.revision task.2.owner) : Stage request s 2
  | answeredAnew {answer : EngineResult × Check} (mem : answer ∈ s.answers)
      (same : answer.2.request = request)
      (current : answer.2.revision = s.revision answer.2.owner) : Stage request s 1

def turn (request : Nat) : ℕ → FilterOp
  | 1 | 3 => .deliver request
  | _ => .answer request

namespace FilterRun

variable (run : FilterRun platform)

theorem inv (initial : SystemInv platform (run.state 0)) (n : ℕ) :
    SystemInv platform (run.state n) := by
  induction n with
  | zero => exact initial
  | succ n ih =>
    obtain ⟨permitted, moved⟩ := run.moved n
    rw [moved]
    exact next_system ih permitted

theorem initialized (initial : SystemInv platform (run.state 0)) (fair : run.Fair) {n : ℕ}
    (settled : run.SettledFrom n) : (run.state n).service.initialized = true := by
  by_contra fresh
  have busy := ((run.inv initial n).core.starting (Bool.eq_false_iff.mpr fresh)).1
  obtain ⟨m, later, now, receives⟩ := fair.installs n busy
  obtain ⟨permitted, moved⟩ := run.moved m
  rw [receives] at permitted moved
  have back : (run.state m).service.replies ≠ [] := permitted
  obtain ⟨⟨job, compiled⟩, rest, replies⟩ := List.exists_cons_of_ne_nil back
  have told := (AdblockService.feeds_told (run.state m).service rest job compiled now).2
  have after := (AdblockService.feeds_after (run.state m).service rest job compiled now).newer.le
  have same := settled (m + 1) (by omega) .profile
  rw [<- settled m later .profile, moved] at same
  change ((run.state m).serve platform (.receive now)).service.revision =
    (run.state m).service.revision at same
  rw [serve_service, AdblockService.next, AdblockService.receive, replies] at same
  dsimp only at same
  omega

variable {request k : ℕ}

theorem stage_step (initial : SystemInv platform (run.state 0)) (fair : run.Fair)
    (alive : run.Alive request) {n : ℕ} (settled : run.SettledFrom n)
    (stage : Stage request (run.state n) k) :
    (run.state (n + 1)).Decided request \/ (∃ k', k' < k /\ Stage request (run.state (n + 1)) k') \/
      (Stage request (run.state (n + 1)) k /\ run.op n ≠ turn request k) := by
  have inv := run.inv initial n
  have ready := run.initialized initial fair settled
  have same := settled (n + 1) (Nat.le_succ n)
  obtain ⟨-, moved⟩ := run.moved n
  obtain ⟨tasks, answers, -, -⟩ := next_keeps platform (run.state n) (run.op n)
  rw [<- moved] at tasks answers
  have answered (op : run.op n = .answer request)
      (waits : ∃ task ∈ (run.state n).tasks, task.2.request = request) :
      ∃ task ∈ (run.state n).tasks, task.2.request = request /\
        ∃ result, (result, task.2) ∈ (run.state (n + 1)).answers := by
    rw [moved, op]
    exact answer_turn platform waits
  have delivered (op : run.op n = .deliver request)
      (waits : ∃ answer ∈ (run.state n).answers, answer.2.request = request) :
      ∃ answer ∈ (run.state n).answers, answer.2.request = request /\
        ((run.state (n + 1)).Decided request \/
          ((run.state n).revision answer.2.owner ≠ answer.2.revision /\
            Stage request (run.state (n + 1)) 2)) := by
    obtain ⟨answer, mem, is, turned⟩ := deliver_turn platform waits
    refine ⟨answer, mem, is, ?_⟩
    have live : (run.state n).alive answer.2.host = true := by
      obtain ⟨first, asked, continues⟩ := inv.filter.sound answer.2 (answer_inFlight mem)
      rw [continues.host]
      exact alive n n first asked (continues.request.symm.trans is)
    have after : run.state (n + 1) = (run.state n).deliver platform request := by
      rw [moved, op]
      rfl
    have progress := @respond_progress platform { run.state n with
      answers := (run.state n).answers.eraseP fun answer => answer.2.request = request }
      answer.2 live answer.1
    rw [<- turned, <- after, is] at progress
    rcases progress with decided | ⟨stale, ⟨task, mem', is', current, -⟩ | ⟨fresh, -⟩⟩
    · exact .inl decided
    · exact .inr ⟨stale, .askedAnew mem' is' (current.trans (same _).symm)⟩
    · exact absurd (ready.symm.trans fresh) (by simp)
  cases stage with
  | @asked task mem is =>
    by_cases op : run.op n = .answer request
    · obtain ⟨other, -, is', result, mem'⟩ := answered op ⟨task, mem, is⟩
      exact .inr (.inl ⟨3, by omega, .answered mem' is'⟩)
    · exact .inr (.inr ⟨.asked (tasks task mem (is ▸ op)) is, op⟩)
  | @askedAnew task mem is current =>
    by_cases op : run.op n = .answer request
    · obtain ⟨other, mem', is', result, mem''⟩ := answered op ⟨task, mem, is⟩
      have one : other.2 = task.2 := inv.unique (task_inFlight mem') (task_inFlight mem) (is'.trans is.symm)
      refine .inr (.inl ⟨1, by omega, .answeredAnew mem'' is' ?_⟩)
      rw [same, one]
      exact current
    · refine .inr (.inr ⟨.askedAnew (tasks task mem (is ▸ op)) is ?_, op⟩)
      rw [same]
      exact current
  | @answered answer mem is =>
    by_cases op : run.op n = .deliver request
    · obtain ⟨other, -, -, decided | ⟨-, anew⟩⟩ := delivered op ⟨answer, mem, is⟩
      · exact .inl decided
      · exact .inr (.inl ⟨2, by omega, anew⟩)
    · exact .inr (.inr ⟨.answered (answers answer mem (is ▸ op)) is, op⟩)
  | @answeredAnew answer mem is current =>
    by_cases op : run.op n = .deliver request
    · obtain ⟨other, mem', is', decided | ⟨stale, -⟩⟩ := delivered op ⟨answer, mem, is⟩
      · exact .inl decided
      · have one : other.2 = answer.2 := inv.unique (answer_inFlight mem') (answer_inFlight mem)
          (is'.trans is.symm)
        exact absurd (one ▸ current.symm) stale
    · refine .inr (.inr ⟨.answeredAnew (answers answer mem (is ▸ op)) is ?_, op⟩)
      rw [same]
      exact current

theorem SettledFrom.later {run : FilterRun platform} {n m : ℕ} (settled : run.SettledFrom n)
    (later : n <= m) : run.SettledFrom m := fun k le owner =>
  (settled k (later.trans le) owner).trans (settled m later owner).symm

theorem stage_falls (initial : SystemInv platform (run.state 0)) (fair : run.Fair)
    (alive : run.Alive request) (n gap : ℕ) (settled : run.SettledFrom n)
    (stage : Stage request (run.state n) k) (op : run.op (n + gap) = turn request k) :
    ∃ m, n <= m /\ ((run.state m).Decided request \/
      ∃ k', k' < k /\ Stage request (run.state m) k') := by
  induction gap generalizing n with
  | zero =>
    rcases run.stage_step initial fair alive settled stage with decided | lower | ⟨-, other⟩
    · exact ⟨n + 1, Nat.le_succ n, .inl decided⟩
    · exact ⟨n + 1, Nat.le_succ n, .inr lower⟩
    · exact absurd op other
  | succ gap ih =>
    rcases run.stage_step initial fair alive settled stage with decided | lower | ⟨same, -⟩
    · exact ⟨n + 1, Nat.le_succ n, .inl decided⟩
    · exact ⟨n + 1, Nat.le_succ n, .inr lower⟩
    · rw [show n + (gap + 1) = n + 1 + gap by omega] at op
      obtain ⟨m, later, reached⟩ := ih (n + 1) (settled.later (Nat.le_succ n)) same op
      exact ⟨m, by omega, reached⟩

theorem stage_of_asked (initial : SystemInv platform (run.state 0)) (fair : run.Fair)
    (alive : run.Alive request) {n : ℕ} (settled : run.SettledFrom n)
    (asked : request < (run.state n).requests) (open' : ¬ (run.state n).Decided request) :
    ∃ k, Stage request (run.state n) k := by
  have inv := (run.inv initial n).filter
  have none : (run.state n).log.countP (FilterEvent.settles request) = 0 := by
    refine List.countP_eq_zero.mpr fun event mem settles => ?_
    cases event with
    | asked check => cases settles
    | decided check decision moment =>
      have is : check.request = request := by
        simpa [FilterEvent.settles, FilterEvent.isDecided, FilterEvent.isDropped] using settles
      exact open' ⟨check, decision, moment, mem, is⟩
    | dropped check =>
      have is : check.request = request := by
        simpa [FilterEvent.settles, FilterEvent.isDecided, FilterEvent.isDropped] using settles
      obtain ⟨before, after, split⟩ := List.append_of_mem mem
      obtain ⟨first, asked, same, host⟩ := inv.judged before _ after split
      have live := alive n n first (split ▸ List.mem_append_left _ asked) (same.symm.trans is)
      rw [<- host, inv.dropped check mem] at live
      cases live
  have balance := inv.balance request
  rw [none, if_pos asked, Nat.zero_add, List.nil_append] at balance
  obtain ⟨check, mem, is⟩ := List.countP_pos_iff.mp (balance ▸ Nat.one_pos)
  have is : check.request = request := by simpa using is
  rw [inFlight, inv.waits (run.initialized initial fair settled), List.nil_append] at mem
  rcases List.mem_append.mp mem with mem | mem
  · obtain ⟨task, there, rfl⟩ := List.mem_map.mp mem
    exact ⟨4, .asked there is⟩
  · obtain ⟨answer, there, rfl⟩ := List.mem_map.mp mem
    exact ⟨3, .answered there is⟩

theorem eventually_decided (initial : SystemInv platform (run.state 0)) (fair : run.Fair)
    (alive : run.Alive request) {n : ℕ} (settled : run.SettledFrom n)
    (asked : request < (run.state n).requests) : ∃ m, n <= m /\ (run.state m).Decided request := by
  by_cases told : (run.state n).Decided request
  · exact ⟨n, le_rfl, told⟩
  obtain ⟨k, stage⟩ := run.stage_of_asked initial fair alive settled asked told
  refine eventually_of_rank (fun m => m) (fun m => (run.state m).Decided request)
    (fun m k => n <= m /\ Stage request (run.state m) k) (fun m k ranked => ?_) n k ⟨le_rfl, stage⟩
  obtain ⟨later, stage⟩ := ranked
  have turns : ∃ l, m <= l /\ run.op l = turn request k := by
    cases stage with
    | asked mem same => exact fair.answers m request ⟨_, mem, same⟩
    | answered mem same => exact fair.delivers m request ⟨_, mem, same⟩
    | askedAnew mem same current => exact fair.answers m request ⟨_, mem, same⟩
    | answeredAnew mem same current => exact fair.delivers m request ⟨_, mem, same⟩
  obtain ⟨l, due, op⟩ := turns
  obtain ⟨gap, rfl⟩ := Nat.exists_eq_add_of_le due
  obtain ⟨m', later', reached⟩ :=
    run.stage_falls initial fair alive m gap (settled.later later) stage op
  refine ⟨m', later', reached.imp_right ?_⟩
  rintro ⟨k', lower, stage'⟩
  exact ⟨k', lower, later.trans later', stage'⟩

end FilterRun

end FilterSystem

open FilterSystem

structure FreshDecisions (platform : FilterPlatform) (s : FilterSystem) : Prop where
  once : ∀ request < s.requests, s.log.countP (FilterEvent.isDecided request) +
    s.log.countP (FilterEvent.isDropped request) +
      s.inFlight.countP (fun check => check.request = request) = 1
  dropped : ∀ check, .dropped check ∈ s.log → s.alive check.host = false
  judged : Throughout (FreshEvent platform) s.log
  anew : ∀ answer ∈ s.answers, s.alive answer.2.host = true →
    answer.2.revision ≠ s.revision answer.2.owner → ∀ t, step platform s (.deliver answer.2.request) t →
    t.Decided answer.2.request ∨ AskedAnew s t answer.2.request
  ends : ∀ run : FilterRun platform, run.state 0 = s → run.Fair → ∀ n request, run.SettledFrom n →
    run.Alive request → request < (run.state n).requests →
    ∃ m, n ≤ m ∧ (run.state m).log.countP (FilterEvent.isDecided request) = 1

section

variable {platform : FilterPlatform} {s : FilterSystem}

theorem settles_count (log : List FilterEvent) (request : Nat) :
    log.countP (FilterEvent.settles request) =
      log.countP (FilterEvent.isDecided request) + log.countP (FilterEvent.isDropped request) := by
  induction log with
  | nil => rfl
  | cons event rest ih =>
    rw [List.countP_cons, List.countP_cons, List.countP_cons, ih]
    cases event with
    | asked check => simp [FilterEvent.settles, FilterEvent.isDecided, FilterEvent.isDropped]
    | decided check decision moment =>
      by_cases same : check.request = request
      · simp [FilterEvent.settles, FilterEvent.isDecided, FilterEvent.isDropped, same]
        omega
      · simp [FilterEvent.settles, FilterEvent.isDecided, FilterEvent.isDropped, same]
    | dropped check =>
      by_cases same : check.request = request
      · simp [FilterEvent.settles, FilterEvent.isDecided, FilterEvent.isDropped, same]
        omega
      · simp [FilterEvent.settles, FilterEvent.isDecided, FilterEvent.isDropped, same]

theorem once_of_inv (inv : FilterInv platform [] s) {request : Nat} (asked : request < s.requests) :
    s.log.countP (FilterEvent.isDecided request) + s.log.countP (FilterEvent.isDropped request) +
      s.inFlight.countP (fun check => check.request = request) = 1 := by
  have balance := inv.balance request
  rw [if_pos asked, settles_count, List.nil_append] at balance
  exact balance

theorem decided_once (inv : FilterInv platform [] s) {request : Nat} (decided : s.Decided request) :
    s.log.countP (FilterEvent.isDecided request) = 1 := by
  obtain ⟨check, decision, moment, mem, is⟩ := decided
  have some : 0 < s.log.countP (FilterEvent.isDecided request) :=
    List.countP_pos_iff.mpr ⟨_, mem, by simp [FilterEvent.isDecided, is]⟩
  have balance := inv.balance request
  rw [settles_count] at balance
  split at balance <;> omega

theorem anew_of_inv (inv : SystemInv platform s) {answer : EngineResult × Check}
    (mem : answer ∈ s.answers) (alive : s.alive answer.2.host = true) :
    (s.deliver platform answer.2.request).Decided answer.2.request \/
      AskedAnew s (s.deliver platform answer.2.request) answer.2.request := by
  obtain ⟨other, mem', is, turned⟩ := deliver_turn platform ⟨answer, mem, rfl⟩
  have one := inv.unique (answer_inFlight mem') (answer_inFlight mem) is
  rw [turned, one]
  have progress := @respond_progress platform { s with
    answers := s.answers.eraseP fun other => other.2.request = answer.2.request } answer.2 alive other.1
  exact progress.imp_right And.right

end

/-- A decision that is applied is that of the engine and the revision in force, and its page has not
navigated. -/
theorem decisions_fresh (platform : FilterPlatform) (context : String) (disk : Option DictValue)
    (trace : List (FilterSystem × FilterOp)) (s : FilterSystem)
    (run : Trace (step platform) (construct context disk) trace s) : FreshDecisions platform s := by
  have preserved (t : FilterSystem) (op : FilterOp) (u : FilterSystem) (inv : SystemInv platform t)
      (moved : step platform t op u) : SystemInv platform u := by
    obtain ⟨permitted, rfl⟩ := moved
    exact next_system inv permitted
  have inv := run.preserves preserved (construct_system context disk)
  refine ⟨fun request asked => once_of_inv inv.filter asked, inv.filter.dropped, inv.filter.judged,
    ?_, ?_⟩
  · rintro answer mem alive - t ⟨-, rfl⟩
    exact anew_of_inv inv mem alive
  · rintro later rfl fair n request settled alive asked
    obtain ⟨m, le, decided⟩ := later.eventually_decided inv fair alive settled asked
    exact ⟨m, le, decided_once (later.inv inv m).filter decided⟩

-- An engine with rules blocks everything.
def strictPlatform : FilterPlatform where
  toAdblockPlatform := plainPlatform
  schemeIsWSOrWSS := fun _ => false
  query := fun _ _ => { blocked := true }

def pageRequest : Check :=
  { request := 0, owner := .profile, page := some 0, url := ⟨"https://ads.example/"⟩
    site := ⟨"https://example.com/"⟩, type := "script", method := "GET", host := 0 }

def autoOff : Command :=
  { name := .setAdBlockAutoUpdate, expectedRevision := some (.finite 2), enabled := some false }

def loadEngine : List FilterOp :=
  [.service (.work { engine := { handle := true, counts := [⟨"easylist", 1, 0⟩] } }),
    .service (.receive 0)]

def isBlocked (request : Nat) : FilterEvent → Bool
  | .decided check decision _ => check.request = request ∧ decision.blocked
  | _ => false

section

variable {s : FilterSystem} {request : Nat}

theorem answer_permitted (waits : (s.tasks.any fun task => task.2.request = request) = true) :
    s.permitted (.answer request) := by
  obtain ⟨task, mem, same⟩ := List.any_eq_true.mp waits
  exact ⟨task, mem, by simpa using same⟩

theorem deliver_permitted (waits : (s.answers.any fun answer => answer.2.request = request) = true) :
    s.permitted (.deliver request) := by
  obtain ⟨answer, mem, same⟩ := List.any_eq_true.mp waits
  exact ⟨answer, mem, by simpa using same⟩

theorem check_permitted {check : Check} {page : Nat} (alive : s.alive check.host = true)
    (from' : check.page = some page) (lives : (s.pages page).isSome) :
    s.permitted (.check check) := by
  refine ⟨alive, fun other is => ?_⟩
  obtain rfl := Option.some.inj (from'.symm.trans is)
  exact lives

end

-- The engine answers, the site's settings change, and the engine is asked once more.
theorem decisions_fresh_anew :
    ∃ s : FilterSystem, s.log.any (isBlocked 0) = true ∧ s.service.revision = 3 ∧
      FreshDecisions strictPlatform s := by
  have follows : Follows permitted (next strictPlatform) (construct "" none)
      (loadEngine ++ [.check pageRequest, .answer 0, .service (.mutate autoOff {}), .deliver 0,
        .answer 0, .deliver 0]) :=
    ⟨List.isEmpty_eq_false_iff.mp (by decide), List.isEmpty_eq_false_iff.mp (by decide),
      check_permitted (by decide) rfl (by decide),
      answer_permitted (by decide), (by decide : autoOff.name ≠ .setAdBlockSiteEnabled),
      deliver_permitted (by decide), answer_permitted (by decide),
      deliver_permitted (by decide), trivial⟩
  obtain ⟨trace, run, -⟩ := follows.trace
  exact ⟨_, by decide, by decide, decisions_fresh strictPlatform "" none trace _ run⟩

-- The page navigated and was then destroyed, so nothing tells that it had.
theorem navigated_page_destroyed :
    ¬ ∀ (platform : FilterPlatform) (context : String) (disk : Option DictValue)
      (trace : List (FilterSystem × FilterOp)) (s : FilterSystem),
      Trace (step platform) (construct context disk) trace s →
      ∀ front mid back asked left check page navigation,
        trace = front ++ (asked, .check check) :: mid ++ (left, .navigate page navigation) :: back →
        check.page = some page → asked.pages page ≠ some navigation →
        ¬ left.log.any (isBlocked asked.requests) → ¬ s.log.any (isBlocked asked.requests) := by
  intro every
  have follows : Follows permitted (next strictPlatform) (construct "" none) loadEngine :=
    ⟨List.isEmpty_eq_false_iff.mp (by decide), List.isEmpty_eq_false_iff.mp (by decide),
      trivial⟩
  obtain ⟨front, loaded, -⟩ := follows.trace
  let ready := loadEngine.foldl (next strictPlatform) (construct "" none)
  let asked := ready.next strictPlatform (.check pageRequest)
  let left := asked.next strictPlatform (.navigate 0 "next")
  let gone := left.next strictPlatform (.destroyPage 0)
  let answered := gone.next strictPlatform (.answer 0)
  have tail : Trace (step strictPlatform) ready
      [(ready, .check pageRequest), (asked, .navigate 0 "next"), (left, .destroyPage 0),
        (gone, .answer 0), (answered, .deliver 0)] (answered.next strictPlatform (.deliver 0)) :=
    .cons ⟨check_permitted (by decide) rfl (by decide), rfl⟩
      (.cons ⟨(by decide : (asked.pages 0).isSome), rfl⟩ (.cons ⟨trivial, rfl⟩
        (.cons ⟨answer_permitted (by decide), rfl⟩
          (.cons ⟨deliver_permitted (by decide), rfl⟩ (.nil _)))))
  have blocked := every strictPlatform "" none _ _ (loaded.append tail) front []
    [(left, .destroyPage 0), (gone, .answer 0), (answered, .deliver 0)] ready asked pageRequest 0
    "next" (by simp) rfl (by decide) (by decide)
  exact absurd (by decide) blocked

end ChromiumHmos.Adblock
