import ChromiumHmos.UrlProtection.SourceSteps

set_option autoImplicit false

/-!
# No refresh stays active forever

The continuation of the active refresh is in one of five stages. Within a stage it only comes
nearer to the head of its queue, and at the head it is served into the next stage.
-/

namespace ChromiumHmos.UrlProtection

open Base Transition RuleSources

def RuleSources.Task.stage : Task → Nat
  | .parseDownload .. => 4
  | .install .. => 2
  | _ => 0

def RuleSources.Reply.stage : RuleSources.Reply → Nat
  | .parsed .. => 3
  | .installed .. => 1
  | .restored _ => 0

namespace RefreshCore

inductive Place
  | loader
  | worker
  | replies

/-- Where a continuation is: its stage, and how many are ahead of it. -/
inductive At (c : RefreshCore) (x : Continuation) : Place → Nat → Nat → Prop
  | loader (loading : c.loader = some x) : At c x .loader 5 0
  | worker (before : List Task) (task : Task) (after : List Task)
      (split : c.worker = before ++ task :: after) (bound : task.continuation = some x) :
      At c x .worker task.stage before.length
  | replies (before : List RuleSources.Reply) (reply : RuleSources.Reply)
      (after : List RuleSources.Reply) (split : c.replies = before ++ reply :: after)
      (bound : reply.continuation = some x) : At c x .replies reply.stage before.length

variable {c d : RefreshCore}

theorem at_of_mem {x : Continuation} (mem : x ∈ c.continuations) :
    ∃ place stage ahead, At c x place stage ahead := by
  simp only [continuations, List.mem_append, Option.mem_toList, List.mem_filterMap] at mem
  rcases mem with loading | ⟨task, mem, bound⟩ | ⟨reply, mem, bound⟩
  · exact ⟨_, _, _, .loader loading⟩
  · obtain ⟨before, after, split⟩ := List.append_of_mem mem
    exact ⟨_, _, _, .worker before task after split bound⟩
  · obtain ⟨before, after, split⟩ := List.append_of_mem mem
    exact ⟨_, _, _, .replies before reply after split bound⟩

/-- How the queues move while the active refresh stays active. -/
inductive Queues (c d : RefreshCore) : Prop
  | quiet (more : List Task) (loader : d.loader = c.loader) (worker : d.worker = c.worker ++ more)
      (replies : d.replies = c.replies)
  | arrive (x : Continuation) (task : Task) (loading : c.loader = some x)
      (unloaded : d.loader = none) (worker : d.worker = c.worker ++ [task])
      (bound : task.continuation = some x) (stage : task.stage < 5) (replies : d.replies = c.replies)
  | work (task : Task) (rest : List Task) (more : List RuleSources.Reply)
      (loader : d.loader = c.loader) (head : c.worker = task :: rest) (worker : d.worker = rest)
      (replies : d.replies = c.replies ++ more)
      (bound : ∀ x, task.continuation = some x →
        ∃ reply, more = [reply] ∧ reply.continuation = some x ∧ reply.stage < task.stage)
  | reply (reply : RuleSources.Reply) (rest : List RuleSources.Reply) (more : List Task)
      (loader : d.loader = c.loader) (head : c.replies = reply :: rest) (replies : d.replies = rest)
      (worker : d.worker = c.worker ++ more)
      (bound : ∀ id generation, reply.continuation = some (id, generation) →
        c.Live id generation → ∃ task, more = [task] ∧
          task.continuation = some (id, generation) ∧ task.stage < reply.stage)

theorem moves_queues (moves : Moves c d) (running : c.active ≠ "")
    (kept : d.active = c.active) : Queues c d := by
  cases moves with
  | stay | join | leave | add => exact .quiet [] rfl (by simp) rfl
  | cancel | begin | abort | finish => simp_all
  | arrive loading live found => exact .arrive _ _ loading rfl rfl rfl (by simp [Task.stage]) rfl
  | restored head =>
    exact .reply _ _ [] rfl head rfl (by simp) (by simp [Reply.continuation])
  | stale head bound dead =>
    refine .reply _ _ [] rfl head rfl (by simp) fun id generation same live => ?_
    obtain ⟨rfl, rfl⟩ := Prod.mk.inj (Option.some.inj (bound.symm.trans same))
    exact absurd live dead
  | @parsed id generation parsed rules config rest head live found present =>
    refine .reply _ _ _ rfl head rfl rfl fun id' generation' same _ => ⟨_, rfl, same, ?_⟩
    simp [Task.stage, Reply.stage]
  | workRestore rules head =>
    exact .work _ _ _ rfl head rfl rfl (by simp [Task.continuation])
  | workParse parsed head typed =>
    exact .work _ _ _ rfl head rfl rfl fun x bound =>
      ⟨_, rfl, bound, by simp [Task.stage, Reply.stage]⟩
  | workInstall file head feed =>
    exact .work _ _ _ rfl head rfl rfl fun x bound =>
      ⟨_, rfl, bound, by simp [Task.stage, Reply.stage]⟩
  | workRefuse head =>
    exact .work _ _ _ rfl head rfl rfl fun x bound =>
      ⟨_, rfl, bound, by simp [Task.stage, Reply.stage]⟩
  | workDelete head => exact .work _ _ [] rfl head rfl (by simp) (by simp [Task.continuation])
  | workTemporary head => exact .work _ _ [] rfl head rfl (by simp) (by simp [Task.continuation])
  | @change id config generation changed deletes found named only needed =>
    dsimp only at kept
    split at kept
    · exact absurd kept.symm running
    next other => exact .quiet deletes (if_neg other) rfl rfl

def Served (place : Place) (c d : RefreshCore) : Prop :=
  match place with
  | .loader => d.loader = none
  | .worker => d.worker = c.worker.tail
  | .replies => d.replies = c.replies.tail

theorem not_tail {α : Type} (head : α) (before after more : List α) :
    before ++ head :: after ++ more ≠ (before ++ head :: after).tail := by
  intro same
  have lengths := congrArg List.length same
  simp only [List.length_append, List.length_cons, List.length_tail] at lengths
  omega

theorem at_moves {id : String} {generation : Int} {place : Place}
    {stage ahead : Nat} (queues : Queues c d) (live : c.Live id generation)
    (waiting : At c (id, generation) place stage ahead) :
    ∃ place' stage' ahead', At d (id, generation) place' stage' ahead' /\
      (stage' < stage \/ stage' = stage /\ ahead' < ahead \/
        (place' = place /\ stage' = stage /\ ahead' = ahead) /\ ¬ Served place c d) := by
  cases waiting with
  | loader loading =>
    have kept (same : d.loader = c.loader) :
        ∃ place' stage' ahead', At d (id, generation) place' stage' ahead' /\
          (stage' < 5 \/ stage' = 5 /\ ahead' < 0 \/
            (place' = .loader /\ stage' = 5 /\ ahead' = 0) /\ ¬ Served .loader c d) := by
      refine ⟨.loader, 5, 0, .loader (same.trans loading), .inr (.inr ⟨⟨rfl, rfl, rfl⟩, ?_⟩)⟩
      simp [Served, same, loading]
    cases queues with
    | quiet more loader => exact kept loader
    | work task rest more loader => exact kept loader
    | reply reply rest more loader => exact kept loader
    | arrive x task loading' unloaded worker bound stage replies =>
      obtain rfl := Option.some.inj (loading.symm.trans loading')
      exact ⟨_, _, _, .worker c.worker task [] worker bound, .inl stage⟩
  | worker before task after split bound =>
    have kept (more : List Task) (worker : d.worker = c.worker ++ more) :
        ∃ place' stage' ahead', At d (id, generation) place' stage' ahead' /\
          (stage' < task.stage \/ stage' = task.stage /\ ahead' < before.length \/
            (place' = .worker /\ stage' = task.stage /\ ahead' = before.length) /\
              ¬ Served .worker c d) := by
      refine ⟨_, _, _, .worker before task (after ++ more) (by simp [worker, split]) bound,
        .inr (.inr ⟨⟨rfl, rfl, rfl⟩, ?_⟩)⟩
      rw [Served, worker, split]
      exact not_tail task before after more
    cases queues with
    | quiet more loader worker => exact kept more worker
    | arrive x task loading unloaded worker => exact kept _ worker
    | reply reply rest more loader head replies worker => exact kept more worker
    | work first rest more loader head worker replies next =>
      rw [split] at head
      cases before with
      | nil =>
        obtain ⟨rfl, rfl⟩ := List.cons.inj head
        obtain ⟨reply, rfl, bound', lower⟩ := next _ bound
        exact ⟨_, _, _, .replies c.replies reply [] replies bound', .inl lower⟩
      | cons _ before =>
        obtain ⟨rfl, rfl⟩ := List.cons.inj head
        exact ⟨_, _, _, .worker before task after worker bound,
          .inr (.inl ⟨rfl, by simp⟩)⟩
  | replies before reply after split bound =>
    have kept (more : List RuleSources.Reply) (replies : d.replies = c.replies ++ more) :
        ∃ place' stage' ahead', At d (id, generation) place' stage' ahead' /\
          (stage' < reply.stage \/ stage' = reply.stage /\ ahead' < before.length \/
            (place' = .replies /\ stage' = reply.stage /\ ahead' = before.length) /\
              ¬ Served .replies c d) := by
      refine ⟨_, _, _, .replies before reply (after ++ more) (by simp [replies, split]) bound,
        .inr (.inr ⟨⟨rfl, rfl, rfl⟩, ?_⟩)⟩
      rw [Served, replies, split]
      exact not_tail reply before after more
    cases queues with
    | quiet more loader worker replies => exact kept [] (by simp [replies])
    | arrive x task loading unloaded worker bound stage replies => exact kept [] (by simp [replies])
    | work first rest more loader head worker replies => exact kept more replies
    | reply first rest more loader head replies worker next =>
      rw [split] at head
      cases before with
      | nil =>
        obtain ⟨rfl, rfl⟩ := List.cons.inj head
        obtain ⟨task, rfl, bound', lower⟩ := next id generation bound live
        exact ⟨_, _, _, .worker c.worker task [] worker bound', .inl lower⟩
      | cons _ before =>
        obtain ⟨rfl, rfl⟩ := List.cons.inj head
        exact ⟨_, _, _, .replies before reply after replies bound,
          .inr (.inl ⟨rfl, by simp⟩)⟩

theorem moves_active_view (moves : Moves c d) (inv : c.Inv)
    (running : c.active ≠ "") (kept : d.active = c.active) : d.view c.active = c.view c.active := by
  cases moves with
  | cancel | begin => simp_all
  | add config fresh unused named =>
    obtain ⟨own, generation, found, -⟩ := inv.single running
    refine Function.update_of_ne ?_ _ _
    intro same
    exact fresh (same ▸ (inv.named _ _ _ found).2.2)
  | change changed deletes found named only needed =>
    dsimp only at kept
    split at kept
    · exact absurd kept.symm running
    next other => exact Function.update_of_ne other _ _
  | _ => rfl

theorem live_moves (moves : Moves c d) (inv : c.Inv) {id : String}
    {generation : Int} (live : c.Live id generation) (kept : d.active = c.active) :
    d.Live id generation := by
  obtain ⟨rfl, wanted, config, found, enabled⟩ := live
  have running := (inv.named _ _ _ found).1
  have view := moves_active_view moves inv running kept
  obtain ⟨config', generation', -, -, wanted', -⟩ := (moves_inv moves inv).single (kept ▸ running)
  exact ⟨kept, by omega, config, view.trans found, enabled⟩

theorem moves_stops (moves : Moves c d) (running : c.active ≠ "") :
    d.active = c.active ∨ d.active = "" := by
  cases moves with
  | begin found enabled wanted resting => exact absurd resting running
  | cancel | abort | finish => exact .inr rfl
  | change changed deletes found named only needed =>
    dsimp only
    split
    · exact .inr rfl
    · exact .inl rfl
  | _ => exact .inl rfl

end RefreshCore

namespace SourcesHost

open RefreshCore

variable (platform : SubscriptionPlatform)

/-- An endless run of the sources of one profile. -/
structure Run where
  state : ℕ → SourcesHost
  op : ℕ → SourcesOp
  step : ∀ n, SourcesHost.step platform (state n) (op n) (state (n + 1))

/-- Downloads end, the worker keeps running its tasks, and its replies keep arriving. -/
structure Run.Fair {platform : SubscriptionPlatform} (run : Run platform) : Prop where
  downloads : ∀ n, ∃ m, n ≤ m ∧ ((run.state m).sources.loader = none ∨
    ∃ clock arrived, run.op m = .downloaded clock arrived)
  works : ∀ n, ∃ m, n ≤ m ∧ ∃ view, run.op m = .work view
  replies : ∀ n, ∃ m, n ≤ m ∧ ∃ clock, run.op m = .reply clock

variable (s : SourcesHost)

theorem work_pops (view : WorkerView) :
    (s.work platform view).sources.worker = s.sources.worker.tail := by
  unfold work
  split
  next empty => simp [empty]
  next task rest head =>
    rw [head]
    dsimp only
    split
    · rfl
    · rfl
    · split <;> rfl
    · rfl
    · rfl

theorem onParsed_replies (s : RuleSources) (clock : Clock) (id : String) (generation : Int)
    (parsed : ParsedDownload) : (s.onParsed clock id generation parsed).replies = s.replies := by
  unfold onParsed
  split
  · rfl
  · split
    · rw [fail, schedule_eq]
    · split
      · rw [fail, schedule_eq]
      · rfl

theorem onInstalled_replies (s : RuleSources) (clock : Clock) (id : String) (generation : Int)
    (rules : SubscriptionRules) (success : Bool) :
    (s.onInstalled clock id generation rules success).replies = s.replies := by
  unfold onInstalled
  split
  · rfl
  · split
    · rw [fail, schedule_eq]
    · rw [schedule_eq]

theorem reply_pops (clock : Clock) : (s.reply clock).sources.replies = s.sources.replies.tail := by
  unfold reply
  split
  next empty => simp [empty]
  next reply rest head =>
    rw [head]
    dsimp only
    split
    · rw [onRestored, schedule_eq]
      rfl
    · rw [onParsed_replies]
      rfl
    · rw [onInstalled_replies]
      rfl

theorem downloaded_unloads (clock : Clock) (arrived : Bool) (inv : s.core.Inv) :
    (s.downloaded clock arrived).sources.loader = none := by
  unfold downloaded
  split
  next empty => exact empty
  next id generation loading =>
    obtain ⟨entry, found⟩ := current_of_live s.sources id generation (inv.loading_live loading)
    simp only [onDownloaded, found]
    split
    · rw [fail, schedule_eq]
    · rfl

theorem Run.Fair.serves {platform : SubscriptionPlatform} {run : Run platform} (fair : run.Fair)
    (invs : ∀ n, (run.state n).core.Inv) (place : Place) (n : ℕ) :
    ∃ m, n <= m /\ ∀ x stage ahead, At (run.state m).core x place stage ahead ->
      Served place (run.state m).core (run.state (m + 1)).core := by
  cases place with
  | loader =>
    obtain ⟨m, later, unloaded | ⟨clock, arrived, op⟩⟩ := fair.downloads n
    · refine ⟨m, later, fun x stage ahead waiting => ?_⟩
      cases waiting with
      | loader loading => exact absurd (loading.symm.trans unloaded) (by simp)
    · refine ⟨m, later, fun x stage ahead waiting => ?_⟩
      obtain ⟨-, next⟩ := run.step m
      rw [op] at next
      rw [next]
      exact downloaded_unloads (run.state m) clock arrived (invs m)
  | worker =>
    obtain ⟨m, later, view, op⟩ := fair.works n
    refine ⟨m, later, fun x stage ahead waiting => ?_⟩
    obtain ⟨-, next⟩ := run.step m
    rw [op] at next
    rw [next]
    exact work_pops platform (run.state m) view
  | replies =>
    obtain ⟨m, later, clock, op⟩ := fair.replies n
    refine ⟨m, later, fun x stage ahead waiting => ?_⟩
    obtain ⟨-, next⟩ := run.step m
    rw [op] at next
    rw [next]
    exact reply_pops (run.state m) clock

theorem run_moves {platform : SubscriptionPlatform} (run : Run platform)
    (initial : (run.state 0).core.Inv) (n : ℕ) :
    (run.state n).core.Inv /\ Moves (run.state n).core (run.state (n + 1)).core := by
  have moved (n : ℕ) (inv : (run.state n).core.Inv) :
      Moves (run.state n).core (run.state (n + 1)).core := by
    obtain ⟨allowed, next⟩ := run.step n
    rw [next]
    exact next_moves platform (run.state n) (run.op n) allowed inv
  have inv : (run.state n).core.Inv := by
    induction n with
    | zero => exact initial
    | succ n ih => exact RefreshCore.moves_inv (moved n ih) ih
  exact ⟨inv, moved n inv⟩

def Ranked (s : SourcesHost) (rank : ℕ ×ₗ ℕ) : Prop :=
  ∃ id generation place, s.core.Live id generation ∧
    At s.core (id, generation) place (ofLex rank).1 (ofLex rank).2

theorem ranked_step {platform : SubscriptionPlatform} (run : Run platform)
    (initial : (run.state 0).core.Inv) (n : ℕ) {id : String} {generation : Int} {place : Place}
    {rank : ℕ ×ₗ ℕ} (live : (run.state n).core.Live id generation)
    (waiting : At (run.state n).core (id, generation) place (ofLex rank).1 (ofLex rank).2) :
    ((run.state (n + 1)).sources.active = "" ∨
        ∃ rank', rank' < rank /\ Ranked (run.state (n + 1)) rank') \/
      ((run.state (n + 1)).core.Live id generation /\
        At (run.state (n + 1)).core (id, generation) place (ofLex rank).1 (ofLex rank).2 /\
        ¬ Served place (run.state n).core (run.state (n + 1)).core) := by
  obtain ⟨inv, moves⟩ := run_moves run initial n
  have running : (run.state n).core.active ≠ "" := by
    obtain ⟨rfl, -, config, found, -⟩ := live
    exact (inv.named _ _ _ found).1
  rcases moves_stops moves running with kept | stopped
  · have live' := live_moves moves inv live kept
    obtain ⟨place', stage, ahead, waiting', lower | same⟩ :=
      at_moves (moves_queues moves running kept) live waiting
    · exact .inl (.inr ⟨toLex (stage, ahead), Prod.Lex.toLex_lt_toLex.mpr (.inl lower), id,
        generation, place', live', waiting'⟩)
    · rcases same with ⟨same, nearer⟩ | ⟨⟨rfl, rfl, rfl⟩, unserved⟩
      · exact .inl (.inr ⟨toLex (stage, ahead), Prod.Lex.toLex_lt_toLex.mpr (.inr ⟨same, nearer⟩), id,
          generation, place', live', waiting'⟩)
      · exact .inr ⟨live', waiting', unserved⟩
  · exact .inl (.inl stopped)

theorem ranked_falls {platform : SubscriptionPlatform} (run : Run platform) (fair : run.Fair)
    (initial : (run.state 0).core.Inv) (n : ℕ) (rank : ℕ ×ₗ ℕ)
    (ranked : Ranked (run.state n) rank) :
    ∃ m, n ≤ m ∧ ((run.state m).sources.active = "" ∨
      ∃ rank', rank' < rank /\ Ranked (run.state m) rank') := by
  obtain ⟨id, generation, place, live, waiting⟩ := ranked
  obtain ⟨m, later, serves⟩ :=
    fair.serves (fun n => (run_moves run initial n).1) place n
  obtain ⟨k, rfl⟩ := Nat.exists_eq_add_of_le later
  -- Until its queue is served the continuation can only keep its place or come nearer.
  induction k generalizing n with
  | zero =>
    rcases ranked_step run initial n live waiting with done | ⟨-, -, unserved⟩
    · exact ⟨n + 1, by omega, done⟩
    · exact absurd (serves _ _ _ waiting) unserved
  | succ k ih =>
    rcases ranked_step run initial n live waiting with done | ⟨live', waiting', -⟩
    · exact ⟨n + 1, by omega, done⟩
    · have shifted : n + (k + 1) = n + 1 + k := by omega
      rw [shifted] at serves
      obtain ⟨m, later, reached⟩ := ih (n + 1) live' waiting' (by omega) serves
      exact ⟨m, by omega, reached⟩

theorem active_ends {platform : SubscriptionPlatform} (run : Run platform) (fair : run.Fair)
    (initial : (run.state 0).core.Inv) (n : ℕ) :
    ∃ m, n ≤ m ∧ (run.state m).sources.active = "" := by
  by_cases resting : (run.state n).sources.active = ""
  · exact ⟨n, le_rfl, resting⟩
  · obtain ⟨config, generation, found, enabled, wanted, one⟩ :=
      (run_moves run initial n).1.single resting
    have mem : ((run.state n).core.active, generation) ∈ (run.state n).core.continuations := by
      rw [<- List.count_pos_iff, one]
      exact Nat.one_pos
    obtain ⟨place, stage, ahead, waiting⟩ := at_of_mem mem
    have live : (run.state n).core.Live (run.state n).core.active generation :=
      ⟨rfl, by omega, config, found, enabled⟩
    exact eventually_of_rank run.state (fun s => s.sources.active = "") Ranked
      (fun m rank => ranked_falls run fair initial m rank) n (toLex (stage, ahead))
      ⟨_, generation, place, live, waiting⟩

end SourcesHost

end ChromiumHmos.UrlProtection
