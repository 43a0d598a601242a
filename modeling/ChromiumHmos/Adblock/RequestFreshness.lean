import ChromiumHmos.Adblock.PipelineRuns
import ChromiumHmos.Adblock.RequestCheck

set_option autoImplicit false

/-!
# Fresh decisions

The engine and the configuration are those of the revision, so an answer of the current revision is
the current engine's. A check is on its way or its callback has run.
-/

namespace ChromiumHmos.Adblock

open Base Std Transition History
open UrlProtection (GURL UrlLibrary)

structure Continues (pages : Nat → Option String) (first check : Check) : Prop where
  request : check.request = first.request
  owner : check.owner = first.owner
  host : check.host = first.host
  asks : (check.url, check.site, check.type, check.method) =
    (first.url, first.site, first.type, first.method)
  page : (check.page = first.page ∧ check.navigation = first.navigation) ∨
    (check.page = none ∧ ∀ page, first.page = some page → pages page = none)

def FilterEvent.isDecided (request : Nat) : FilterEvent → Bool
  | .decided check _ _ => check.request = request
  | _ => false

def FilterEvent.isDropped (request : Nat) : FilterEvent → Bool
  | .dropped check => check.request = request
  | _ => false

def FilterEvent.settles (request : Nat) (event : FilterEvent) : Bool :=
  event.isDecided request || event.isDropped request

/-- What each callback's run must meet. An empty decision lets the request go on. -/
def FreshEvent (platform : FilterPlatform) (before : List FilterEvent) : FilterEvent → Prop
  | .decided check decision moment =>
    ∃ first, .asked first ∈ before ∧ check.request = first.request ∧
      (decision ≠ {} → moment.active = true ∧ check.revision = moment.revision ∧
        (∃ engine, moment.engine = some engine ∧ decision = FilterSystem.decision platform
          (platform.query engine (FilterSystem.engineQuery platform first))) ∧
        ∀ page navigation, first.page = some page → moment.pages page = some navigation →
          navigation = first.navigation)
  | .dropped check =>
    ∃ first, .asked first ∈ before ∧ check.request = first.request ∧ check.host = first.host
  | .asked _ => True

namespace FilterSystem

def inFlight (s : FilterSystem) : List Check :=
  s.waiting ++ s.tasks.map Prod.snd ++ s.answers.map Prod.snd

def Sound (s : FilterSystem) (check : Check) : Prop :=
  ∃ first, .asked first ∈ s.log ∧ Continues s.pages first check

variable (platform : FilterPlatform)

/-- Kept at every point of a step, with the checks that are still to be asked or answered. -/
structure FilterInv (owed : List Check) (s : FilterSystem) : Prop where
  waits : s.service.initialized → s.waiting = []
  older : ∀ check ∈ owed ++ s.waiting, check.revision ≤ s.revision check.owner
  tasks : ∀ task ∈ s.tasks, task.2.revision ≤ s.revision task.2.owner ∧
    (task.2.revision = s.revision task.2.owner → s.service.engine = some task.1)
  answers : ∀ answer ∈ s.answers, answer.2.revision ≤ s.revision answer.2.owner ∧
    (answer.2.revision = s.revision answer.2.owner → ∃ engine, s.service.engine = some engine ∧
      answer.1 = platform.query engine (engineQuery platform answer.2))
  sound : ∀ check ∈ owed ++ s.inFlight, s.Sound check
  balance : ∀ request, s.log.countP (FilterEvent.settles request) +
    (owed ++ s.inFlight).countP (fun check => check.request = request) =
      if request < s.requests then 1 else 0
  dropped : ∀ check, .dropped check ∈ s.log → s.alive check.host = false
  judged : Throughout (FreshEvent platform) s.log

def AnswerSound (s : FilterSystem) (check : Check) (result : EngineResult) : Prop :=
  check.revision = s.revision check.owner → s.active platform check.owner check.site = true →
    ∃ engine, s.service.engine = some engine ∧
      result = platform.query engine (engineQuery platform check)

section Inv

variable {platform} {s t : FilterSystem} {owed : List Check} {check : Check}

theorem Sound.grown (sound : s.Sound check) (grown : s.log ⊆ t.log)
    (pages : ∀ page, s.pages page = none -> t.pages page = none) : t.Sound check := by
  obtain ⟨first, asked, continues⟩ := sound
  refine ⟨first, grown asked, { continues with page := ?_ }⟩
  exact continues.page.imp_right fun gone => ⟨gone.1, fun page is => pages page (gone.2 page is)⟩

variable {pages : Nat → Option String}

theorem engineQuery_continues {first : Check} (continues : Continues pages first check) :
    engineQuery platform check = engineQuery platform first := by
  have asks := continues.asks
  simp only [Prod.mk.injEq] at asks
  obtain ⟨url, site, type, method⟩ := asks
  rw [engineQuery, engineQuery, url, site, type, method]

theorem FilterInv.settle (inv : FilterInv platform (check :: owed) s) {event : FilterEvent}
    (settles : ∀ request, event.settles request = decide (check.request = request))
    (dropped : ∀ other, event = .dropped other -> s.alive other.host = false)
    (judged : FreshEvent platform s.log event) : FilterInv platform owed (s.note event) := by
  have grown : s.log ⊆ (s.note event).log := List.subset_append_left _ _
  refine ⟨inv.waits, ?_, inv.tasks, inv.answers, ?_, ?_, ?_, inv.judged.snoc judged⟩
  · exact fun other mem => inv.older other (List.mem_cons_of_mem _ mem)
  · exact fun other mem => (inv.sound other (List.mem_cons_of_mem _ mem)).grown grown fun _ => id
  · intro request
    have before := inv.balance request
    change (s.log ++ [_]).countP _ + (owed ++ s.inFlight).countP _ =
      if request < s.requests then 1 else 0
    rw [List.cons_append, List.countP_cons] at before
    rw [List.countP_append, List.countP_singleton, settles]
    omega
  · intro other mem
    rcases List.mem_append.mp mem with mem | mem
    · exact inv.dropped other mem
    · exact dropped other (List.mem_singleton.mp mem).symm

theorem FilterInv.run (inv : FilterInv platform (check :: owed) s) {decision : Decision}
    (fresh : decision ≠ {} -> s.active platform check.owner check.site = true /\
      check.revision = s.revision check.owner /\
      (s.navigationOf check.page).all (· = check.navigation) /\
      ∃ engine, s.service.engine = some engine /\
        decision = FilterSystem.decision platform
          (platform.query engine (engineQuery platform check))) :
    FilterInv platform owed (s.run platform check decision) := by
  refine inv.settle (fun _ => Bool.or_false _) (fun _ same => by cases same) ?_
  obtain ⟨first, asked, continues⟩ := inv.sound check List.mem_cons_self
  refine ⟨first, asked, continues.request, fun applied => ?_⟩
  obtain ⟨active, current, stays, engine, is, made⟩ := fresh applied
  refine ⟨active, current, ⟨engine, is, ?_⟩, fun page navigation from' there => ?_⟩
  · rw [made, engineQuery_continues continues]
  · change s.pages page = some navigation at there
    rcases continues.page with ⟨same, navigation'⟩ | ⟨-, gone⟩
    · rw [same, from'] at stays
      have still : navigation = check.navigation := by
        simpa [navigationOf, there] using stays
      exact still.trans navigation'
    · rw [gone page from'] at there
      cases there

theorem FilterInv.runEmpty (inv : FilterInv platform (check :: owed) s) :
    FilterInv platform owed (s.run platform check {}) :=
  inv.run fun applied => absurd rfl applied

theorem FilterInv.drop (inv : FilterInv platform (check :: owed) s)
    (dead : s.alive check.host = false) : FilterInv platform owed (s.note (.dropped check)) := by
  refine inv.settle (fun _ => Bool.false_or _) (fun _ same => ?_) ?_
  · cases same
    exact dead
  · obtain ⟨first, asked, continues⟩ := inv.sound check List.mem_cons_self
    exact ⟨first, asked, continues.request, continues.host⟩

theorem FilterInv.move (inv : FilterInv platform (check :: owed) s) {waiting : List Check}
    {tasks : List (Engine × Check)}
    (same : ∀ request, (waiting ++ tasks.map Prod.snd).countP (fun c => c.request = request) =
      (s.waiting ++ s.tasks.map Prod.snd).countP (fun c => c.request = request) +
        if check.request = request then 1 else 0)
    (waits : s.service.initialized -> waiting = [])
    (waitings : ∀ other ∈ waiting, other = check \/ other ∈ s.waiting)
    (posted : ∀ task ∈ tasks, task ∈ s.tasks \/
      task.2 = check /\ s.service.engine = some task.1) :
    FilterInv platform owed { s with waiting, tasks } := by
  have found (other : Check) (mem : other ∈ owed ++ inFlight { s with waiting, tasks }) :
      other = check \/ other ∈ owed ++ s.inFlight := by
    simp only [inFlight, List.mem_append, List.mem_map] at mem ⊢
    rcases mem with mem | (mem | ⟨task, mem, rfl⟩) | mem
    · exact .inr (.inl mem)
    · rcases waitings other mem with same | mem
      · exact .inl same
      · exact .inr (.inr (.inl (.inl mem)))
    · rcases posted task mem with mem | ⟨same, -⟩
      · exact .inr (.inr (.inl (.inr ⟨task, mem, rfl⟩)))
      · exact .inl same
    · exact .inr (.inr (.inr mem))
  refine ⟨waits, ?_, ?_, inv.answers, ?_, ?_, inv.dropped, inv.judged⟩
  · intro other mem
    rcases List.mem_append.mp mem with mem | mem
    · exact inv.older other (List.mem_append_left _ (List.mem_cons_of_mem _ mem))
    · rcases waitings other mem with rfl | mem
      · exact inv.older other (List.mem_append_left _ List.mem_cons_self)
      · exact inv.older other (List.mem_append_right _ mem)
  · intro task mem
    rcases posted task mem with mem | ⟨same, engine⟩
    · exact inv.tasks task mem
    · rw [same]
      exact ⟨inv.older check (List.mem_append_left _ List.mem_cons_self), fun _ => engine⟩
  · intro other mem
    rcases found other mem with rfl | mem
    · exact inv.sound other List.mem_cons_self
    · exact inv.sound other (List.mem_cons_of_mem _ mem)
  · intro request
    have before := inv.balance request
    have moved := same request
    change s.log.countP _ + (owed ++ (waiting ++ tasks.map Prod.snd ++ s.answers.map Prod.snd)).countP _ =
      if request < s.requests then 1 else 0
    rw [List.cons_append, List.countP_cons, List.countP_append, inFlight,
      List.countP_append] at before
    rw [List.countP_append, List.countP_append]
    simp only [decide_eq_true_eq] at before
    omega

theorem FilterInv.swap (inv : FilterInv platform (check :: owed) s) {other : Check}
    (request : other.request = check.request) (older : other.revision <= s.revision other.owner)
    (sound : s.Sound other) : FilterInv platform (other :: owed) s := by
  refine { inv with older := ?_, sound := ?_, balance := ?_ }
  · intro c mem
    rcases List.mem_cons.mp mem with rfl | mem
    · exact older
    · exact inv.older c (List.mem_cons_of_mem _ mem)
  · intro c mem
    rcases List.mem_cons.mp mem with rfl | mem
    · exact sound
    · exact inv.sound c (List.mem_cons_of_mem _ mem)
  · intro r
    have before := inv.balance r
    rw [List.cons_append, List.countP_cons] at before ⊢
    rw [request]
    exact before

theorem inactive_of_none (none : s.service.engine = none) (owner : Owner) (site : GURL) :
    s.active platform owner site = false := by
  simp [active, none]

variable {callback : EngineResult → FilterSystem}

theorem FilterInv.query (inv : FilterInv platform (check :: owed) s)
    (back : s.active platform check.owner check.site = false ->
      FilterInv platform owed (callback {})) :
    FilterInv platform owed (s.query platform check callback) := by
  unfold FilterSystem.query
  split
  · next fresh =>
    refine @FilterInv.move _ _ _ _ inv (s.waiting ++ [check]) s.tasks ?_ ?_ ?_ fun task mem => .inl mem
    · intro request
      simp only [List.countP_append, List.countP_singleton, decide_eq_true_eq]
      omega
    · exact fun ready => absurd ready fresh.1
    · intro other mem
      rcases List.mem_append.mp mem with mem | mem
      · exact .inr mem
      · exact .inl (List.mem_singleton.mp mem)
  · split
    · next engine found =>
      split
      · refine @FilterInv.move _ _ _ _ inv s.waiting (s.tasks ++ [(engine, check)]) ?_ inv.waits ?_ ?_
        · intro request
          simp only [List.map_append, List.map_singleton, List.countP_append, List.countP_singleton,
            decide_eq_true_eq]
          omega
        · exact fun other mem => .inr mem
        · intro task mem
          rcases List.mem_append.mp mem with mem | mem
          · exact .inl mem
          · rw [List.mem_singleton.mp mem]
            exact .inr ⟨rfl, found⟩
      next inactive => exact back (Bool.eq_false_iff.mpr inactive)
    next none => exact back (inactive_of_none none _ _)

theorem FilterInv.checkRequest (inv : FilterInv platform (check :: owed) s)
    {callback : Check -> EngineResult -> FilterSystem}
    (stays : (s.navigationOf check.page).all (· = check.navigation))
    (lives : ∀ page, check.page = some page -> (s.pages page).isSome)
    (back : ∀ other, FilterInv platform (other :: owed) s -> other.revision = s.revision other.owner ->
      s.active platform other.owner other.site = false -> FilterInv platform owed (callback other {})) :
    FilterInv platform owed (s.checkRequest platform check callback) := by
  unfold FilterSystem.checkRequest
  split
  · exact inv.runEmpty
  · have swapped : FilterInv platform ({ check with
        navigation := (s.navigationOf check.page).getD "", revision := s.revision check.owner } ::
          owed) s := by
      refine inv.swap rfl le_rfl ?_
      obtain ⟨first, asked, continues⟩ := inv.sound check List.mem_cons_self
      refine ⟨first, asked, continues.request, continues.owner, continues.host, continues.asks, ?_⟩
      cases from' : check.page with
      | none =>
        right
        refine ⟨rfl, fun page is => ?_⟩
        rcases continues.page with ⟨same, -⟩ | ⟨-, gone⟩
        · rw [from', is] at same
          cases same
        · exact gone page is
      | some page =>
        left
        obtain ⟨navigation, there⟩ := Option.isSome_iff_exists.mp (lives page from')
        rcases continues.page with ⟨same, still⟩ | ⟨none, -⟩
        · refine ⟨from'.symm.trans same, ?_⟩
          have now : navigation = check.navigation := by
            simpa [navigationOf, from', there] using stays
          simpa [navigationOf, there] using now.trans still
        · rw [from'] at none
          cases none
    exact swapped.query (back _ swapped rfl)

theorem FilterInv.finish (inv : FilterInv platform (check :: owed) s)
    (current : check.revision = s.revision check.owner)
    (stays : (s.navigationOf check.page).all (· = check.navigation)) {result : EngineResult}
    (answer : AnswerSound platform s check result) :
    FilterInv platform owed (s.finish platform check result) := by
  refine inv.run fun applied => ?_
  have active : s.active platform check.owner check.site = true := by
    by_contra inactive
    exact applied (if_neg inactive)
  obtain ⟨engine, is, made⟩ := answer current active
  exact ⟨active, current, stays, engine, is, by rw [if_pos active, made]⟩

theorem FilterInv.respond (inv : FilterInv platform (check :: owed) s) {result : EngineResult}
    (answer : AnswerSound platform s check result) :
    FilterInv platform owed (s.respond platform check result) := by
  unfold FilterSystem.respond
  split
  next dead => exact inv.drop (by simpa using dead)
  · split
    · exact inv.runEmpty
    · next still =>
      have stays : (s.navigationOf check.page).all (· = check.navigation) := by
        cases there : s.navigationOf check.page with
        | none => rfl
        | some navigation => simpa [there] using still
      split
      · have swapped : FilterInv platform ({ check with
            page := if (s.navigationOf check.page).isSome then check.page else none } :: owed) s := by
          refine inv.swap rfl (inv.older check List.mem_cons_self) ?_
          obtain ⟨first, asked, continues⟩ := inv.sound check List.mem_cons_self
          refine ⟨first, asked, continues.request, continues.owner, continues.host, continues.asks, ?_⟩
          cases there : s.navigationOf check.page with
          | some navigation => exact continues.page
          | none =>
            right
            refine ⟨rfl, fun page is => ?_⟩
            rcases continues.page with ⟨same, -⟩ | ⟨-, gone⟩
            · rw [navigationOf, same, is] at there
              exact there
            · exact gone page is
        refine swapped.checkRequest ?_ ?_ ?_
        · cases there : s.navigationOf check.page with
          | none => rfl
          | some navigation => simpa [there] using stays
        · intro page is
          cases there : s.navigationOf check.page with
          | none => simp [there] at is
          | some navigation =>
            have same : check.page = some page := by simpa [there] using is
            rw [navigationOf, same] at there
            exact Option.isSome_iff_exists.mpr ⟨navigation, there⟩
        · intro other inv' current inactive
          refine inv'.run fun applied => absurd ?_ applied
          rw [if_neg (by simp [inactive])]
      · next current =>
        exact inv.finish (not_not.mp current).symm stays answer

theorem answerSound_empty (inactive : s.active platform check.owner check.site = false) :
    AnswerSound platform s check {} := by
  intro _ active
  rw [inactive] at active
  cases active

open AdblockService (Newer Keeps Feeds)

variable {service : AdblockService}

theorem follow_revision (newer : Newer s.service service) (owner : Owner) :
    s.revision owner <= (s.follow service).revision owner /\
      ((s.follow service).revision owner = s.revision owner ->
        service.engine = s.service.engine) := by
  have later := newer.le
  have engine (same : service.revision = s.service.revision) :
      service.engine = s.service.engine := by
    rcases newer with more | ⟨-, -, engine⟩
    · omega
    · exact engine
  cases owner with
  | profile => exact ⟨later, engine⟩
  | offTheRecord =>
    refine ⟨Nat.le_add_right _ _, fun same => engine ?_⟩
    change s.childRevision + (service.revision - s.service.revision) = s.childRevision at same
    omega

theorem FilterInv.follow (inv : FilterInv platform owed s)
    (newer : Newer s.service service) (waits : service.initialized -> s.waiting = []) :
    FilterInv platform owed (s.follow service) := by
  have grows := follow_revision newer
  refine ⟨waits, ?_, ?_, ?_, inv.sound, inv.balance, inv.dropped, inv.judged⟩
  · exact fun other mem => (inv.older other mem).trans (grows other.owner).1
  · intro task mem
    obtain ⟨older, engine⟩ := inv.tasks task mem
    have grown := grows task.2.owner
    refine ⟨older.trans grown.1, fun current => ?_⟩
    have same := Nat.le_antisymm (current ▸ older) grown.1
    exact (grown.2 same).trans (engine (current.trans same))
  · intro answer mem
    obtain ⟨older, made⟩ := inv.answers answer mem
    have grown := grows answer.2.owner
    refine ⟨older.trans grown.1, fun current => ?_⟩
    have same := Nat.le_antisymm (current ▸ older) grown.1
    obtain ⟨engine, is, result⟩ := made (current.trans same)
    exact ⟨engine, (grown.2 same).trans is, result⟩

theorem FilterInv.empty (inv : FilterInv platform [] s) :
    FilterInv platform s.waiting { s with waiting := [], otherWaiting := 0 } := by
  refine ⟨fun _ => rfl, ?_, inv.tasks, inv.answers, ?_, ?_, inv.dropped, inv.judged⟩
  · intro other mem
    rw [List.append_nil] at mem
    exact inv.older other mem
  · intro other mem
    exact inv.sound other (by simpa [inFlight] using mem)
  · intro request
    rw [<- inv.balance request]
    simp [inFlight]

theorem query_service (check : Check) (kept : (callback {}).service = s.service) :
    (s.query platform check callback).service = s.service := by
  unfold FilterSystem.query
  split
  · rfl
  · split
    · split
      · rfl
      · exact kept
    · exact kept

theorem checkRequest_service (check : Check) {callback : Check -> EngineResult -> FilterSystem}
    (kept : ∀ other, (callback other {}).service = s.service) :
    (s.checkRequest platform check callback).service = s.service := by
  unfold FilterSystem.checkRequest
  split
  · rfl
  · exact query_service _ (kept _)

theorem respond_service (check : Check) (result : EngineResult) :
    (s.respond platform check result).service = s.service := by
  unfold FilterSystem.respond
  split
  · rfl
  · split
    · rfl
    · split
      · exact checkRequest_service _ fun _ => rfl
      · rfl

theorem runChecks_inv (checks : List Check) (inv : FilterInv platform checks s) :
    FilterInv platform [] (checks.foldl (fun s check =>
      s.query platform check (s.respond platform check)) s) /\
    (checks.foldl (fun s check => s.query platform check (s.respond platform check)) s).service =
      s.service := by
  induction checks generalizing s with
  | nil => exact ⟨inv, rfl⟩
  | cons check rest ih =>
    have asked : FilterInv platform rest
        (s.query platform check (s.respond platform check)) :=
      inv.query fun inactive => inv.respond (answerSound_empty inactive)
    obtain ⟨done, service⟩ := ih asked
    exact ⟨done, service.trans (query_service check (respond_service check {}))⟩

theorem runWaiting_inv (inv : FilterInv platform [] s) (newer : Newer s.service service) :
    FilterInv platform [] ((s.follow service).runWaiting platform) /\
      ((s.follow service).runWaiting platform).service = service := by
  have emptied : FilterInv platform s.waiting
      ({ s with waiting := [], otherWaiting := 0 }.follow service) :=
    inv.empty.follow newer fun _ => rfl
  exact runChecks_inv s.waiting emptied

theorem serve_inv (inv : FilterInv platform [] s) (op : ServiceOp) :
    FilterInv platform [] (s.serve platform op) := by
  have quiet (feeds : Feeds s.service (s.service.next platform.toAdblockPlatform op)) :
      FilterInv platform [] (s.follow (s.service.next platform.toAdblockPlatform op)) :=
    inv.follow feeds.newer fun ready => inv.waits (feeds.initialized ▸ ready)
  cases op with
  | receive now =>
    unfold serve
    split
    · next job compiled rest is replies =>
      cases is
      obtain ⟨-, told⟩ := AdblockService.feeds_told s.service rest job compiled now
      have newer : Newer s.service (s.service.told rest job compiled now) :=
        .inl (told ▸ Nat.lt_succ_self _)
      obtain ⟨ran, service⟩ := runWaiting_inv inv newer
      have after := AdblockService.feeds_after s.service rest job compiled now
      have receives : s.service.next platform.toAdblockPlatform (.receive now) =
          { s.service with replies := rest }.installed job compiled now := by
        rw [AdblockService.next, AdblockService.receive, replies]
      rw [receives]
      refine ran.follow ?_ fun _ => ran.waits ?_ <;> rw [service]
      · exact after.newer
      · exact (AdblockService.told_frame s.service rest job compiled now).1
    · next none =>
      have empty : s.service.replies = [] := by
        cases replies : s.service.replies with
        | nil => rfl
        | cons reply rest => exact absurd replies (none now reply.1 reply.2 rest rfl)
      have same : s.service.next platform.toAdblockPlatform (.receive now) = s.service := by
        rw [AdblockService.next, AdblockService.receive, empty]
      rw [same]
      exact inv.follow (.inr ⟨rfl, rfl, rfl⟩) inv.waits
  | work a =>
    obtain ⟨-, initialized, newer⟩ :=
      AdblockService.work_kept platform.toAdblockPlatform s.service a
    exact inv.follow newer fun ready => inv.waits (initialized ▸ ready)
  | _ => exact quiet (AdblockService.feeds_next _ (by simp) (by simp))

theorem overrideSite_inv (inv : FilterInv platform [] s) (url : GURL) (enabled : Bool) :
    FilterInv platform [] (s.overrideSite platform url enabled) := by
  unfold overrideSite
  dsimp only
  split
  · exact inv
  · have grows (owner : Owner) : s.revision owner <= revision { s with
        siteOverrides := s.siteOverrides.insert (platform.hostOf url) enabled
        childRevision := s.childRevision + 1 } owner := by
      cases owner with
      | profile => exact le_rfl
      | offTheRecord => exact Nat.le_succ _
    refine { inv with older := ?_, tasks := ?_, answers := ?_ }
    · exact fun other mem => (inv.older other mem).trans (grows other.owner)
    · intro task mem
      obtain ⟨older, engine⟩ := inv.tasks task mem
      refine ⟨older.trans (grows _), fun current => engine ?_⟩
      exact Nat.le_antisymm older (current ▸ grows _)
    · intro answer mem
      obtain ⟨older, made⟩ := inv.answers answer mem
      refine ⟨older.trans (grows _), fun current => made ?_⟩
      exact Nat.le_antisymm older (current ▸ grows _)

theorem pages_inv (inv : FilterInv platform [] s)
    (gone : ∀ page, s.pages page = none -> pages page = none) :
    FilterInv platform [] { s with pages } := by
  refine { inv with sound := fun check mem => ?_ }
  exact (inv.sound check mem).grown (fun _ => id) gone

theorem ask_inv (inv : FilterInv platform [] s) {check : Check}
    (lives : ∀ page, check.page = some page -> (s.pages page).isSome) :
    FilterInv platform [] (s.ask platform check) := by
  let first : Check := { check with
    request := s.requests
    navigation := (s.navigationOf check.page).getD ""
    revision := s.revision check.owner }
  let s' : FilterSystem := { s with requests := s.requests + 1 }.note (.asked first)
  have grown : s.log ⊆ s'.log := List.subset_append_left _ _
  have asked : FilterInv platform [first] s' := by
    refine ⟨inv.waits, ?_, inv.tasks, inv.answers, ?_, ?_, ?_, inv.judged.snoc trivial⟩
    · intro other mem
      rcases List.mem_cons.mp mem with rfl | mem
      · exact le_rfl
      · exact inv.older other mem
    · intro other mem
      rcases List.mem_cons.mp mem with rfl | mem
      · exact ⟨first, List.mem_append_right _ (List.mem_singleton_self _), rfl, rfl, rfl, rfl,
          .inl ⟨rfl, rfl⟩⟩
      · exact (inv.sound other mem).grown grown fun _ => id
    · intro request
      have before := inv.balance request
      have self : (FilterEvent.asked first).settles request = false := rfl
      change (s.log ++ [_]).countP _ + ([first] ++ s.inFlight).countP _ =
        if request < s.requests + 1 then 1 else 0
      rw [List.nil_append] at before
      rw [List.countP_append, List.countP_singleton, self, List.countP_append, List.countP_singleton]
      simp only [Bool.false_eq_true, if_false, decide_eq_true_eq]
      change _ + ((if s.requests = request then 1 else 0) + _) = _
      split at before <;> split <;> split <;> omega
    · intro other mem
      rcases List.mem_append.mp mem with mem | mem
      · exact inv.dropped other mem
      · cases List.mem_singleton.mp mem
  refine asked.checkRequest ?_ lives fun other inv' _ inactive =>
    inv'.respond (answerSound_empty inactive)
  change (s.navigationOf check.page).all (· = (s.navigationOf check.page).getD "")
  cases s.navigationOf check.page <;> simp

theorem find_split {α : Type*} {p : α -> Bool} {l : List α} {a : α} (found : l.find? p = some a) :
    ∃ front back, l = front ++ a :: back /\ l.eraseP p = front ++ back := by
  obtain ⟨hit, front, back, rfl, misses⟩ := List.find?_eq_some_iff_append.mp found
  refine ⟨front, back, rfl, ?_⟩
  rw [List.eraseP_append_right _ fun b mem => by simpa using misses b mem,
    List.eraseP_cons_of_pos hit]

theorem answer_inv (inv : FilterInv platform [] s) (request : Nat) :
    FilterInv platform [] (s.answer platform request) := by
  unfold answer
  split
  · exact inv
  · next engine check found =>
    obtain ⟨front, back, tasks, erased⟩ := find_split found
    have mem : (engine, check) ∈ s.tasks := by simp [tasks]
    have sub (task : Engine × Check) (there : task ∈ front ++ back) : task ∈ s.tasks := by
      rw [tasks]
      simp only [List.mem_append, List.mem_cons] at there ⊢
      tauto
    rw [erased]
    refine { inv with tasks := ?_, answers := ?_, sound := ?_, balance := ?_ }
    · exact fun task there => inv.tasks task (sub task there)
    · intro answer there
      rcases List.mem_append.mp there with there | there
      · exact inv.answers answer there
      · rw [List.mem_singleton.mp there]
        obtain ⟨older, is⟩ := inv.tasks _ mem
        exact ⟨older, fun current => ⟨engine, is current, rfl⟩⟩
    · intro other there
      apply inv.sound
      simp only [inFlight, tasks, List.nil_append, List.mem_append, List.map_append, List.map_cons,
        List.mem_cons, List.map_nil, List.not_mem_nil, or_false] at there ⊢
      tauto
    · intro request
      rw [<- inv.balance request]
      simp only [inFlight, tasks, List.nil_append, List.map_append, List.map_cons, List.map_nil,
        List.countP_append, List.countP_cons, List.countP_nil]
      omega

theorem deliver_inv (inv : FilterInv platform [] s) (request : Nat) :
    FilterInv platform [] (s.deliver platform request) := by
  unfold deliver
  split
  · exact inv
  · next result check found =>
    obtain ⟨front, back, answers, erased⟩ := find_split found
    have mem : (result, check) ∈ s.answers := by simp [answers]
    have sub (answer : EngineResult × Check) (there : answer ∈ front ++ back) :
        answer ∈ s.answers := by
      rw [answers]
      simp only [List.mem_append, List.mem_cons] at there ⊢
      tauto
    rw [erased]
    obtain ⟨older, made⟩ := inv.answers _ mem
    have taken : FilterInv platform [check] { s with answers := front ++ back } := by
      refine { inv with older := ?_, answers := ?_, sound := ?_, balance := ?_ }
      · intro other there
        rcases List.mem_cons.mp there with rfl | there
        · exact older
        · exact inv.older other there
      · exact fun answer there => inv.answers answer (sub answer there)
      · intro other there
        apply inv.sound
        simp only [inFlight, answers, List.cons_append, List.nil_append, List.mem_append,
          List.map_append, List.map_cons, List.mem_cons] at there ⊢
        tauto
      · intro request
        rw [<- inv.balance request]
        simp only [inFlight, answers, List.cons_append, List.nil_append, List.map_append,
          List.map_cons, List.countP_append, List.countP_cons]
        omega
    exact taken.respond fun current _ => made current

theorem construct_inv (context : String) (disk : Option DictValue) :
    FilterInv platform [] (construct context disk) := by
  refine ⟨fun _ => rfl, ?_, ?_, ?_, ?_, fun _ => rfl, ?_, .nil _⟩ <;>
  · intro _ mem
    cases mem

theorem next_inv (inv : FilterInv platform [] s) {op : FilterOp} (permitted : s.permitted op) :
    FilterInv platform [] (s.next platform op) := by
  cases op with
  | service op => exact serve_inv inv op
  | overrideSite url enabled => exact overrideSite_inv inv url enabled
  | check check => exact ask_inv inv permitted.2
  | otherQuery =>
    rw [next]
    split
    · exact inv
    · exact { inv with }
  | answer request => exact answer_inv inv request
  | deliver request => exact deliver_inv inv request
  | navigate page navigation =>
    refine pages_inv inv fun other gone => ?_
    have lives : (s.pages page).isSome := permitted
    rw [Function.update_apply]
    split
    · next same =>
      rw [<- same, gone] at lives
      cases lives
    · exact gone
  | destroyPage page =>
    refine pages_inv inv fun other gone => ?_
    rw [Function.update_apply]
    split
    · rfl
    · exact gone
  | destroyHost host =>
    refine { inv with dropped := fun check mem => ?_ }
    change Function.update s.alive host false check.host = false
    rw [Function.update_apply]
    split
    · rfl
    · exact inv.dropped check mem

end Inv

end FilterSystem

end ChromiumHmos.Adblock
