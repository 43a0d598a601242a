import ChromiumHmos.Ozone.GpuChildChannel

set_option autoImplicit false

namespace ChromiumHmos.Ozone

open Std Transition OrderedMap

namespace GpuChannel

def generationOf (c : GpuChannel) (child : ChildId) : Option Nat :=
  (c.children child).outputGeneration

/-- A capability in force was reported by the child of the current generation, and the installed
recipient watches that child. -/
structure Observed (c : GpuChannel) (output : Output) (recipient : DeathRecipient) : Prop where
  reporter : c.generationOf output.reporter = some c.side.outputGeneration
  installed : c.side.deathRecipient = some recipient
  child : recipient.child = output.reporter
  generation : recipient.generation = c.side.outputGeneration
  watching : recipient ∈ c.observers

def Behind (c : GpuChannel) : Prop :=
  ∀ old, c.side.deathRecipient = some old → old.generation < c.side.outputGeneration

def LaunchValid (c : GpuChannel) : Prop :=
  match c.launch with
  | .idle => True
  | .starting generation _ => Behind c ∧ generation = c.side.outputGeneration ∧
      ∀ child, c.generationOf child ≠ some generation
  | .bootstrapped child generation wantsVulkan => Behind c ∧
      (wantsVulkan → c.generationOf child = some generation) ∧
      ∀ old, c.side.deathRecipient = some old → old.child ≠ child
  | .observed _ recipient => Behind c ∧ ∀ new, recipient = some new →
      c.generationOf new.child = some new.generation ∧
      (new.generation = c.side.outputGeneration → new ∈ c.observers) ∧
      c.side.deathRecipient ≠ some new
  | .installed _ oldRecipient => ∀ old, oldRecipient = some old → c.side.deathRecipient ≠ some old

structure OutputInv (c : GpuChannel) : Prop where
  bounded : ∀ child generation, c.generationOf child = some generation →
    child < c.nextChild ∧ generation ≤ c.side.outputGeneration
  unique : ∀ child other generation, c.generationOf child = some generation →
    c.generationOf other = some generation → child = other
  observers : ∀ recipient ∈ c.observers, c.generationOf recipient.child = some recipient.generation
  recipient : ∀ recipient, c.side.deathRecipient = some recipient →
    c.generationOf recipient.child = some recipient.generation ∧
      (recipient.generation = c.side.outputGeneration → recipient ∈ c.observers)
  launch : LaunchValid c
  valid : ∀ (widget : AcceleratedWidget) (output : Output), c.outputs[widget]? = some output →
    ∃ recipient, Observed c output recipient

structure OutputFrame (c t : GpuChannel) : Prop where
  generations : ∀ child : ChildId, t.generationOf child = c.generationOf child
  nextChild : t.nextChild = c.nextChild
  outputGeneration : t.side.outputGeneration = c.side.outputGeneration
  deathRecipient : t.side.deathRecipient = c.side.deathRecipient
  launch : t.launch = c.launch
  observers : t.observers = c.observers
  outputs : t.outputs = c.outputs

variable {c : GpuChannel}

theorem OutputInv.framed {t : GpuChannel} (inv : OutputInv c) (frame : OutputFrame c t) :
    OutputInv t := by
  obtain ⟨generations, nextChild, outputGeneration, deathRecipient, launch, observers, outputs⟩ :=
    frame
  constructor
  · simp only [generations, nextChild, outputGeneration]
    exact inv.bounded
  · simp only [generations]
    exact inv.unique
  · simp only [generations, observers]
    exact inv.observers
  · simp only [generations, observers, outputGeneration, deathRecipient]
    exact inv.recipient
  · simp only [LaunchValid, Behind, launch, generations, observers, outputGeneration, deathRecipient]
    exact inv.launch
  · intro widget output found
    rw [outputs] at found
    obtain ⟨recipient, watched⟩ := inv.valid widget output found
    exact ⟨recipient, by rw [generations, outputGeneration]; exact watched.reporter,
      by rw [deathRecipient]; exact watched.installed, watched.child,
      by rw [outputGeneration]; exact watched.generation,
      by rw [observers]; exact watched.watching⟩

theorem forward_frame (c : GpuChannel) (deliver : AcceleratedWidget -> Delivery) :
    OutputFrame c (c.forwardOhosSurfacesToGpuChild deliver) := by
  unfold forwardOhosSurfacesToGpuChild
  split
  · exact ⟨fun _ => rfl, rfl, rfl, rfl, rfl, rfl, rfl⟩
  · refine ⟨fun child => ?_, rfl, rfl, rfl, rfl, rfl, rfl⟩
    simp only [generationOf, updateMirror, Function.update_apply]
    split
    · rename_i same
      rw [same]
    · rfl

theorem OutputInv.launched (inv : OutputInv c) (launch : Launch)
    (valid : LaunchValid { c with launch }) : OutputInv { c with launch } := by
  refine { inv with launch := valid, valid := ?_ }
  intro widget output found
  obtain ⟨recipient, watched⟩ := inv.valid widget output found
  exact ⟨recipient, { watched with }⟩

theorem OutputInv.none_in_force (inv : OutputInv c) (behind : Behind c)
    (widget : AcceleratedWidget) : c.outputs[widget]? = none := by
  cases found : c.outputs[widget]? with
  | none => rfl
  | some output =>
    obtain ⟨recipient, watched⟩ := inv.valid widget output found
    exact absurd watched.generation (behind recipient watched.installed).ne

theorem start_inv (c : GpuChannel) (wantsVulkan : Bool) (inv : OutputInv c) :
    OutputInv (c.startGpuChild wantsVulkan) where
  bounded := fun child generation born =>
    ⟨(inv.bounded child generation born).1, (inv.bounded child generation born).2.trans (Nat.le_succ _)⟩
  unique := inv.unique
  observers := inv.observers
  recipient := by
    intro recipient installed
    obtain ⟨born, -⟩ := inv.recipient recipient installed
    refine ⟨born, fun current => ?_⟩
    exact absurd (current ▸ (inv.bounded _ _ born).2) (Nat.not_succ_le_self _)
  launch := by
    refine ⟨fun old installed => ?_, rfl, fun child born => ?_⟩
    · exact Nat.lt_succ_of_le (inv.bounded _ _ (inv.recipient old installed).1).2
    · exact absurd (inv.bounded child _ born).2 (Nat.not_succ_le_self _)
  valid := by
    intro widget output found
    simp [startGpuChild, resetOhosVerifiedWsiOutputs] at found

theorem bootstrap_inv (c : GpuChannel) (handled answered : Bool) (inv : OutputInv c)
    (allowed : c.permitted (.bootstrap handled answered)) :
    OutputInv (c.sendBootstrap handled answered) := by
  obtain ⟨generation, wantsVulkan, starting⟩ := allowed
  have launch := inv.launch
  simp only [LaunchValid, starting] at launch
  obtain ⟨behind, rfl, unborn⟩ := launch
  have generations : ∀ child, (c.sendBootstrap handled answered).generationOf child =
      if child = c.nextChild then
        if handled && wantsVulkan then some c.side.outputGeneration else none
      else c.generationOf child := by
    intro child
    simp only [sendBootstrap, starting, generationOf, Function.update_apply]
    split <;> rfl
  have kept : ∀ child generation, c.generationOf child = some generation ->
      (c.sendBootstrap handled answered).generationOf child = some generation := by
    intro child generation born
    rw [generations, if_neg (inv.bounded child generation born).1.ne, born]
  have cases_ : ∀ child generation,
      (c.sendBootstrap handled answered).generationOf child = some generation ->
      (child = c.nextChild /\ generation = c.side.outputGeneration) \/
        c.generationOf child = some generation := by
    intro child generation born
    rw [generations] at born
    split at born
    · split at born
      · exact .inl ⟨‹_›, (Option.some.inj born).symm⟩
      · contradiction
    · exact .inr born
  have side : (c.sendBootstrap handled answered).side = c.side := by
    simp only [sendBootstrap, starting]
  have observers : (c.sendBootstrap handled answered).observers = c.observers := by
    simp only [sendBootstrap, starting]
  have nextChild : (c.sendBootstrap handled answered).nextChild = c.nextChild + 1 := by
    simp only [sendBootstrap, starting]
  constructor
  · intro child generation born
    rw [nextChild, side]
    rcases cases_ child generation born with ⟨rfl, rfl⟩ | earlier
    · exact ⟨Nat.lt_succ_self _, le_rfl⟩
    · exact ⟨(inv.bounded _ _ earlier).1.trans (Nat.lt_succ_self _), (inv.bounded _ _ earlier).2⟩
  · intro child other generation born born'
    rcases cases_ child generation born with ⟨rfl, rfl⟩ | earlier
    · rcases cases_ other _ born' with ⟨rfl, -⟩ | earlier'
      · rfl
      · exact absurd earlier' (unborn other)
    · rcases cases_ other generation born' with ⟨rfl, rfl⟩ | earlier'
      · exact absurd earlier (unborn child)
      · exact inv.unique child other generation earlier earlier'
  · rw [observers]
    exact fun recipient mem => kept _ _ (inv.observers recipient mem)
  · rw [side, observers]
    intro recipient installed
    exact ⟨kept _ _ (inv.recipient recipient installed).1, (inv.recipient recipient installed).2⟩
  · have launch : (c.sendBootstrap handled answered).launch =
        if handled && answered then
          .bootstrapped c.nextChild c.side.outputGeneration wantsVulkan else .idle := by
      simp only [sendBootstrap, starting]
    unfold LaunchValid
    rw [launch]
    by_cases accepted : handled && answered
    · rw [if_pos accepted]
      have arrived := (Bool.and_eq_true_iff.mp accepted).1
      refine ⟨by rw [Behind, side]; exact behind, fun vulkan => ?_, ?_⟩
      · rw [generations, if_pos rfl, arrived, vulkan]
        rfl
      · rw [side]
        intro old installed same
        exact absurd (inv.bounded _ _ (inv.recipient old installed).1).1 (by simp [same])
    · rw [if_neg accepted]
      trivial
  · intro widget output found
    have outputs : (c.sendBootstrap handled answered).outputs = c.outputs := by
      simp only [sendBootstrap, starting]
    rw [outputs, inv.none_in_force behind] at found
    contradiction

theorem observe_inv (c : GpuChannel) (added : Bool) (inv : OutputInv c)
    (allowed : c.permitted (.observe added)) : OutputInv (c.observeDeath added) := by
  obtain ⟨child, generation, wantsVulkan, booted⟩ := allowed
  have launch := inv.launch
  simp only [LaunchValid, booted] at launch
  obtain ⟨behind, born, apart⟩ := launch
  simp only [observeDeath, booted]
  by_cases watched : wantsVulkan && added
  · rw [if_pos watched]
    have new := born (Bool.and_eq_true_iff.mp watched).1
    refine ⟨inv.bounded, inv.unique, ?_, ?_, ?_, ?_⟩
    · intro recipient mem
      rcases List.mem_cons.mp mem with rfl | mem
      · exact new
      · exact inv.observers recipient mem
    · intro recipient installed
      exact ⟨(inv.recipient recipient installed).1,
        fun current => List.mem_cons_of_mem _ ((inv.recipient recipient installed).2 current)⟩
    · refine ⟨behind, ?_⟩
      rintro _ ⟨⟩
      exact ⟨new, fun _ => List.mem_cons_self, fun installed => apart _ installed rfl⟩
    · intro widget output found
      dsimp only at found
      rw [inv.none_in_force behind] at found
      contradiction
  · rw [if_neg watched]
    exact inv.launched _ ⟨behind, by simp⟩

theorem install_inv (c : GpuChannel) (inv : OutputInv c) (allowed : c.permitted .install) :
    OutputInv c.installChild := by
  obtain ⟨child, recipient, observed⟩ := allowed
  have launch := inv.launch
  simp only [LaunchValid, observed] at launch
  obtain ⟨behind, watched⟩ := launch
  simp only [installChild, observed]
  refine ⟨inv.bounded, inv.unique, inv.observers, ?_, ?_, ?_⟩
  · intro new installed
    exact ⟨(watched new installed).1, (watched new installed).2.1⟩
  · intro old was installed
    exact (watched old installed).2.2 was
  · intro widget output found
    dsimp only at found
    rw [inv.none_in_force behind] at found
    contradiction

theorem OutputInv.unwatch (inv : OutputInv c) (old : DeathRecipient)
    (stale : ∀ recipient, c.side.deathRecipient = some recipient ->
      recipient.generation = c.side.outputGeneration -> recipient ≠ old)
    (launch : LaunchValid { c with observers := c.observers.erase old }) :
    OutputInv { c with observers := c.observers.erase old } where
  bounded := inv.bounded
  unique := inv.unique
  observers := fun recipient mem => inv.observers recipient (List.mem_of_mem_erase mem)
  recipient := by
    intro recipient installed
    obtain ⟨born, watching⟩ := inv.recipient recipient installed
    exact ⟨born, fun current =>
      (List.mem_erase_of_ne (stale recipient installed current)).mpr (watching current)⟩
  launch := launch
  valid := by
    intro widget output found
    obtain ⟨recipient, watched⟩ := inv.valid widget output found
    have other := stale recipient watched.installed watched.generation
    exact ⟨recipient, watched.reporter, watched.installed, watched.child, watched.generation,
      (List.mem_erase_of_ne other).mpr watched.watching⟩

theorem retire_inv (c : GpuChannel) (inv : OutputInv c) (allowed : c.permitted .retire) :
    OutputInv c.retireChild := by
  obtain ⟨oldProxy, oldRecipient, installed⟩ := allowed
  have launch := inv.launch
  simp only [LaunchValid, installed] at launch
  have idle := inv.launched .idle trivial
  cases oldProxy with
  | none => simpa only [retireChild, installed] using idle
  | some proxy =>
    cases oldRecipient with
    | none => simpa only [retireChild, installed] using idle
    | some old =>
      simp only [retireChild, installed]
      refine idle.unwatch old ?_ trivial
      rintro recipient current - rfl
      exact launch recipient rfl current

/-- A capability the browser grants is one the installed recipient answers for. -/
def reportsWatched (c : GpuChannel) : ChannelEvent → Prop
  | .report child _ hdr p3 => (hdr ≠ 0 ∨ p3 ≠ 0) →
      c.generationOf child = some c.side.outputGeneration →
      ∀ recipient, c.side.deathRecipient = some recipient →
        recipient.generation = c.side.outputGeneration
  | _ => True

theorem OutputInv.granted (inv : OutputInv c) (outputs : ExtTreeMap AcceleratedWidget Output)
    (granted : ∀ (widget : AcceleratedWidget) (output : Output), outputs[widget]? = some output ->
      c.outputs[widget]? = some output \/ ∃ recipient, Observed c output recipient) :
    OutputInv { c with outputs } := by
  refine { inv with valid := ?_ }
  intro widget output found
  have watched : ∃ recipient, Observed c output recipient := by
    rcases granted widget output found with old | new
    · exact inv.valid widget output old
    · exact new
  obtain ⟨recipient, watched⟩ := watched
  exact ⟨recipient, { watched with }⟩

theorem OutputInv.revoked (inv : OutputInv c) (failed : Bool) :
    OutputInv ({ c with side := { c.side with outputFailed := failed } }.resetOhosVerifiedWsiOutputs) := by
  refine { inv with valid := ?_ }
  intro widget output found
  simp [resetOhosVerifiedWsiOutputs] at found

theorem report_inv (c : GpuChannel) (child : ChildId) (generation : Nat) (widget hdr p3 : Int)
    (inv : OutputInv c) (known : c.generationOf child = some generation)
    (watched : reportsWatched c (.report child widget hdr p3)) :
    OutputInv (c.onOutputCapabilities child generation widget hdr p3).1 := by
  unfold onOutputCapabilities
  split
  · exact inv
  split
  · exact inv
  split
  · exact inv.revoked true
  rename_i current _
  have generation_eq : generation = c.side.outputGeneration := by
    by_contra other
    exact current (.inr (by exact_mod_cast other))
  dsimp only
  split
  · exact inv
  rename_i accepted
  unfold setOhosVerifiedWsiOutput
  split
  · rename_i positive
    have asked : hdr ≠ 0 \/ p3 ≠ 0 := by simpa using positive
    -- The report gets through only past the check of the recipient.
    have installed : c.side.deathRecipient ≠ none := fun none => accepted ⟨asked, .inr (.inl none)⟩
    obtain ⟨recipient, found⟩ := Option.ne_none_iff_exists'.mp installed
    have latest := watched asked (generation_eq ▸ known) recipient found
    obtain ⟨born, watching⟩ := inv.recipient recipient found
    refine inv.granted _ fun key output new => ?_
    rcases (getElem?_insert_some _ _ _ _ _).mp new with ⟨-, rfl⟩ | ⟨-, old⟩
    · exact .inr ⟨recipient, generation_eq ▸ known, found,
        inv.unique _ _ _ born (by rw [known, generation_eq, latest]), latest, watching latest⟩
    · exact .inl old
  · refine inv.granted _ fun key output left => .inl ?_
    exact ((getElem?_erase_some _ _ _ _).mp left).2

theorem notify_inv (c : GpuChannel) (recipient : DeathRecipient) (inv : OutputInv c)
    (allowed : c.permitted (.notify recipient)) : OutputInv (c.next (.notify recipient)) := by
  have born := inv.observers recipient allowed.1
  have known := inv.launch
  simp only [next, onGpuOutputDied]
  by_cases current : recipient.generation = c.side.outputGeneration
  · rw [if_pos current]
    have above : ∀ child, c.generationOf child ≠ some (c.side.outputGeneration + 1) :=
      fun child late => absurd (inv.bounded child _ late).2 (Nat.not_succ_le_self _)
    refine ⟨?_, inv.unique, ?_, ?_, ?_, ?_⟩
    · intro child generation older
      exact ⟨(inv.bounded child generation older).1,
        (inv.bounded child generation older).2.trans (Nat.le_succ _)⟩
    · exact fun other mem => inv.observers other (List.mem_of_mem_erase mem)
    · intro other installed
      obtain ⟨older, -⟩ := inv.recipient other installed
      exact ⟨older, fun latest => absurd (latest ▸ older) (above _)⟩
    · unfold LaunchValid at known ⊢
      have behind : Behind c -> ∀ old, c.side.deathRecipient = some old ->
          old.generation < c.side.outputGeneration + 1 :=
        fun behind old installed => (behind old installed).trans (Nat.lt_succ_self _)
      dsimp only [resetOhosVerifiedWsiOutputs]
      cases launch : c.launch with
      | idle => trivial
      | starting generation wantsVulkan =>
        rw [launch] at known
        obtain ⟨-, rfl, unborn⟩ := known
        exact absurd (current ▸ born) (unborn _)
      | bootstrapped child generation wantsVulkan =>
        rw [launch] at known
        exact ⟨behind known.1, known.2⟩
      | observed child new =>
        rw [launch] at known
        refine ⟨behind known.1, fun pending same => ?_⟩
        obtain ⟨older, -, apart⟩ := known.2 pending same
        exact ⟨older, fun latest => absurd (latest ▸ older) (above _), apart⟩
      | installed oldProxy oldRecipient =>
        rw [launch] at known
        exact known
    · intro widget output found
      simp [resetOhosVerifiedWsiOutputs] at found
  · rw [if_neg current]
    refine inv.unwatch recipient ?_ ?_
    · rintro other - latest rfl
      exact current latest
    · unfold LaunchValid at known ⊢
      dsimp only
      cases launch : c.launch with
      | idle => trivial
      | starting generation wantsVulkan =>
        rw [launch] at known
        exact known
      | bootstrapped child generation wantsVulkan =>
        rw [launch] at known
        exact known
      | observed child new =>
        rw [launch] at known
        refine ⟨known.1, fun pending same => ?_⟩
        obtain ⟨older, watching, apart⟩ := known.2 pending same
        refine ⟨older, fun latest => ?_, apart⟩
        refine (List.mem_erase_of_ne ?_).mpr (watching latest)
        rintro rfl
        exact current latest
      | installed oldProxy oldRecipient =>
        rw [launch] at known
        exact known

theorem next_inv (c : GpuChannel) (event : ChannelEvent) (inv : OutputInv c)
    (allowed : c.permitted event) (watched : reportsWatched c event) : OutputInv (c.next event) := by
  cases event with
  | registry call => exact inv.framed ⟨fun _ => rfl, rfl, rfl, rfl, rfl, rfl, rfl⟩
  | forward deliver => exact inv.framed (forward_frame c deliver)
  | start wantsVulkan => exact start_inv c wantsVulkan inv
  | startFailed => exact inv.launched .idle trivial
  | bootstrap handled answered => exact bootstrap_inv c handled answered inv allowed
  | observe added => exact observe_inv c added inv allowed
  | install => exact install_inv c inv allowed
  | retire => exact retire_inv c inv allowed
  | report child widget hdr p3 =>
    cases known : (c.children child).outputGeneration with
    | none => simpa only [next, known] using inv
    | some generation =>
      simpa only [next, known] using
        report_inv c child generation widget hdr p3 inv known watched
  | die child => exact inv.framed ⟨fun _ => rfl, rfl, rfl, rfl, rfl, rfl, rfl⟩
  | notify recipient => exact notify_inv c recipient inv allowed

/-- Every capability in force is watched for the child that reported it, and goes when it dies. -/
def OutputsWatched (c : GpuChannel) : Prop :=
  ∀ (widget : AcceleratedWidget) (output : Output), c.outputs[widget]? = some output →
    ∃ recipient, Observed c output recipient ∧
      (c.dead output.reporter → c.permitted (.notify recipient)) ∧
      (c.next (.notify recipient)).outputs = ∅

theorem OutputInv.watched (inv : OutputInv c) : OutputsWatched c := by
  intro widget output found
  obtain ⟨recipient, watched⟩ := inv.valid widget output found
  refine ⟨recipient, watched, fun dead => ⟨watched.watching, watched.child ▸ dead⟩, ?_⟩
  simp [next, onGpuOutputDied, watched.generation, resetOhosVerifiedWsiOutputs]

theorem outputs_watched {trace : List (GpuChannel × ChannelEvent)} {c : GpuChannel}
    (run : Trace (guarded (fun s event => permitted s event ∧ reportsWatched s event) next) {} trace c) :
    OutputsWatched c := by
  have initial : OutputInv {} := ⟨by simp [generationOf], by simp [generationOf], by simp, by simp,
    trivial, by simp⟩
  refine OutputInv.watched (run.preserves ?_ initial)
  rintro s event t inv ⟨⟨allowed, watched⟩, rfl⟩
  exact next_inv s event inv allowed watched

def reporting : List ChannelEvent :=
  [.start true, .bootstrap true true, .observe true, .install, .retire,
    .registry (.register "aura_shell" 1 {} 1), .registry (.bind 1)]

theorem outputs_watched_reported : OutputsWatched (run (reporting ++ [.report 1 1 1 0])) := by
  have follows : Follows (fun s event => permitted s event ∧ reportsWatched s event) next {}
      (reporting ++ [.report 1 1 1 0]) := by
    refine ⟨⟨rfl, trivial⟩, ⟨⟨_, _, rfl⟩, trivial⟩, ⟨⟨_, _, _, rfl⟩, trivial⟩, ⟨⟨_, _, rfl⟩, trivial⟩,
      ⟨⟨_, _, rfl⟩, trivial⟩, ⟨trivial, trivial⟩, ⟨trivial, trivial⟩, ⟨trivial, ?_⟩, trivial⟩
    rintro - - recipient installed
    have only : some recipient = some ⟨1, 1⟩ := installed.symm.trans (by decide)
    rw [Option.some.inj only]
    decide
  obtain ⟨trace, run, -⟩ := follows.trace
  exact outputs_watched run

-- The second child reports before it is installed, under the recipient of the first; the browser
-- then fails to add a recipient of its own, and nothing will ever withdraw the capability.
def unwatchedReport : List ChannelEvent :=
  reporting ++ [.start true, .bootstrap true true, .report 2 1 1 0, .observe false, .install]

theorem unwatched_output_in_force :
    ¬ ∀ (trace : List (GpuChannel × ChannelEvent)) (c : GpuChannel),
      Trace step {} trace c → OutputsWatched c := by
  intro every
  have follows : Follows permitted next {} unwatchedReport :=
    ⟨rfl, ⟨_, _, rfl⟩, ⟨_, _, _, rfl⟩, ⟨_, _, rfl⟩, ⟨_, _, rfl⟩, trivial, trivial,
      rfl, ⟨_, _, rfl⟩, trivial, ⟨_, _, _, rfl⟩, ⟨_, _, rfl⟩, trivial⟩
  obtain ⟨trace, run, -⟩ := follows.trace
  obtain ⟨recipient, watched, -⟩ := every trace _ run 1 ⟨true, false, 2⟩ (by decide)
  have none : (unwatchedReport.foldl next {}).side.deathRecipient = none := by decide
  exact absurd (none.symm.trans watched.installed) (by simp)

end GpuChannel

end ChromiumHmos.Ozone
