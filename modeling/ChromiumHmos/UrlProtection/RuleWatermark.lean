import ChromiumHmos.UrlProtection.RuleVerification

set_option autoImplicit false

/-!
# The watermark never goes back

`UpdaterCore` is what of the updater the watermark depends on; scheduling, failures and clients
are left out of it, so each operation moves the core in one of a few ways.
-/

namespace ChromiumHmos.UrlProtection

open Base Transition

def Newer (old new : Int × String) : Prop := old.1 < new.1 ∨ old = new

theorem Newer.refl (mark : Int × String) : Newer mark mark := .inr rfl

theorem Newer.trans {first second third : Int × String} (left : Newer first second)
    (right : Newer second third) : Newer first third := by
  rcases left with left | rfl
  · rcases right with right | rfl
    · exact .inl (lt_trans left right)
    · exact .inl left
  · exact right

variable {old new : Int × String}

theorem Newer.sequence (newer : Newer old new) : old.1 <= new.1 := by
  rcases newer with lower | rfl
  · exact le_of_lt lower
  · exact le_rfl

theorem Newer.digest (newer : Newer old new) (same : old.1 = new.1) : old.2 = new.2 := by
  rcases newer with lower | rfl
  · omega
  · rfl

theorem Newer.spec (newer : Newer old new) : old.1 <= new.1 /\ (old.1 = new.1 -> old.2 = new.2) :=
  ⟨newer.sequence, newer.digest⟩

theorem accept_newer (manifest : RuleManifest) (sequence : Int) (digest : String)
    (accepted : acceptRuleSequence manifest sequence digest = true) :
    Newer (sequence, digest) (manifest.sequence, manifest.sha256) := by
  rcases acceptRuleSequence_spec manifest sequence digest accepted with lower | ⟨same, equal⟩
  · exact .inl lower
  · exact .inr (by rw [same, equal])

structure UpdaterCore where
  sequence : Int
  digest : String
  rulesLoaded : Bool
  initializingRules : Bool
  updating : Bool
  manifest : RuleManifest
  manifestJson : Bytes
  rules : LocalRules
  source : RulesSource
  loader : Option UpdateLoader
  worker : List WorkerTask
  replies : List WorkerReply

def RuleUpdater.core (u : RuleUpdater) : UpdaterCore where
  sequence := u.sequence
  digest := u.digest
  rulesLoaded := u.rulesLoaded
  initializingRules := u.initializingRules
  updating := u.updating
  manifest := u.manifest
  manifestJson := u.manifestJson
  rules := u.rules
  source := u.source
  loader := u.loader
  worker := u.worker
  replies := u.replies

def WorkerTask.loads : WorkerTask → Bool
  | .initializeRules _ _ loadRules => loadRules
  | .verifyAndInstall .. => false

def WorkerTask.installs : WorkerTask → Bool
  | .initializeRules .. => false
  | .verifyAndInstall .. => true

def WorkerReply.loads : WorkerReply → Bool
  | .initialized loadedRules _ => loadedRules
  | .installed .. => false

def WorkerReply.installs : WorkerReply → Bool
  | .initialized .. => false
  | .installed .. => true

variable (platform : Platform)

def Accepted (mark : Int × String) (json : Bytes) (manifest : RuleManifest) : Prop :=
  (∃ config now, ManifestVerified platform config json mark.1 now manifest) ∧
    Newer mark (manifest.sequence, manifest.sha256)

/-- What `Initialize` may report when it was bound to this watermark. -/
def Restored (mark : Int × String) (initial : InitialState) : Prop :=
  (initial.digest = "" ∧ initial.source ≠ .download) ∨
    ∃ json manifest, Accepted platform mark json manifest ∧ initial.digest ≠ "" ∧
      (initial.sequence, initial.digest) = (manifest.sequence, manifest.sha256) ∧
      (initial.source = .download →
        ∃ payload now, PayloadVerified platform payload manifest now initial.rules)

def Installable (manifest : RuleManifest) (installed : InstalledRules) : Prop :=
  ∀ rules, installed.rules = some rules →
    ∃ payload now, PayloadVerified platform payload manifest now rules

namespace UpdaterCore

def mark (c : UpdaterCore) : Int × String := (c.sequence, c.digest)

def loads (c : UpdaterCore) : Nat :=
  c.worker.countP WorkerTask.loads + c.replies.countP WorkerReply.loads

def installs (c : UpdaterCore) : Nat :=
  c.worker.countP WorkerTask.installs + c.replies.countP WorkerReply.installs

def downloads (c : UpdaterCore) : Nat := if c.loader.isSome then 1 else 0

/-- Everything an operation of the updater can do to the core under one watermark. -/
inductive Moves : UpdaterCore → UpdaterCore → Prop
  | stay (c : UpdaterCore) : Moves c c
  | after {c d e : UpdaterCore} (first : Moves c d) (second : Moves d e) : Moves c e
  | hide {c : UpdaterCore} (rules : LocalRules) (unloaded : c.rulesLoaded = false) :
      Moves c { c with rules := rules }
  | load {c : UpdaterCore} (unloaded : c.rulesLoaded = false) (idle : c.initializingRules = false) :
      Moves c
        { c with
          initializingRules := true
          worker := c.worker ++ [.initializeRules c.sequence c.digest true] }
  | request {c : UpdaterCore} (loaded : c.rulesLoaded = true) (idle : c.updating = false) :
      Moves c { c with updating := true, loader := some .manifest }
  | stop {c : UpdaterCore} (loading : c.loader.isSome = true) :
      Moves c { c with loader := none, updating := false }
  | fetch {c : UpdaterCore} (json : Bytes) (manifest : RuleManifest)
      (loading : c.loader = some .manifest) (accepted : Accepted platform c.mark json manifest) :
      Moves c { c with manifestJson := json, manifest := manifest, loader := some .payload }
  | verify {c : UpdaterCore} (loading : c.loader = some .payload) :
      Moves c
        { c with
          loader := none
          worker := c.worker ++ [.verifyAndInstall c.manifestJson c.manifest]
          manifestJson := [] }
  | loaded {c : UpdaterCore} {minimum : Int} {digest : String} {loadRules : Bool}
      {rest : List WorkerTask} (initial : InitialState)
      (head : c.worker = .initializeRules minimum digest loadRules :: rest)
      (restored : Restored platform (minimum, digest) initial) :
      Moves c { c with worker := rest, replies := c.replies ++ [.initialized loadRules initial] }
  | wrote {c : UpdaterCore} {json : Bytes} {manifest : RuleManifest} {rest : List WorkerTask}
      (installed : InstalledRules) (head : c.worker = .verifyAndInstall json manifest :: rest)
      (installable : Installable platform manifest installed) :
      Moves c
        { c with worker := rest, replies := c.replies ++ [.installed manifest.sequence installed] }
  | configured {c : UpdaterCore} {initial : InitialState} {rest : List WorkerReply}
      (head : c.replies = .initialized false initial :: rest) : Moves c { c with replies := rest }
  | packaged {c : UpdaterCore} {initial : InitialState} {rest : List WorkerReply}
      (source : RulesSource) (head : c.replies = .initialized true initial :: rest)
      (plain : source ≠ .download) (stale : initial.digest = "") :
      Moves c
        { c with
          replies := rest
          rulesLoaded := true
          initializingRules := false
          rules := initial.rules
          source := source }
  | refused {c : UpdaterCore} {sequence : Int} {installed : InstalledRules}
      {rest : List WorkerReply} (head : c.replies = .installed sequence installed :: rest) :
      Moves c { c with replies := rest, updating := false }

inductive Marks : UpdaterCore → UpdaterCore → Prop
  | restored {c : UpdaterCore} {initial : InitialState} {rest : List WorkerReply}
      (source : RulesSource) (head : c.replies = .initialized true initial :: rest)
      (found : initial.digest ≠ "") (higher : c.sequence ≤ initial.sequence)
      (active : source = .download → initial.source = .download) :
      Marks c
        { c with
          replies := rest
          rulesLoaded := true
          initializingRules := false
          rules := initial.rules
          source := source
          sequence := initial.sequence
          digest := initial.digest }
  | activated {c : UpdaterCore} {sequence : Int} {installed : InstalledRules} {rules : LocalRules}
      {rest : List WorkerReply} (head : c.replies = .installed sequence installed :: rest)
      (found : installed.rules = some rules) :
      Marks c
        { c with
          replies := rest
          updating := false
          sequence := sequence
          digest := c.manifest.sha256
          rules := rules
          source := .download }

structure Inv (c : UpdaterCore) : Prop where
  loads : c.loads = if c.initializingRules then 1 else 0
  loading : c.initializingRules = true → c.rulesLoaded = false
  -- One update at a time: a download, or one installation on its way.
  updates : c.downloads + c.installs = if c.updating then 1 else 0
  updating : c.updating = true → c.rulesLoaded = true
  nonneg : 0 ≤ c.sequence
  sourced : c.source = .download → c.rulesLoaded = true
  loadTask : ∀ minimum digest, .initializeRules minimum digest true ∈ c.worker →
    (minimum, digest) = c.mark
  loadReply : ∀ initial, .initialized true initial ∈ c.replies →
    Restored platform c.mark initial
  installTask : ∀ json manifest, .verifyAndInstall json manifest ∈ c.worker →
    manifest = c.manifest ∧ Accepted platform c.mark json manifest
  installReply : ∀ sequence installed, .installed sequence installed ∈ c.replies →
    sequence = c.manifest.sequence ∧ (∃ json, Accepted platform c.mark json c.manifest) ∧
      Installable platform c.manifest installed
  payload : c.loader = some .payload → Accepted platform c.mark c.manifestJson c.manifest

variable {platform}

variable {c d : UpdaterCore}

theorem Inv.idle (inv : c.Inv platform) (unloaded : c.rulesLoaded = false) :
    c.updating = false /\ c.loader = none /\ c.installs = 0 := by
  have stopped : c.updating = false := by
    cases busy : c.updating with
    | false => rfl
    | true => simp [inv.updating busy] at unloaded
  have none_left := inv.updates
  simp only [stopped, Bool.false_eq_true, if_false, downloads] at none_left
  refine ⟨stopped, ?_, by omega⟩
  cases loading : c.loader with
  | none => rfl
  | some loader => simp [loading] at none_left

theorem Inv.settled (inv : c.Inv platform) (loaded : c.rulesLoaded = true) :
    c.initializingRules = false /\ c.loads = 0 := by
  have idle : c.initializingRules = false := by
    cases busy : c.initializingRules with
    | false => rfl
    | true => simp [inv.loading busy] at loaded
  exact ⟨idle, by simpa [idle] using inv.loads⟩

theorem Inv.downloading (inv : c.Inv platform) (loading : c.loader.isSome = true) :
    c.updating = true /\ c.installs = 0 := by
  have total := inv.updates
  simp only [downloads, loading, if_true] at total
  cases busy : c.updating with
  | false => simp [busy] at total
  | true => simp only [busy, if_true] at total; exact ⟨rfl, by omega⟩

theorem Inv.installing (inv : c.Inv platform) (held : 0 < c.installs) :
    c.updating = true /\ c.loader = none /\ c.installs = 1 := by
  have total := inv.updates
  cases busy : c.updating with
  | false => simp only [busy, Bool.false_eq_true, if_false] at total; omega
  | true =>
    simp only [busy, if_true] at total
    cases loading : c.loader with
    | none => simp only [downloads, loading, Option.isSome_none, Bool.false_eq_true, if_false]
                at total; exact ⟨rfl, rfl, by omega⟩
    | some loader => simp only [downloads, loading, Option.isSome_some, if_true] at total; omega

theorem Inv.quiet (loads : c.loads = 0) (installs : c.installs = 0)
    (loader : c.loader = none) (idle : c.initializingRules = false)
    (stopped : c.updating = false) (loaded : c.rulesLoaded = true) (nonneg : 0 <= c.sequence) :
    c.Inv platform := by
  have unbound := loads
  have uninstalled := installs
  simp only [UpdaterCore.loads, Nat.add_eq_zero_iff, List.countP_eq_zero] at unbound
  simp only [UpdaterCore.installs, Nat.add_eq_zero_iff, List.countP_eq_zero] at uninstalled
  refine
    { loads := by simp [loads, idle]
      loading := by simp [idle]
      updates := by simp [downloads, installs, loader, stopped]
      updating := fun _ => loaded
      nonneg := nonneg
      sourced := fun _ => loaded
      loadTask := ?_
      loadReply := ?_
      installTask := ?_
      installReply := ?_
      payload := by simp [loader] }
  · intro minimum digest posted
    exact absurd rfl (unbound.1 _ posted)
  · intro initial posted
    exact absurd rfl (unbound.2 _ posted)
  · intro json manifest posted
    exact absurd rfl (uninstalled.1 _ posted)
  · intro sequence installed posted
    exact absurd rfl (uninstalled.2 _ posted)

variable {rest : List WorkerReply}

theorem Inv.last_load {initial : InitialState}
    (inv : c.Inv platform) (head : c.replies = .initialized true initial :: rest) :
    c.rulesLoaded = false /\ c.updating = false /\ c.loader = none /\
      c.worker.countP WorkerTask.loads + rest.countP WorkerReply.loads = 0 /\
      c.worker.countP WorkerTask.installs + rest.countP WorkerReply.installs = 0 := by
  have total := inv.loads
  simp only [UpdaterCore.loads, head, List.countP_cons, WorkerReply.loads, if_true] at total
  cases loading : c.initializingRules with
  | false => simp only [loading, Bool.false_eq_true, if_false] at total; omega
  | true =>
    simp only [loading, if_true] at total
    have unloaded := inv.loading loading
    obtain ⟨stopped, idle, uninstalled⟩ := inv.idle unloaded
    simp only [UpdaterCore.installs, head, List.countP_cons, WorkerReply.installs,
      Bool.false_eq_true, if_false] at uninstalled
    exact ⟨unloaded, stopped, idle, by omega, by omega⟩

theorem Inv.last_install {sequence : Int} {installed : InstalledRules} (inv : c.Inv platform)
    (head : c.replies = .installed sequence installed :: rest) :
    c.rulesLoaded = true /\ c.initializingRules = false /\ c.loader = none /\
      c.worker.countP WorkerTask.loads + rest.countP WorkerReply.loads = 0 /\
      c.worker.countP WorkerTask.installs + rest.countP WorkerReply.installs = 0 := by
  obtain ⟨busy, idle, total⟩ :=
    inv.installing (by simp [UpdaterCore.installs, head, WorkerReply.installs])
  have loaded := inv.updating busy
  obtain ⟨quiet, unbound⟩ := inv.settled loaded
  simp only [UpdaterCore.installs, head, List.countP_cons, WorkerReply.installs, if_true] at total
  simp only [UpdaterCore.loads, head, List.countP_cons, WorkerReply.loads, Bool.false_eq_true,
    if_false] at unbound
  exact ⟨loaded, quiet, idle, by omega, by omega⟩

theorem moves_inv (moves : Moves platform c d) (inv : c.Inv platform) : d.Inv platform := by
  induction moves with
  | stay => exact inv
  | after _ _ first second => exact second (first inv)
  | hide rules unloaded => exact { inv with }
  | @load c unloaded idle =>
    have none_left : c.loads = 0 := by simpa [idle] using inv.loads
    refine { inv with loads := ?_, loading := ?_, updates := ?_, loadTask := ?_, installTask := ?_ }
    · simp only [UpdaterCore.loads, List.countP_append, List.countP_singleton, WorkerTask.loads]
        at none_left ⊢
      simp only [if_true]
      omega
    · exact fun _ => unloaded
    · simpa [UpdaterCore.installs, UpdaterCore.downloads, WorkerTask.installs] using inv.updates
    · intro minimum digest posted
      rcases List.mem_append.mp posted with earlier | last
      · exact inv.loadTask minimum digest earlier
      · simp only [List.mem_singleton, WorkerTask.initializeRules.injEq] at last
        rw [last.1, last.2.1]
        rfl
    · intro json manifest posted
      rcases List.mem_append.mp posted with earlier | last
      · exact inv.installTask json manifest earlier
      · simp at last
  | @request c loaded idle =>
    have none_left : c.installs = 0 := by
      have total := inv.updates
      simp only [idle, Bool.false_eq_true, if_false] at total
      omega
    refine { inv with updates := ?_, updating := ?_, payload := ?_ }
    · simpa [UpdaterCore.downloads, UpdaterCore.installs] using none_left
    · exact fun _ => loaded
    · simp
  | @stop c loading =>
    obtain ⟨-, none_left⟩ := inv.downloading loading
    refine { inv with updates := ?_, updating := ?_, payload := ?_ }
    · simpa [UpdaterCore.downloads, UpdaterCore.installs] using none_left
    · simp
    · simp
  | @fetch c json manifest loading accepted =>
    obtain ⟨busy, none_left⟩ := inv.downloading (by simp [loading])
    simp only [UpdaterCore.installs, Nat.add_eq_zero_iff, List.countP_eq_zero] at none_left
    refine { inv with updates := ?_, installTask := ?_, installReply := ?_, payload := ?_ }
    · simpa [UpdaterCore.downloads, UpdaterCore.installs, loading] using inv.updates
    · intro json manifest posted
      exact absurd rfl (none_left.1 _ posted)
    · intro sequence installed posted
      exact absurd rfl (none_left.2 _ posted)
    · exact fun _ => accepted
  | @verify c loading =>
    obtain ⟨busy, none_left⟩ := inv.downloading (by simp [loading])
    have accepted := inv.payload loading
    refine { inv with
      loads := ?_, updates := ?_, loadTask := ?_, installTask := ?_, payload := ?_ }
    · simpa [UpdaterCore.loads, WorkerTask.loads] using inv.loads
    · simp only [UpdaterCore.installs, UpdaterCore.downloads, List.countP_append,
        List.countP_singleton, WorkerTask.installs, Option.isSome_none, Bool.false_eq_true,
        if_false, if_true, busy] at none_left ⊢
      omega
    · intro minimum digest posted
      rcases List.mem_append.mp posted with earlier | last
      · exact inv.loadTask minimum digest earlier
      · simp at last
    · intro json manifest posted
      rcases List.mem_append.mp posted with earlier | last
      · exact inv.installTask json manifest earlier
      · simp only [List.mem_singleton, WorkerTask.verifyAndInstall.injEq] at last
        obtain ⟨rfl, rfl⟩ := last
        exact ⟨rfl, accepted⟩
    · simp
  | @loaded c minimum digest loadRules rest initial head restored =>
    refine { inv with
      loads := ?_, updates := ?_, loadTask := ?_, loadReply := ?_, installTask := ?_
      installReply := ?_ }
    · rw [<- inv.loads]
      simp only [UpdaterCore.loads, head, List.countP_append, List.countP_nil, List.countP_cons,
        WorkerTask.loads, WorkerReply.loads]
      cases loadRules
      · simp
      · simp only [if_true]
        omega
    · rw [<- inv.updates]
      simp [UpdaterCore.installs, UpdaterCore.downloads, head, List.countP_append,
        WorkerTask.installs, WorkerReply.installs]
    · intro minimum digest posted
      exact inv.loadTask minimum digest (by rw [head]; exact List.mem_cons_of_mem _ posted)
    · intro initial posted
      rcases List.mem_append.mp posted with earlier | last
      · exact inv.loadReply initial earlier
      · simp only [List.mem_singleton, WorkerReply.initialized.injEq] at last
        obtain ⟨rfl, rfl⟩ := last
        have bound := inv.loadTask minimum digest (by rw [head]; exact List.mem_cons_self)
        exact bound ▸ restored
    · intro json manifest posted
      exact inv.installTask json manifest (by rw [head]; exact List.mem_cons_of_mem _ posted)
    · intro sequence installed posted
      rcases List.mem_append.mp posted with earlier | last
      · exact inv.installReply sequence installed earlier
      · simp at last
  | @wrote c json manifest rest installed head installable =>
    obtain ⟨rfl, accepted⟩ :=
      inv.installTask json manifest (by rw [head]; exact List.mem_cons_self)
    refine { inv with
      loads := ?_, updates := ?_, loadTask := ?_, loadReply := ?_, installTask := ?_
      installReply := ?_ }
    · rw [<- inv.loads]
      simp [UpdaterCore.loads, head, List.countP_append, WorkerTask.loads, WorkerReply.loads]
    · rw [<- inv.updates]
      simp only [UpdaterCore.installs, UpdaterCore.downloads, head, List.countP_append,
        List.countP_nil, List.countP_cons, WorkerTask.installs, WorkerReply.installs, if_true]
      omega
    · intro minimum digest posted
      exact inv.loadTask minimum digest (by rw [head]; exact List.mem_cons_of_mem _ posted)
    · intro initial posted
      rcases List.mem_append.mp posted with earlier | last
      · exact inv.loadReply initial earlier
      · simp at last
    · intro json manifest posted
      exact inv.installTask json manifest (by rw [head]; exact List.mem_cons_of_mem _ posted)
    · intro sequence installed posted
      rcases List.mem_append.mp posted with earlier | last
      · exact inv.installReply sequence installed earlier
      · simp only [List.mem_singleton, WorkerReply.installed.injEq] at last
        obtain ⟨rfl, rfl⟩ := last
        exact ⟨rfl, ⟨json, accepted⟩, installable⟩
  | @configured c initial rest head =>
    refine { inv with loads := ?_, updates := ?_, loadReply := ?_, installReply := ?_ }
    · simpa [UpdaterCore.loads, head, WorkerReply.loads] using inv.loads
    · simpa [UpdaterCore.installs, UpdaterCore.downloads, head, WorkerReply.installs]
        using inv.updates
    · intro initial posted
      exact inv.loadReply initial (by rw [head]; exact List.mem_cons_of_mem _ posted)
    · intro sequence installed posted
      exact inv.installReply sequence installed
        (by rw [head]; exact List.mem_cons_of_mem _ posted)
  | @packaged c initial rest source head plain stale =>
    obtain ⟨-, stopped, idle, unbound, uninstalled⟩ := inv.last_load head
    exact .quiet unbound uninstalled idle rfl stopped rfl inv.nonneg
  | @refused c sequence installed rest head =>
    obtain ⟨loaded, quiet, idle, unbound, uninstalled⟩ := inv.last_install head
    exact .quiet unbound uninstalled idle quiet rfl loaded inv.nonneg

theorem moves_mark (moves : Moves platform c d) : d.mark = c.mark := by
  induction moves with
  | after _ _ first second => exact second.trans first
  | _ => rfl

theorem moves_active (moves : Moves platform c d) (inv : c.Inv platform)
    (active : d.source = .download) : c.source = .download /\ c.rules = d.rules := by
  induction moves with
  | stay => exact ⟨active, rfl⟩
  | after first second ih ih' =>
    obtain ⟨source, rules⟩ := ih' (moves_inv first inv) active
    obtain ⟨source', rules'⟩ := ih inv source
    exact ⟨source', rules'.trans rules⟩
  | hide rules unloaded =>
    have loaded := inv.sourced active
    rw [unloaded] at loaded
    contradiction
  | packaged source head plain stale => exact absurd active plain
  | _ => exact ⟨active, rfl⟩

theorem marks_inv (marks : Marks c d) (inv : c.Inv platform) : d.Inv platform := by
  cases marks with
  | @restored initial rest source head found higher active =>
    obtain ⟨-, stopped, idle, unbound, uninstalled⟩ := inv.last_load head
    exact .quiet unbound uninstalled idle rfl stopped rfl (le_trans inv.nonneg higher)
  | @activated sequence installed rules rest head found =>
    obtain ⟨loaded, quiet, idle, unbound, uninstalled⟩ := inv.last_install head
    obtain ⟨rfl, ⟨json, accepted⟩, -⟩ :=
      inv.installReply sequence installed (by rw [head]; exact List.mem_cons_self)
    have higher : c.sequence <= c.manifest.sequence := accepted.2.sequence
    exact .quiet unbound uninstalled idle quiet rfl loaded (le_trans inv.nonneg higher)

theorem marks_newer (marks : Marks c d) (inv : c.Inv platform) : Newer c.mark d.mark := by
  cases marks with
  | @restored initial rest source head found higher active =>
    have report := inv.loadReply initial (by rw [head]; exact List.mem_cons_self)
    rcases report with ⟨empty, -⟩ | ⟨json, manifest, accepted, -, same, -⟩
    · exact absurd empty found
    · have newer := accepted.2
      rw [<- same] at newer
      exact newer
  | @activated sequence installed rules rest head found =>
    obtain ⟨rfl, ⟨json, accepted⟩, -⟩ :=
      inv.installReply sequence installed (by rw [head]; exact List.mem_cons_self)
    exact accepted.2

end UpdaterCore

end ChromiumHmos.UrlProtection
