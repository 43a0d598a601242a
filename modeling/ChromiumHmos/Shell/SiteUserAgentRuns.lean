import ChromiumHmos.Lib.Transition
import ChromiumHmos.Shell.UserAgentTokens

set_option autoImplicit false

/-!
# What is in force after a navigation

The watcher tells its own overrides from the user's by their strings. As long as the strings do
not meet by accident, what is in force depends on the site, the device's form and what the user
last chose.
-/

namespace ChromiumHmos.Shell.SiteUserAgent

open Lib UrlProtection Transition

inductive Treatment
  | store
  | site (policy : SiteUserAgentPolicy)

def treatment (device : Device) (url : GURL) (mobilePhoneUi : Bool) (choice : Choice) : Treatment :=
  if isChromeWebStore device url &&
      !(mobilePhoneUi && !asksForDesktopSite device mobilePhoneUi choice.override) then .store
  else .site (userAgentPolicyFor device url)

def inForceFor (device : Device) (url : GURL) (mobilePhoneUi : Bool) (choice : Choice) : Choice :=
  match treatment device url mobilePhoneUi choice with
  | .store => { override := storeUserAgent device, pinned := true }
  | .site .none => choice
  | .site policy =>
    { override := compatibleUserAgent device mobilePhoneUi policy choice.override, pinned := true }

def Watcher.siteOurs (watcher : Watcher) : Prop :=
  watcher.siteUa ≠ "" ∧ watcher.current = watcher.siteUa

def Watcher.storeOurs (watcher : Watcher) : Prop :=
  watcher.storeUa ≠ "" ∧ watcher.current = watcher.storeUa

instance decidableSiteOurs (watcher : Watcher) : Decidable watcher.siteOurs :=
  inferInstanceAs (Decidable (_ ∧ _))

instance decidableStoreOurs (watcher : Watcher) : Decidable watcher.storeOurs :=
  inferInstanceAs (Decidable (_ ∧ _))

-- What the site policies take for the override before them.
def Watcher.siteBaseline (watcher : Watcher) : Choice :=
  if watcher.siteOurs then watcher.beforeSite else watcher.inForce

def Watcher.HasPolicy (watcher : Watcher) : Prop := watcher.siteUa ≠ "" -> watcher.sitePolicy ≠ .none

structure SiteCleared (before after : Watcher) : Prop where
  inForce : after.inForce = before.siteBaseline
  siteUa : after.siteUa = ""
  storeUa : after.storeUa = before.storeUa
  beforeStore : after.beforeStore = before.beforeStore

variable {watcher : Watcher}

theorem applySite_cleared (device : Device) (navigation : Navigation) (restoreOnly : Bool) (has : watcher.HasPolicy)
    (cleared : restoreOnly = true \/ userAgentPolicyFor device navigation.url = .none) :
    (applySiteUserAgent device navigation restoreOnly watcher).1 = false /\
      SiteCleared watcher (applySiteUserAgent device navigation restoreOnly watcher).2 := by
  have policy : (if restoreOnly then SiteUserAgentPolicy.none
      else userAgentPolicyFor device navigation.url) = .none := by
    rcases cleared with only | own
    · simp [only]
    · simp [own]
  unfold applySiteUserAgent
  simp only [policy, if_true]
  refine ⟨trivial, ?_⟩
  by_cases ours : watcher.siteOurs
  · have switched : SiteUserAgentPolicy.none ≠ watcher.sitePolicy := (has ours.1).symm
    constructor <;> simp [Watcher.siteBaseline, ours, ours.1, ours.2, switched, Watcher.install]
  · have notOurs : ¬ (watcher.siteUa ≠ "" ∧ watcher.current = watcher.siteUa) := ours
    constructor <;> simp [Watcher.siteBaseline, ours, notOurs]

structure SiteApplied (device : Device) (mobile : Bool) (policy : SiteUserAgentPolicy)
    (before after : Watcher) : Prop where
  inForce : after.inForce =
    { override := compatibleUserAgent device mobile policy before.siteBaseline.override
      pinned := true }
  beforeSite : after.beforeSite = before.siteBaseline
  siteUa : after.siteUa = after.current
  sitePolicy : after.sitePolicy = policy
  storeUa : after.storeUa = before.storeUa
  beforeStore : after.beforeStore = before.beforeStore

theorem applySite_applied (device : Device) (navigation : Navigation) (watcher : Watcher)
    (some : userAgentPolicyFor device navigation.url ≠ .none) :
    (applySiteUserAgent device navigation false watcher).1 = true /\
      SiteApplied device navigation.mobilePhoneUi (userAgentPolicyFor device navigation.url) watcher
        (applySiteUserAgent device navigation false watcher).2 := by
  unfold applySiteUserAgent
  simp only [Bool.false_eq_true, if_false, some]
  refine ⟨trivial, ?_⟩
  by_cases ours : watcher.siteOurs
  · have same : watcher.inForce.override.uaStringOverride = watcher.siteUa := ours.2
    by_cases switched : userAgentPolicyFor device navigation.url ≠ watcher.sitePolicy
    · constructor <;>
        simp [Watcher.siteBaseline, ours, ours.1, same, switched, Watcher.install, Watcher.current]
    · constructor <;>
        simp [Watcher.siteBaseline, ours, ours.1, same, not_not.mp switched, Watcher.install,
          Watcher.current]
  · have notOurs : ¬ (watcher.siteUa ≠ "" ∧ watcher.current = watcher.siteUa) := ours
    have left : (watcher.siteUa ≠ "" && decide (watcher.current = watcher.siteUa)) = false := by
      simpa using notOurs
    simp only [left]
    constructor <;> simp [Watcher.siteBaseline, ours, Watcher.install, Watcher.current]

/-- The watcher's baselines are the user's last choice, wherever it would go back to one. -/
structure Remembers (watcher : Watcher) (choice : Choice) : Prop where
  policy : watcher.HasPolicy
  store : watcher.storeOurs -> watcher.beforeStore = choice
  site : watcher.siteOurs -> watcher.beforeSite = choice
  own : ¬ watcher.storeOurs -> ¬ watcher.siteOurs -> watcher.inForce = choice
  likeStore : watcher.storeUa ≠ "" -> choice.override.uaStringOverride = watcher.storeUa ->
    watcher.beforeStore = choice
  likeSite : watcher.siteUa ≠ "" -> choice.override.uaStringOverride = watcher.siteUa ->
    watcher.beforeSite = choice

/-- What keeps the strings apart: the user chooses neither string the watcher holds for its own, no
policy puts an empty string in force or a site's policy the store's, and the store's override is not
in force where a phone's store page gets none. -/
def Apart (device : Device) (watcher : Watcher) (choice : Choice) : Event -> Prop
  | .chosen next =>
    (watcher.storeUa ≠ "" -> next.override.uaStringOverride = watcher.storeUa ->
      watcher.beforeStore = next) ∧
    (watcher.siteUa ≠ "" -> next.override.uaStringOverride = watcher.siteUa ->
      watcher.beforeSite = next)
  | .navigation navigation =>
    navigation.isInPrimaryMainFrame = true -> navigation.isSameDocument = false ->
    match treatment device navigation.url navigation.mobilePhoneUi choice with
    | .store => (storeUserAgent device).uaStringOverride ≠ ""
    | .site policy =>
      (policy ≠ .none ->
        (compatibleUserAgent device navigation.mobilePhoneUi policy
          choice.override).uaStringOverride ≠ "" ∧
        ((compatibleUserAgent device navigation.mobilePhoneUi policy
          choice.override).uaStringOverride = watcher.storeUa -> watcher.beforeStore = choice)) ∧
      (isChromeWebStore device navigation.url = true -> watcher.storeUa ≠ "" ->
        watcher.current ≠ watcher.storeUa ∧
          choice.override.uaStringOverride ≠ watcher.storeUa)

variable {choice : Choice}

theorem Remembers.siteBaseline
    (remembers : Remembers watcher choice) (notStore : ¬ watcher.storeOurs) :
    watcher.siteBaseline = choice := by
  unfold Watcher.siteBaseline
  split
  · rename_i ours
    exact remembers.site ours
  · rename_i notOurs
    exact remembers.own notStore notOurs

theorem Remembers.chosen {next : Choice} (remembers : Remembers watcher choice)
    (store : watcher.storeUa ≠ "" -> next.override.uaStringOverride = watcher.storeUa ->
      watcher.beforeStore = next)
    (site : watcher.siteUa ≠ "" -> next.override.uaStringOverride = watcher.siteUa ->
      watcher.beforeSite = next) : Remembers { watcher with inForce := next } next where
  policy := remembers.policy
  store ours := store ours.1 ours.2
  site ours := site ours.1 ours.2
  own _ _ := rfl
  likeStore := store
  likeSite := site

-- Out of the store, whatever the navigation turns out to be.
theorem Remembers.leavingStore
    (remembers : Remembers watcher choice) (ours : watcher.storeOurs) :
    Remembers (restoreUserAgent watcher) choice := by
  have held : (restoreUserAgent watcher).inForce = choice := remembers.store ours
  have apart : ¬ (restoreUserAgent watcher).storeOurs := fun still => still.1 rfl
  have current : (restoreUserAgent watcher).current = choice.override.uaStringOverride :=
    congrArg (fun choice => choice.override.uaStringOverride) held
  constructor
  · exact remembers.policy
  · exact fun still => absurd still apart
  · exact fun still => remembers.likeSite still.1 (current.symm.trans still.2)
  · exact fun _ _ => held
  · exact fun still => absurd rfl still
  · exact remembers.likeSite

variable {before after : Watcher}

theorem Remembers.siteCleared
    (remembers : Remembers before choice) (cleared : SiteCleared before after)
    (held : after.inForce = choice) : Remembers after choice := by
  have current : after.current = choice.override.uaStringOverride :=
    congrArg (fun choice => choice.override.uaStringOverride) held
  have likeStore : after.storeUa ≠ "" -> choice.override.uaStringOverride = after.storeUa ->
      after.beforeStore = choice := by
    rw [cleared.storeUa, cleared.beforeStore]
    exact remembers.likeStore
  constructor
  · exact fun some => absurd cleared.siteUa some
  · exact fun ours => likeStore ours.1 (current.symm.trans ours.2)
  · exact fun ours => absurd cleared.siteUa ours.1
  · exact fun _ _ => held
  · exact likeStore
  · exact fun some => absurd cleared.siteUa some

variable {device : Device}

variable {policy : SiteUserAgentPolicy}

theorem Remembers.siteApplied {mobile : Bool} (remembers : Remembers before choice)
    (applied : SiteApplied device mobile policy before after) (held : before.siteBaseline = choice)
    (some : policy ≠ .none)
    (nonempty : (compatibleUserAgent device mobile policy choice.override).uaStringOverride ≠ "")
    (apart : (compatibleUserAgent device mobile policy choice.override).uaStringOverride =
      before.storeUa -> before.beforeStore = choice) : Remembers after choice := by
  have current : after.current =
      (compatibleUserAgent device mobile policy choice.override).uaStringOverride := by
    rw [Watcher.current, applied.inForce, held]
  have ours : after.siteOurs := by
    refine ⟨?_, applied.siteUa.symm⟩
    rw [applied.siteUa, current]
    exact nonempty
  have baseline : after.beforeSite = choice := applied.beforeSite.trans held
  constructor
  · intro _
    rw [applied.sitePolicy]
    exact some
  · intro store
    rw [applied.beforeStore]
    exact apart (current.symm.trans (store.2.trans applied.storeUa))
  · exact fun _ => baseline
  · exact fun _ notOurs => absurd ours notOurs
  · rw [applied.storeUa, applied.beforeStore]
    exact remembers.likeStore
  · exact fun _ _ => baseline

theorem Remembers.newHandle
    (remembers : Remembers watcher choice) :
    Remembers { watcher with isOverridingUserAgent := none } choice :=
  ⟨remembers.policy, remembers.store, remembers.site, remembers.own, remembers.likeStore,
    remembers.likeSite⟩

theorem Remembers.installed
    (cleared : watcher.siteUa = "") (baseline : watcher.beforeStore = choice)
    (nonempty : (storeUserAgent device).uaStringOverride ≠ "") :
    Remembers (installStore device watcher) choice := by
  have ours : (installStore device watcher).storeOurs := ⟨nonempty, rfl⟩
  constructor
  · exact fun some => absurd cleared some
  · exact fun _ => baseline
  · exact fun site => absurd cleared site.1
  · exact fun notOurs => absurd ours notOurs
  · exact fun _ _ => baseline
  · exact fun some => absurd cleared some

theorem treatment_other {device : Device} {url : GURL} {mobilePhoneUi : Bool} {choice : Choice}
    (other : isChromeWebStore device url = false) :
    treatment device url mobilePhoneUi choice = .site (userAgentPolicyFor device url) := by
  simp [treatment, other]

variable {url : GURL}

variable {mobilePhoneUi : Bool}

theorem inForceFor_policy (treated : treatment device url mobilePhoneUi choice = .site policy)
    (some : policy ≠ .none) :
    inForceFor device url mobilePhoneUi choice =
      { override := compatibleUserAgent device mobilePhoneUi policy choice.override
        pinned := true } := by
  cases policy with
  | none => exact absurd rfl some
  | appGallery => simp [inForceFor, treated]
  | google => simp [inForceFor, treated]

variable {navigation : Navigation}

-- The site policies have the last word.
theorem applySite_remembers (remembers : Remembers watcher choice) (notStore : ¬ watcher.storeOurs)
    (treated : treatment device navigation.url navigation.mobilePhoneUi choice =
      .site (userAgentPolicyFor device navigation.url))
    (apart : userAgentPolicyFor device navigation.url ≠ .none ->
      (compatibleUserAgent device navigation.mobilePhoneUi
        (userAgentPolicyFor device navigation.url) choice.override).uaStringOverride ≠ "" ∧
      ((compatibleUserAgent device navigation.mobilePhoneUi
        (userAgentPolicyFor device navigation.url) choice.override).uaStringOverride =
          watcher.storeUa -> watcher.beforeStore = choice)) :
    (applySiteUserAgent device navigation false watcher).2.inForce =
        inForceFor device navigation.url navigation.mobilePhoneUi choice /\
      Remembers (applySiteUserAgent device navigation false watcher).2 choice := by
  have held := remembers.siteBaseline notStore
  by_cases policy : userAgentPolicyFor device navigation.url = .none
  · obtain ⟨_, cleared⟩ := applySite_cleared device navigation false remembers.policy (.inr policy)
    have own := cleared.inForce.trans held
    refine ⟨?_, remembers.siteCleared cleared own⟩
    rw [own, inForceFor, treated, policy]
  · obtain ⟨_, applied⟩ := applySite_applied device navigation watcher policy
    obtain ⟨nonempty, distinct⟩ := apart policy
    refine ⟨?_, remembers.siteApplied applied held policy nonempty distinct⟩
    rw [applied.inForce, held, inForceFor_policy treated policy]

-- Out of the store, and out of the store's override.
def leaveStore (watcher : Watcher) : Watcher :=
  if watcher.storeOurs then restoreUserAgent watcher else watcher

theorem leaveStore_remembers
    (remembers : Remembers watcher choice) :
    Remembers (leaveStore watcher) choice /\ ¬ (leaveStore watcher).storeOurs := by
  unfold leaveStore
  split
  · rename_i ours
    exact ⟨remembers.leavingStore ours, fun still => still.1 rfl⟩
  · rename_i notOurs
    exact ⟨remembers, notOurs⟩

theorem leaveStore_inForce
    (remembers : Remembers watcher choice) (held : watcher.inForce = choice) :
    (leaveStore watcher).inForce = choice := by
  unfold leaveStore
  split
  · rename_i ours
    exact remembers.store ours
  · exact held

theorem didStart_elsewhere (device : Device) (navigation : Navigation) (watcher : Watcher)
    (main : navigation.isInPrimaryMainFrame = true) (document : navigation.isSameDocument = false)
    (other : isChromeWebStore device navigation.url = false) :
    didStartNavigation device navigation watcher =
      let left := leaveStore { watcher with isOverridingUserAgent := none }
      if (applySiteUserAgent device navigation false left).1 then
        (applySiteUserAgent device navigation false left).2
      else leaveStore (applySiteUserAgent device navigation false left).2 := by
  have ours (watcher : Watcher) :
      (decide (watcher.storeUa ≠ "") && decide (watcher.current = watcher.storeUa)) =
        decide watcher.storeOurs := by
    rw [<- Bool.decide_and]
    rfl
  have first := ours { watcher with isOverridingUserAgent := none }
  have back (watcher : Watcher) :
      (if (decide watcher.storeOurs) = true then restoreUserAgent watcher else watcher) =
        leaveStore watcher := by
    simp only [decide_eq_true_eq]
    rfl
  simp only [didStartNavigation, main, document, other, ours, Bool.not_true, Bool.or_false,
    Bool.false_eq_true, if_false, Bool.not_false, Bool.true_and, if_true]
  simp only at first
  rw [first, back]
  generalize applySiteUserAgent device navigation false _ = result
  obtain ⟨done, after⟩ := result
  cases done with
  | false => exact back after
  | true => rfl

theorem navigation_elsewhere (remembers : Remembers watcher choice)
    (main : navigation.isInPrimaryMainFrame = true) (document : navigation.isSameDocument = false)
    (other : isChromeWebStore device navigation.url = false)
    (apart : Apart device watcher choice (.navigation navigation)) :
    (didStartNavigation device navigation watcher).inForce =
        inForceFor device navigation.url navigation.mobilePhoneUi choice /\
      Remembers (didStartNavigation device navigation watcher) choice := by
  have treated := @treatment_other device navigation.url navigation.mobilePhoneUi choice other
  have strings := apart main document
  rw [treated] at strings
  obtain ⟨left, outside⟩ := leaveStore_remembers remembers.newHandle
  have distinct : userAgentPolicyFor device navigation.url ≠ .none ->
      (compatibleUserAgent device navigation.mobilePhoneUi
        (userAgentPolicyFor device navigation.url) choice.override).uaStringOverride ≠ "" ∧
      ((compatibleUserAgent device navigation.mobilePhoneUi
        (userAgentPolicyFor device navigation.url) choice.override).uaStringOverride =
          (leaveStore { watcher with isOverridingUserAgent := none }).storeUa ->
        (leaveStore { watcher with isOverridingUserAgent := none }).beforeStore = choice) := by
    intro some
    obtain ⟨nonempty, distinct⟩ := strings.1 some
    refine ⟨nonempty, ?_⟩
    unfold leaveStore
    split
    · exact fun empty => absurd empty nonempty
    · exact distinct
  obtain ⟨held, after⟩ := applySite_remembers left outside treated distinct
  rw [didStart_elsewhere device navigation watcher main document other]
  simp only
  split
  · exact ⟨held, after⟩
  · -- The user's own override may have the store's string: its baseline is the same choice.
    rename_i ended
    have policy : userAgentPolicyFor device navigation.url = .none := by
      by_contra some
      exact ended (applySite_applied device navigation _ some).1
    obtain ⟨restored, _⟩ := leaveStore_remembers after
    refine ⟨?_, restored⟩
    have own : inForceFor device navigation.url navigation.mobilePhoneUi choice = choice := by
      rw [inForceFor, treated, policy]
    rw [own] at held ⊢
    exact leaveStore_inForce after held

theorem didStart_store (device : Device) (navigation : Navigation) (watcher : Watcher)
    (main : navigation.isInPrimaryMainFrame = true) (document : navigation.isSameDocument = false)
    (store : isChromeWebStore device navigation.url = true) {cleared : Watcher}
    (applied : applySiteUserAgent device navigation true
      { watcher with isOverridingUserAgent := none } = (false, cleared)) :
    didStartNavigation device navigation watcher =
      if cleared.storeOurs then installStore device cleared
      else
        let desktopSite :=
          asksForDesktopSite device navigation.mobilePhoneUi cleared.inForce.override
        let saved := { cleared with beforeStore := cleared.inForce, desktopSite := desktopSite }
        if navigation.mobilePhoneUi && !desktopSite then
          (applySiteUserAgent device navigation false saved).2
        else installStore device saved := by
  have ours : (decide (cleared.storeUa ≠ "") && decide (cleared.current = cleared.storeUa)) =
      decide cleared.storeOurs := by
    rw [<- Bool.decide_and]
    rfl
  simp only [didStartNavigation, main, document, store, Bool.not_true, Bool.or_false,
    Bool.false_eq_true, if_false, Bool.false_and, applied, ours]
  by_cases held : cleared.storeOurs
  · simp [held]
  · simp [held]

theorem navigation_store (remembers : Remembers watcher choice)
    (main : navigation.isInPrimaryMainFrame = true) (document : navigation.isSameDocument = false)
    (store : isChromeWebStore device navigation.url = true)
    (apart : Apart device watcher choice (.navigation navigation)) :
    (didStartNavigation device navigation watcher).inForce =
        inForceFor device navigation.url navigation.mobilePhoneUi choice /\
      Remembers (didStartNavigation device navigation watcher) choice := by
  have strings := apart main document
  have fresh := remembers.newHandle
  generalize same : ({ watcher with isOverridingUserAgent := none } : Watcher) = handled at fresh
  have storeUa : handled.storeUa = watcher.storeUa := by rw [<- same]
  have current : handled.current = watcher.current := by
    rw [<- same]
    rfl
  obtain ⟨notDone, isCleared⟩ := applySite_cleared device navigation true fresh.policy (.inl rfl)
  generalize result : applySiteUserAgent device navigation true handled = pair at notDone isCleared
  obtain ⟨done, cleared⟩ := pair
  simp only at notDone isCleared
  subst notDone
  rw [didStart_store device navigation watcher main document store (by rw [same]; exact result)]
  -- What stands there once the site's policy is out of force.
  have stands : cleared.inForce = choice \/ cleared.inForce = handled.inForce := by
    rw [isCleared.inForce, Watcher.siteBaseline]
    split
    · rename_i ours
      exact Or.inl (fresh.site ours)
    · exact Or.inr rfl
  split
  · rename_i ours
    have baseline : cleared.beforeStore = choice := by
      rw [isCleared.beforeStore]
      rcases stands with own | before
      · refine fresh.likeStore (isCleared.storeUa ▸ ours.1) ?_
        rw [<- own, <- isCleared.storeUa]
        exact ours.2
      · refine fresh.store ⟨isCleared.storeUa ▸ ours.1, ?_⟩
        rw [Watcher.current, <- before, <- isCleared.storeUa]
        exact ours.2
    have inForce : (match treatment device navigation.url navigation.mobilePhoneUi choice with
        | .store => True
        | .site _ => False) := by
      cases treated : treatment device navigation.url navigation.mobilePhoneUi choice with
      | store => trivial
      | site policy =>
        rw [treated] at strings
        have held : watcher.storeUa = cleared.storeUa := by rw [isCleared.storeUa, storeUa]
        obtain ⟨notThere, notChosen⟩ := strings.2 store (held ▸ ours.1)
        rcases stands with own | before
        · refine notChosen ?_
          rw [<- own, held]
          exact ours.2
        · refine notThere ?_
          rw [<- current, Watcher.current, <- before, held]
          exact ours.2
    cases treated : treatment device navigation.url navigation.mobilePhoneUi choice with
    | store =>
      rw [treated] at strings
      exact ⟨by rw [inForceFor, treated]; rfl,
        Remembers.installed isCleared.siteUa baseline strings⟩
    | site policy =>
      rw [treated] at inForce
      exact inForce.elim
  · rename_i notOurs
    have own : cleared.inForce = choice := by
      rw [isCleared.inForce]
      by_cases site : handled.siteOurs
      · rw [Watcher.siteBaseline, if_pos site]
        exact fresh.site site
      · rw [Watcher.siteBaseline, if_neg site]
        refine fresh.own (fun ours => notOurs ?_) site
        have before : cleared.inForce = handled.inForce := by
          rw [isCleared.inForce, Watcher.siteBaseline, if_neg site]
        refine ⟨?_, ?_⟩
        · rw [isCleared.storeUa]
          exact ours.1
        · rw [isCleared.storeUa, Watcher.current, before]
          exact ours.2
    have saved (desktopSite : Bool) : Remembers
        { cleared with beforeStore := cleared.inForce, desktopSite := desktopSite } choice :=
      ⟨fun some => absurd isCleared.siteUa some, fun _ => own,
        fun site => absurd isCleared.siteUa site.1, fun _ _ => own, fun _ _ => own,
        fun some => absurd isCleared.siteUa some⟩
    have outside : ¬ (cleared.storeUa ≠ "" ∧
        choice.override.uaStringOverride = cleared.storeUa) := by
      rintro ⟨some, ours⟩
      refine notOurs ⟨some, ?_⟩
      rw [Watcher.current, own]
      exact ours
    rw [own] at saved ⊢
    simp only
    by_cases phone : (navigation.mobilePhoneUi &&
        !asksForDesktopSite device navigation.mobilePhoneUi choice.override) = true
    · rw [if_pos phone]
      have treated : treatment device navigation.url navigation.mobilePhoneUi choice =
          .site (userAgentPolicyFor device navigation.url) := by
        rw [treatment, store, phone]
        rfl
      rw [treated] at strings
      refine applySite_remembers (saved _) outside treated fun some => ?_
      exact ⟨(strings.1 some).1, fun _ => rfl⟩
    · rw [if_neg phone]
      have treated : treatment device navigation.url navigation.mobilePhoneUi choice = .store := by
        rw [treatment, store, Bool.not_eq_true _ |>.mp phone]
        rfl
      rw [treated] at strings
      exact ⟨by rw [inForceFor, treated]; rfl, Remembers.installed isCleared.siteUa rfl strings⟩

/-- A tab's watcher, and what its user last chose. -/
structure Tab where
  watcher : Watcher
  choice : Choice

def tabStep (device : Device) (tab : Tab) (event : Event) : Tab where
  watcher := step device tab.watcher event
  choice :=
    match event with
    | .navigation _ => tab.choice
    | .chosen choice => choice

-- A watcher is created for a tab that has its user's choice in force.
def opened (choice : Choice) : Tab where
  watcher := { inForce := choice }
  choice := choice

def keptApart (device : Device) (tab : Tab) (event : Event) : Prop :=
  Apart device tab.watcher tab.choice event

theorem opened_remembers (choice : Choice) : Remembers (opened choice).watcher choice where
  policy some := absurd rfl some
  store ours := absurd rfl ours.1
  site ours := absurd rfl ours.1
  own _ _ := rfl
  likeStore some := absurd rfl some
  likeSite some := absurd rfl some

theorem tabStep_remembers (device : Device) (tab : Tab) (event : Event)
    (remembers : Remembers tab.watcher tab.choice) (apart : keptApart device tab event) :
    Remembers (tabStep device tab event).watcher (tabStep device tab event).choice := by
  cases event with
  | chosen choice => exact remembers.chosen apart.1 apart.2
  | navigation navigation =>
    by_cases counts : navigation.isInPrimaryMainFrame = true /\ navigation.isSameDocument = false
    · cases store : isChromeWebStore device navigation.url with
      | false => exact (navigation_elsewhere remembers counts.1 counts.2 store apart).2
      | true => exact (navigation_store remembers counts.1 counts.2 store apart).2
    · have ignored : didStartNavigation device navigation tab.watcher = tab.watcher := by
        rw [didStartNavigation, if_pos]
        by_cases main : navigation.isInPrimaryMainFrame = true
        · simpa [main] using counts
        · simp [main]
      simp only [tabStep, step, ignored]
      exact remembers

theorem run_inForce {events : List Event}
    (apart : Follows (keptApart device) (tabStep device) (opened choice)
      (events ++ [.navigation navigation]))
    (main : navigation.isInPrimaryMainFrame = true) (document : navigation.isSameDocument = false) :
    ((events ++ [Event.navigation navigation]).foldl (tabStep device) (opened choice)).watcher.inForce =
      inForceFor device navigation.url navigation.mobilePhoneUi
        (events.foldl (tabStep device) (opened choice)).choice := by
  obtain ⟨before, last, _⟩ := (follows_append events [Event.navigation navigation]).mp apart
  have remembers : Remembers (events.foldl (tabStep device) (opened choice)).watcher
      (events.foldl (tabStep device) (opened choice)).choice :=
    @Follows.preserves _ _ _ _ (fun tab => Remembers tab.watcher tab.choice)
      (tabStep_remembers device) _ _ before (opened_remembers choice)
  rw [List.foldl_append]
  cases store : isChromeWebStore device navigation.url with
  | false => exact (navigation_elsewhere remembers main document store last).1
  | true => exact (navigation_store remembers main document store last).1

theorem inForceFor_ordinary (mobilePhoneUi : Bool) (choice : Choice)
    (other : isChromeWebStore device url = false) (none : userAgentPolicyFor device url = .none) :
    inForceFor device url mobilePhoneUi choice = choice := by
  rw [inForceFor, treatment_other other, none]

theorem appGallery_of_policy
    (policy : userAgentPolicyFor device url = .appGallery) :
    isHuaweiAppGallery device url = true := by
  unfold userAgentPolicyFor at policy
  split at policy
  · rename_i gallery
    exact gallery
  · split at policy <;> cases policy

theorem inForceFor_arkWeb
    (has : contains (inForceFor device url mobilePhoneUi choice).override.uaStringOverride
      "ArkWeb/" = true) :
    isHuaweiAppGallery device url = true \/
      contains choice.override.uaStringOverride "ArkWeb/" = true ∨
      ∃ custom, device.userAgentFromCommandLine = some custom /\
        contains custom "ArkWeb/" = true := by
  cases treated : treatment device url mobilePhoneUi choice with
  | store =>
    rw [inForceFor, treated] at has
    exact Or.inr (Or.inr (getUserAgentForOhos_arkWeb device (storeUserAgent_arkWeb device has)))
  | site policy =>
    cases policy with
    | none =>
      rw [inForceFor, treated] at has
      exact Or.inr (Or.inl has)
    | appGallery =>
      refine Or.inl (appGallery_of_policy ?_)
      unfold treatment at treated
      split at treated
      · cases treated
      · exact Treatment.site.inj treated
    | google =>
      rw [inForceFor, treated] at has
      rcases compatibleUserAgent_google_arkWeb device has with own | device
      · exact Or.inr (Or.inl own)
      · exact Or.inr (Or.inr (getUserAgentForOhos_arkWeb _ device))

-- Whatever the watcher remembers.
theorem google_plain (device : Device) (navigation : Navigation) (watcher : Watcher)
    (main : navigation.isInPrimaryMainFrame = true) (document : navigation.isSameDocument = false)
    (google : userAgentPolicyFor device navigation.url = .google) :
    contains (didStartNavigation device navigation watcher).current token = false := by
  have applies (watcher : Watcher) :
      (applySiteUserAgent device navigation false watcher).1 = true /\
        contains (applySiteUserAgent device navigation false watcher).2.current token = false := by
    obtain ⟨done, applied⟩ := applySite_applied device navigation watcher (by simp [google])
    refine ⟨done, ?_⟩
    rw [Watcher.current, applied.inForce, google]
    exact compatibleUserAgent_google_plain device _ _
  have installed (watcher : Watcher) : contains (installStore device watcher).current token = false :=
    googleUserAgent_plain _
  cases store : isChromeWebStore device navigation.url with
  | false =>
    rw [didStart_elsewhere device navigation watcher main document store]
    simp only [(applies _).1, if_true]
    exact (applies _).2
  | true =>
    obtain ⟨cleared, applied⟩ : ∃ cleared, applySiteUserAgent device navigation true
        { watcher with isOverridingUserAgent := none } = (false, cleared) := ⟨_, rfl⟩
    rw [didStart_store device navigation watcher main document store applied]
    split
    · exact installed _
    · simp only
      split
      · exact (applies _).2
      · exact installed _

theorem site_user_agent_policy (device : Device) :
    (forall (first second : Choice) (before earlier : List Event) (last final : Navigation),
      last.isInPrimaryMainFrame = true -> last.isSameDocument = false ->
      final.isInPrimaryMainFrame = true -> final.isSameDocument = false ->
      Follows (keptApart device) (tabStep device) (opened first) (before ++ [.navigation last]) ->
      Follows (keptApart device) (tabStep device) (opened second)
        (earlier ++ [.navigation final]) ->
      last.url = final.url -> last.mobilePhoneUi = final.mobilePhoneUi ->
      (before.foldl (tabStep device) (opened first)).choice =
        (earlier.foldl (tabStep device) (opened second)).choice ->
      ((before ++ [Event.navigation last]).foldl (tabStep device) (opened first)).watcher.inForce =
        ((earlier ++ [Event.navigation final]).foldl (tabStep device)
          (opened second)).watcher.inForce) ∧
    (forall (choice : Choice) (events : List Event) (navigation : Navigation),
      navigation.isInPrimaryMainFrame = true -> navigation.isSameDocument = false ->
      Follows (keptApart device) (tabStep device) (opened choice)
        (events ++ [.navigation navigation]) ->
      let chosen := (events.foldl (tabStep device) (opened choice)).choice
      let inForce := ((events ++ [Event.navigation navigation]).foldl (tabStep device)
        (opened choice)).watcher.inForce
      (isChromeWebStore device navigation.url = false ->
        userAgentPolicyFor device navigation.url = .none -> inForce = chosen) ∧
      (contains inForce.override.uaStringOverride "ArkWeb/" = true ->
        isHuaweiAppGallery device navigation.url = true ∨
        contains chosen.override.uaStringOverride "ArkWeb/" = true ∨
        exists custom, device.userAgentFromCommandLine = some custom ∧
          contains custom "ArkWeb/" = true)) ∧
    forall (watcher : Watcher) (navigation : Navigation),
      navigation.isInPrimaryMainFrame = true -> navigation.isSameDocument = false ->
      userAgentPolicyFor device navigation.url = .google ->
      contains (didStartNavigation device navigation watcher).current token = false := by
  refine ⟨?_, ?_, ?_⟩
  · intro first second before earlier last final main document main' document' left right url form same
    rw [run_inForce left main document, run_inForce right main' document', url, form, same]
  · intro choice events navigation main document apart
    simp only
    rw [run_inForce apart main document]
    exact ⟨inForceFor_ordinary _ _, inForceFor_arkWeb⟩
  · intro watcher navigation main document google
    exact google_plain device navigation watcher main document google

def tablet : Device where
  library :=
    { parse := fun text => { possiblyInvalidSpec := text }
      isValid := fun _ => true
      scheme := fun _ => "https"
      hasUsername := fun _ => false
      hasPassword := fun _ => false
      hasQuery := fun _ => false
      hasRef := fun _ => false
      host := fun url => url.possiblyInvalidSpec
      hostNoBrackets := fun url => url.possiblyInvalidSpec
      path := fun _ => "/"
      clearQueryAndRef := fun url => url
      serializedOrigin := fun url => url.possiblyInvalidSpec
      assignFromIPLiteral := fun _ => none
      isPubliclyRoutable := fun _ => true }
  isGoogleAssociatedDomainUrl := fun _ => false
  userAgentFromCommandLine := none
  product := "Chrome/154.0.0.0"
  majorMinor := "7.0"
  cpu := "aarch64"
  desktopSiteArchitecture := "arm"
  metadata :=
    { platform := "HarmonyOS", platformVersion := "7.0.0.105", architecture := "arm", model := ""
      mobile := false, bitness := "64", wow64 := false, formFactors := ["Tablet"] }
  formFactors := fun _ _ => ["Tablet"]
  operatingSystemVersion := "5.10.0"
  plain := by decide

def onVideo : Navigation := { url := { possiblyInvalidSpec := "youtu.be" } }

def onNews : Navigation := { url := { possiblyInvalidSpec := "news.example" } }

def desktopChoice : Choice :=
  { override := auraShellDesktopSiteUserAgent tablet false, pinned := true }

variable {userAgent : List Char}

theorem withoutTokens_found {start : Nat} (found : indexOf token.toList userAgent 0 = some start) :
    withoutTokens userAgent = withoutTokens (eraseToken userAgent start) := by
  rw [withoutTokens]
  split
  · rename_i none
    rw [none] at found
    cases found
  · rename_i other own
    rw [own] at found
    rw [Option.some.inj found]

theorem withoutTokens_none (none : indexOf token.toList userAgent 0 = none) :
    withoutTokens userAgent = userAgent := by
  rw [withoutTokens]
  split
  · rfl
  · rename_i found
    rw [none] at found
    cases found

theorem tablet_string : (getUserAgentForOhos tablet false).toList =
    "Mozilla/5.0 (X11; Linux aarch64) AppleWebKit/537.36 (KHTML, like Gecko) Chrome/154.0.0.0 Safari/537.36 OpenHarmony/7.0".toList := by
  rw [show getUserAgentForOhos tablet false =
    "Mozilla/5.0 (X11; Linux " ++ "aarch64" ++ ") AppleWebKit/537.36 (KHTML, like Gecko) " ++ "Chrome/154.0.0.0" ++
      " Safari/537.36" ++ (" OpenHarmony/" ++ "7.0") from rfl]
  simp only [String.toList_append]
  repeat rw [String.toList_ofList]
  rfl

theorem desktop_override (device : Device) {start stop : Nat}
    (starts : indexOf "Chrome/".toList (getUserAgentForOhos device false).toList 0 = some start)
    (stops : indexOf [' '] (getUserAgentForOhos device false).toList start = some stop) :
    (auraShellDesktopSiteUserAgent device false).uaStringOverride =
      "Mozilla/5.0 (X11; Linux " ++ device.cpu ++ ") AppleWebKit/537.36 (KHTML, like Gecko) " ++
        String.ofList (((getUserAgentForOhos device false).toList.drop start).take (stop - start)) ++ " Safari/537.36" := by
  simp only [auraShellDesktopSiteUserAgent, starts, stops]

theorem desktop_string : desktopChoice.override.uaStringOverride.toList =
    "Mozilla/5.0 (X11; Linux aarch64) AppleWebKit/537.36 (KHTML, like Gecko) Chrome/154.0.0.0 Safari/537.36".toList := by
  have starts : indexOf "Chrome/".toList (getUserAgentForOhos tablet false).toList 0 = some 72 := by
    rw [tablet_string, String.toList_ofList, String.toList_ofList]
    decide
  have stops : indexOf [' '] (getUserAgentForOhos tablet false).toList 72 = some 88 := by
    rw [tablet_string, String.toList_ofList]
    decide
  rw [show desktopChoice.override.uaStringOverride = _ from desktop_override tablet starts stops, tablet_string]
  simp only [String.toList_append]
  rw [show tablet.cpu = "aarch64" from rfl]
  repeat rw [String.toList_ofList]
  rfl

-- Without its token a tablet's own string is the desktop site's.
theorem tablet_google :
    googleUserAgent (getUserAgentForOhos tablet false) =
      desktopChoice.override.uaStringOverride := by
  have found : indexOf token.toList (getUserAgentForOhos tablet false).toList 0 = some 102 := by
    rw [tablet_string, token, String.toList_ofList, String.toList_ofList]
    decide
  have rest : eraseToken (getUserAgentForOhos tablet false).toList 102 =
      desktopChoice.override.uaStringOverride.toList := by
    rw [tablet_string, desktop_string, String.toList_ofList, String.toList_ofList]
    decide
  have plain : indexOf token.toList desktopChoice.override.uaStringOverride.toList 0 = none := by
    rw [desktop_string, token, String.toList_ofList, String.toList_ofList]
    decide
  rw [googleUserAgent, withoutTokens_found found, rest, withoutTokens_none plain, String.ofList_toList]

theorem video_policy : userAgentPolicyFor tablet onVideo.url = .google := by decide

theorem news_policy : userAgentPolicyFor tablet onNews.url = .none := by decide

-- What the tab is after a video page, opened with no override.
theorem after_video :
    let watcher := didStartNavigation tablet onVideo (opened {}).watcher
    watcher.siteUa = desktopChoice.override.uaStringOverride ∧ watcher.storeUa = "" ∧
      watcher.beforeSite = {} /\ watcher.HasPolicy := by
  rw [didStart_elsewhere tablet onVideo _ rfl rfl (by decide)]
  obtain ⟨done, applied⟩ := applySite_applied tablet onVideo
    (leaveStore { (opened {}).watcher with isOverridingUserAgent := none }) (by decide)
  simp only [done, if_true]
  have string : (applySiteUserAgent tablet onVideo false
      (leaveStore { (opened {}).watcher with isOverridingUserAgent := none })).2.siteUa =
      desktopChoice.override.uaStringOverride := by
    rw [applied.siteUa, Watcher.current, applied.inForce, video_policy, <- tablet_google]
    rfl
  refine ⟨string, applied.storeUa, applied.beforeSite, fun _ => ?_⟩
  rw [applied.sitePolicy]
  decide

theorem desktop_string_nonempty : desktopChoice.override.uaStringOverride ≠ "" := by
  intro empty
  have chars := congrArg String.toList empty
  rw [desktop_string, String.toList_ofList] at chars
  cases chars

-- An override with the site policy's string is taken for it.
theorem ordinary_restores {device : Device} {navigation : Navigation} {watcher : Watcher}
    (main : navigation.isInPrimaryMainFrame = true) (document : navigation.isSameDocument = false)
    (other : isChromeWebStore device navigation.url = false)
    (policy : userAgentPolicyFor device navigation.url = .none) (noStore : watcher.storeUa = "")
    (has : watcher.HasPolicy) (ours : watcher.siteOurs) :
    (didStartNavigation device navigation watcher).inForce = watcher.beforeSite := by
  have outside (tab : Watcher) (empty : tab.storeUa = "") : leaveStore tab = tab :=
    if_neg fun store => store.1 empty
  rw [didStart_elsewhere device navigation watcher main document other]
  simp only [outside { watcher with isOverridingUserAgent := none } noStore]
  obtain ⟨ended, cleared⟩ := applySite_cleared device navigation false
    (show Watcher.HasPolicy { watcher with isOverridingUserAgent := none } from has) (.inr policy)
  rw [ended, if_neg Bool.false_ne_true, outside _ (cleared.storeUa.trans noStore), cleared.inForce]
  exact if_pos ours

theorem chosen_siteOurs
    (same : watcher.siteUa = choice.override.uaStringOverride)
    (nonempty : choice.override.uaStringOverride ≠ "") :
    Watcher.siteOurs { watcher with inForce := choice } :=
  ⟨fun empty => nonempty (same.symm.trans empty), same.symm⟩

theorem news_restores {watcher : Watcher} {chosen : Choice} (siteUa : watcher.siteUa = chosen.override.uaStringOverride)
    (noStore : watcher.storeUa = "") (has : watcher.HasPolicy) (nonempty : chosen.override.uaStringOverride ≠ "") :
    (didStartNavigation tablet onNews { watcher with inForce := chosen }).inForce = watcher.beforeSite :=
  ordinary_restores rfl rfl (by decide) news_policy noStore has (chosen_siteOurs siteUa nonempty)

/-- A tablet's user who asks for the desktop site on a video page loses it with the next page. -/
theorem desktop_site_lost :
    ¬ forall (device : Device) (choice : Choice) (events : List Event) (navigation : Navigation),
      navigation.isInPrimaryMainFrame = true -> navigation.isSameDocument = false ->
      isChromeWebStore device navigation.url = false ->
      userAgentPolicyFor device navigation.url = .none ->
      ((events ++ [Event.navigation navigation]).foldl (tabStep device)
        (opened choice)).watcher.inForce =
        (events.foldl (tabStep device) (opened choice)).choice := by
  intro all
  obtain ⟨siteUa, storeUa, beforeSite, has⟩ := after_video
  have nonempty := desktop_string_nonempty
  generalize desktopChoice = chosen at siteUa nonempty
  have claimed := all tablet {} [.navigation onVideo, .chosen chosen] onNews rfl rfl (by decide)
    news_policy
  have restored := news_restores siteUa storeUa has nonempty
  have gone : chosen = {} := claimed.symm.trans (restored.trans beforeSite)
  refine nonempty ?_
  rw [gone]

def mine : Choice := { override := { uaStringOverride := "Mine/1.0" }, pinned := true }

theorem site_user_agent_policy_tablet :
    (([Event.navigation onVideo, .chosen mine] ++ [Event.navigation onNews]).foldl
      (tabStep tablet) (opened {})).watcher.inForce = mine := by
  obtain ⟨siteUa, storeUa, _, _⟩ := after_video
  have video : keptApart tablet (opened {}) (.navigation onVideo) := by
    intro _ _
    have treated : treatment tablet onVideo.url onVideo.mobilePhoneUi (opened {}).choice =
        .site .google := by rw [treatment_other (by decide), video_policy]
    rw [treated]
    have string : (compatibleUserAgent tablet onVideo.mobilePhoneUi .google
        (opened {}).choice.override).uaStringOverride =
        desktopChoice.override.uaStringOverride := by
      rw [<- tablet_google]
      rfl
    simp only [string]
    exact ⟨fun _ => ⟨desktop_string_nonempty, fun empty => absurd empty desktop_string_nonempty⟩,
      fun store => absurd store (by decide)⟩
  have apart : mine.override.uaStringOverride ≠ desktopChoice.override.uaStringOverride := by
    intro same
    have chars := congrArg String.toList same
    rw [desktop_string, mine, String.toList_ofList, String.toList_ofList] at chars
    exact absurd chars (by decide)
  have chosen : keptApart tablet (tabStep tablet (opened {}) (.navigation onVideo))
      (.chosen mine) :=
    ⟨fun some => absurd storeUa some, fun _ same => absurd (same.trans siteUa) apart⟩
  have news (tab : Tab) : keptApart tablet tab (.navigation onNews) := by
    intro _ _
    rw [treatment_other (by decide), news_policy]
    exact ⟨fun some => absurd rfl some, fun store => absurd store (by decide)⟩
  exact ((site_user_agent_policy tablet).2.1 {} [.navigation onVideo, .chosen mine] onNews rfl rfl
    ⟨video, chosen, news _, trivial⟩).1 (by decide) news_policy

end ChromiumHmos.Shell.SiteUserAgent
