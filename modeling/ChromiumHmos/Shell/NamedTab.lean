import ChromiumHmos.Shell.TabCommands

set_option autoImplicit false

/-!
# Commands that name their tab

Where the window still has the tab of that id, a command acts on it and on no other. Where it has not, the
commands that were given the tab's place as well act on whatever tab is there now.
-/

namespace ChromiumHmos.Shell.TabStrip

open Base

def IsNamed (id : String) (tab : StripTab) : Prop := shellTabId tab = id

def HasNamed (s : TabStrip) (id : String) : Prop := exists tab, tab ∈ s.tabs ∧ IsNamed id tab

def othersOf (id : String) (tabs : List StripTab) : List StripTab := tabs.filter (shellTabId · ≠ id)

/-- The tab a close may go back to. -/
def IsOpener (chromium : Chromium) (s : TabStrip) (command : DictValue) (id : String) (contents : Nat) : Prop :=
  command.findBool "returnToOpener" = some true ∧
    exists target, target ∈ s.tabs ∧ IsNamed id target ∧ chromium.pageOpenerOf target = some contents

structure OnlyNamed (chromium : Chromium) (s : TabStrip) (command : DictValue) (kind : TabCommand) (id : String)
    (done : Done) : Prop where
  named : forall act, act ∈ done.2 -> IsNamed id act.tab ∨
    kind = .closeTabById ∧ act = .activated act.tab ∧ IsOpener chromium s command id act.tab.contents
  active : done.1.active = s.active ∨ (exists tab, tab ∈ s.tabs ∧ IsNamed id tab ∧ s.active = some tab.contents) ∨
    exists tab, .activated tab ∈ done.2 ∧ done.1.active = some tab.contents
  gone : ¬ s.HasNamed id -> done = (s, [])
  others : othersOf id done.1.tabs = othersOf id s.tabs

/-- With no tab of that id, a command is left with nothing to act on. -/
def Harmless (chromium : Chromium) (s : TabStrip) (command : DictValue) : TabCommand -> Prop
  | .activateTabById | .closeTabById => True
  | .activateTab => s.givenIndex command = none
  | .closeTab | .setTabMuted => s.tabs = []
  | .moveTabToNewWindow => s.tabs.length <= 1 ∨
      forall index, s.givenIndex command = some index ->
        forall tab, s.webContentsAt index = some tab -> chromium.canMoveTabsToNewWindow tab = false
  | .moveTab => s.givenIndex command = none ∨ command.findInt "toIndex" = none

variable {tab : StripTab}

theorem same_contents (s : TabStrip) {other : StripTab} (member : tab ∈ s.tabs) (inside : other ∈ s.tabs)
    (same : tab.contents = other.contents) : tab = other :=
  List.inj_on_of_nodup_map s.distinct member inside same

variable {s : TabStrip}

theorem webContentsAt_some {index : Int} (found : s.webContentsAt index = some tab) :
    tab ∈ s.tabs := by
  unfold webContentsAt at found
  split at found
  · exact List.mem_of_getElem? found
  · exact absurd found (by simp)

theorem containsIndex_webContentsAt {index : Int} (inside : s.containsIndex index = true) :
    ∃ tab, s.webContentsAt index = some tab := by
  have range : 0 <= index /\ index < s.tabs.length := by simpa [containsIndex] using inside
  have bound : index.toNat < s.tabs.length := by omega
  exact ⟨s.tabs[index.toNat], by simp [webContentsAt, range.1, bound]⟩

theorem getIndexOfWebContents_spec (s : TabStrip) (member : tab ∈ s.tabs) :
    ∃ index, s.getIndexOfWebContents tab.contents = some index /\ s.webContentsAt index = some tab /\
      s.containsIndex index = true := by
  have exists_at : (s.tabs.findIdx? (·.contents = tab.contents)).isSome := by
    rw [List.findIdx?_isSome]
    exact List.any_eq_true.mpr ⟨tab, member, by simp⟩
  obtain ⟨place, found⟩ := Option.isSome_iff_exists.mp exists_at
  obtain ⟨bound, matching, -⟩ := List.findIdx?_eq_some_iff_getElem.mp found
  have same : s.tabs[place] = tab := s.same_contents (List.getElem_mem bound) member (by simpa using matching)
  refine ⟨place, by simp [getIndexOfWebContents, found], ?_, ?_⟩
  · simp [webContentsAt, bound, same]
  · simpa [containsIndex] using bound

theorem getIndexOfWebContents_some {contents : Nat} {index : Int}
    (found : s.getIndexOfWebContents contents = some index) :
    ∃ tab, s.webContentsAt index = some tab /\ tab.contents = contents := by
  obtain ⟨place, at_place, rfl⟩ := Option.map_eq_some_iff.mp found
  obtain ⟨bound, matching, -⟩ := List.findIdx?_eq_some_iff_getElem.mp at_place
  exact ⟨s.tabs[place], by simp [webContentsAt, bound], by simpa using matching⟩

variable {id : String}

theorem findTabById_named (s : TabStrip) (nonempty : id ≠ "") (has : s.HasNamed id) :
    ∃ tab, s.findTabById (some id) = some tab /\ tab ∈ s.tabs /\ IsNamed id tab := by
  obtain ⟨other, inside, named⟩ := has
  have present : (s.tabs.find? fun tab => shellTabId tab = id).isSome := by
    rw [List.find?_isSome]
    exact ⟨other, inside, decide_eq_true named⟩
  obtain ⟨tab, found⟩ := Option.isSome_iff_exists.mp present
  refine ⟨tab, by simpa [findTabById, nonempty] using found, List.mem_of_find?_eq_some found, ?_⟩
  simpa [IsNamed] using List.find?_some found

theorem findTabById_gone (s : TabStrip) (gone : ¬ s.HasNamed id) : s.findTabById (some id) = none := by
  by_cases empty : id = ""
  · simp [findTabById, empty]
  · have missing : s.tabs.find? (fun tab => shellTabId tab = id) = none := by
      rw [List.find?_eq_none]
      intro tab inside named
      exact gone ⟨tab, inside, by simpa [IsNamed] using named⟩
    simpa [findTabById, empty] using missing

theorem readTabIndex_gone (s : TabStrip) {command : DictValue}
    (given : command.findString "id" = some id) (gone : ¬ s.HasNamed id) :
    s.readTabIndex command = s.givenIndex command := by
  simp [readTabIndex, given, s.findTabById_gone gone]

theorem readTabIndex_named (s : TabStrip) {command : DictValue}
    (given : command.findString "id" = some id) (nonempty : id ≠ "") (has : s.HasNamed id) :
    ∃ tab index, s.readTabIndex command = some index /\ s.webContentsAt index = some tab /\
      s.containsIndex index = true /\ tab ∈ s.tabs /\ IsNamed id tab := by
  obtain ⟨tab, found, inside, named⟩ := s.findTabById_named nonempty has
  obtain ⟨index, at_index, back, contained⟩ := s.getIndexOfWebContents_spec inside
  exact ⟨tab, index, by simp [readTabIndex, given, found, at_index], back, contained, inside, named⟩

theorem activeTab_spec (s : TabStrip) (some_tabs : s.tabs ≠ []) :
    ∃ tab, s.activeTab = some tab /\ tab ∈ s.tabs /\ s.active = some tab.contents := by
  rcases s.chosen with ⟨-, empty⟩ | ⟨other, inside, is_active⟩
  · exact absurd empty some_tabs
  · have present : s.activeTab.isSome := by
      rw [activeTab, List.find?_isSome]
      exact ⟨other, inside, by simpa using is_active⟩
    obtain ⟨tab, found⟩ := Option.isSome_iff_exists.mp present
    exact ⟨tab, found, List.mem_of_find?_eq_some found, by simpa using List.find?_some found⟩

theorem othersOf_without (member : tab ∈ s.tabs) (named : IsNamed id tab) :
    othersOf id (s.tabs.filter (·.contents ≠ tab.contents)) = othersOf id s.tabs := by
  unfold othersOf
  rw [List.filter_filter]
  refine List.filter_congr fun other inside => ?_
  by_cases apart : shellTabId other = id
  · simp [apart]
  · have distinct : other.contents ≠ tab.contents := fun same =>
      apart (s.same_contents inside member same ▸ named)
    simp [apart, distinct]

theorem othersOf_moved {tabs : List StripTab} (named : IsNamed id tab)
    (place : Nat) : othersOf id (moved tabs tab place) = othersOf id tabs := by
  have is_id : shellTabId tab = id := named
  have dropped : othersOf id [tab] = [] := by simp [othersOf, is_id]
  have joined : othersOf id (moved tabs tab place) = othersOf id (tabs.filter (· ≠ tab)) := by
    have split : othersOf id (moved tabs tab place) = othersOf id ((tabs.filter (· ≠ tab)).take place) ++
        othersOf id [tab] ++ othersOf id ((tabs.filter (· ≠ tab)).drop place) := by
      simp only [othersOf, moved, List.filter_append, List.append_assoc, List.append_cancel_left_eq]
      rw [<- List.filter_append, List.singleton_append]
    rw [split, dropped, List.append_nil, othersOf, othersOf, <- List.filter_append, List.take_append_drop, othersOf]
  rw [joined, othersOf, othersOf, List.filter_filter]
  refine List.filter_congr fun other _ => ?_
  by_cases same : other = tab
  · have gone : shellTabId other = id := same ▸ named
    simp [gone]
  · simp [same]

theorem othersOf_muted (member : tab ∈ s.tabs)
    (named : IsNamed id tab) (muted : Bool) : othersOf id (s.tabs.map (mute muted tab)) = othersOf id s.tabs := by
  have each : ∀ tabs : List StripTab, (∀ other ∈ tabs, other ∈ s.tabs) ->
      othersOf id (tabs.map (mute muted tab)) = othersOf id tabs := by
    intro tabs
    induction tabs with
    | nil => exact fun _ => rfl
    | cons head rest ih =>
      intro inside
      have later := ih fun other member => inside other (List.mem_cons_of_mem _ member)
      by_cases same : head.contents = tab.contents
      · have head_named : shellTabId head = id :=
          s.same_contents (inside head List.mem_cons_self) member same ▸ named
        have still : shellTabId (mute muted tab head) = id := by
          rw [shellTabId, mute_sessionId]
          exact head_named
        simpa [othersOf, head_named, still] using later
      · have kept : mute muted tab head = head := by simp [mute, same]
        simp only [othersOf, List.map_cons, kept, List.filter_cons] at later ⊢
        rw [later]
  exact each s.tabs fun _ member => member

section Present

variable {chromium : Chromium} {s : TabStrip} {command : DictValue} {kind : TabCommand} {id : String}

theorem OnlyNamed.acts {after : TabStrip} {act : Act} (member : act.tab ∈ s.tabs) (named : IsNamed id act.tab)
    (active : after.active = s.active \/ s.active = some act.tab.contents \/
      act = .activated act.tab /\ after.active = some act.tab.contents)
    (others : othersOf id after.tabs = othersOf id s.tabs) :
    OnlyNamed chromium s command kind id (after, [act]) where
  named := by
    intro other inside
    exact .inl (List.mem_singleton.mp inside ▸ named)
  active := by
    rcases active with same | was | ⟨made, now⟩
    · exact .inl same
    · exact .inr (.inl ⟨act.tab, member, named, was⟩)
    · exact .inr (.inr ⟨act.tab, by rw [<- made]; exact List.mem_singleton_self _, now⟩)
  gone := fun missing => absurd ⟨act.tab, member, named⟩ missing
  others := others

theorem OnlyNamed.nothing (has : s.HasNamed id) : OnlyNamed chromium s command kind id (s, []) where
  named := fun _ inside => absurd inside List.not_mem_nil
  active := .inl rfl
  gone := fun missing => absurd has missing
  others := rfl

theorem remove_active (chromium : Chromium) (tab : StripTab) :
    (s.remove chromium tab).active = s.active \/ s.active = some tab.contents := by
  by_cases was : s.active = some tab.contents
  · exact .inr was
  · exact .inl (by simp [remove, removed, was])

variable {index : Int} {tab : StripTab}

theorem activateTabAt_named (found : s.webContentsAt index = some tab) (named : IsNamed id tab) :
    OnlyNamed chromium s command kind id (s.activateTabAt index) := by
  have member := webContentsAt_some found
  have made : s.activateTabAt index = (s.activate tab member, [.activated tab]) := by
    simp [activateTabAt, found, member]
  rw [made]
  exact .acts member named (.inr (.inr ⟨rfl, rfl⟩)) rfl

theorem closeWebContentsAt_named (found : s.webContentsAt index = some tab) (named : IsNamed id tab) :
    OnlyNamed chromium s command kind id (s.closeWebContentsAt chromium index) := by
  have member := webContentsAt_some found
  by_cases now : chromium.closesAtOnce tab = true
  · have made : s.closeWebContentsAt chromium index = (s.remove chromium tab, [.closed tab]) := by
      simp [closeWebContentsAt, found, now]
    rw [made]
    refine .acts member named ?_ (othersOf_without member named)
    rcases remove_active chromium tab with same | was
    · exact .inl same
    · exact .inr (.inl was)
  · have made : s.closeWebContentsAt chromium index = (s, [.closed tab]) := by
      simp [closeWebContentsAt, found, now]
    rw [made]
    exact .acts member named (.inl rfl) rfl

theorem moveWebContentsAt_named (place : Nat) (found : s.webContentsAt index = some tab) (named : IsNamed id tab) :
    OnlyNamed chromium s command kind id (s.moveWebContentsAt chromium index place) := by
  have member := webContentsAt_some found
  have made : s.moveWebContentsAt chromium index place =
      (s.move tab member (chromium.constrainMoveIndex s.tabs tab.contents place), [.moved tab]) := by
    simp [moveWebContentsAt, found, member]
  rw [made]
  exact .acts member named (.inl rfl) (othersOf_moved named _)

theorem moveTabsToNewWindow_named (found : s.webContentsAt index = some tab) (named : IsNamed id tab) :
    OnlyNamed chromium s command kind id (s.moveTabsToNewWindow chromium index) := by
  have member := webContentsAt_some found
  by_cases can : chromium.canMoveTabsToNewWindow tab = true
  · have made : s.moveTabsToNewWindow chromium index = (s.remove chromium tab, [.movedToNewWindow tab]) := by
      simp [moveTabsToNewWindow, found, can]
    rw [made]
    refine .acts member named ?_ (othersOf_without member named)
    rcases remove_active chromium tab with same | was
    · exact .inl same
    · exact .inr (.inl was)
  · have made : s.moveTabsToNewWindow chromium index = (s, []) := by
      simp [moveTabsToNewWindow, found, can]
    rw [made]
    exact .nothing ⟨tab, member, named⟩

theorem navigateActive_named (member : tab ∈ s.tabs) (named : IsNamed id tab) (alone : s.tabs.length <= 1) :
    OnlyNamed chromium s command kind id s.navigateActive := by
  obtain ⟨current, found, inside, -⟩ := s.activeTab_spec (List.ne_nil_of_mem member)
  have single : current = tab := by
    rcases shape : s.tabs with _ | ⟨only, rest⟩
    · rw [shape] at member
      exact absurd member List.not_mem_nil
    · have none_more : rest = [] := by
        rw [shape] at alone
        simpa using alone
      rw [shape, none_more] at member inside
      exact (List.mem_singleton.mp inside).trans (List.mem_singleton.mp member).symm
  have made : s.navigateActive = (s, [.navigated tab]) := by simp [navigateActive, found, single]
  rw [made]
  exact .acts member named (.inl rfl) rfl

theorem setTabMuted_named (given : command.findString "id" = some id) (nonempty : id ≠ "") (has : s.HasNamed id) :
    OnlyNamed chromium s command .setTabMuted id (s.setTabMuted command) := by
  obtain ⟨target, found, member, named⟩ := s.findTabById_named nonempty has
  have made : s.setTabMuted command =
      (s.setAudioMuted target ((command.findBool "muted").getD false), [.muted target]) := by
    simp [setTabMuted, given, found]
  rw [made]
  exact .acts member named (.inl rfl) (othersOf_muted member named _)

theorem closeTab_named (given : command.findString "id" = some id) (nonempty : id ≠ "") (has : s.HasNamed id) :
    OnlyNamed chromium s command .closeTab id (s.closeTab chromium command) := by
  obtain ⟨target, place, read, found, contained, member, named⟩ := s.readTabIndex_named given nonempty has
  by_cases several : 1 < s.tabs.length
  · have made : s.closeTab chromium command = s.closeWebContentsAt chromium place := by
      simp [closeTab, read, contained, several]
    rw [made]
    exact closeWebContentsAt_named found named
  · have made : s.closeTab chromium command = s.navigateActive := by
      simp [closeTab, several]
    rw [made]
    exact navigateActive_named member named (Nat.le_of_not_lt several)

theorem returned_named {done : Done} {back : Int} {contents : Nat}
    (closed : OnlyNamed chromium s command .closeTabById id done) (has : s.HasNamed id)
    (isOpener : IsOpener chromium s command id contents)
    (there : done.1.getIndexOfWebContents contents = some back) :
    OnlyNamed chromium s command .closeTabById id
      ((done.1.activateTabAt back).1, done.2 ++ (done.1.activateTabAt back).2) := by
  obtain ⟨opener, found, same⟩ := getIndexOfWebContents_some there
  have member := webContentsAt_some found
  have made : done.1.activateTabAt back = (done.1.activate opener member, [.activated opener]) := by
    simp [activateTabAt, found, member]
  rw [made]
  refine ⟨fun act inside => ?_, .inr (.inr ⟨opener, by simp, rfl⟩), fun missing => absurd has missing, closed.others⟩
  rcases List.mem_append.mp inside with earlier | last
  · exact closed.named act earlier
  · obtain rfl := List.mem_singleton.mp last
    exact .inr ⟨rfl, rfl, by simpa [Act.tab, same] using isOpener⟩

theorem closeTabById_named (given : command.findString "id" = some id) (nonempty : id ≠ "") (has : s.HasNamed id) :
    OnlyNamed chromium s command .closeTabById id (s.closeTabById chromium command) := by
  obtain ⟨target, found, member, named⟩ := s.findTabById_named nonempty has
  obtain ⟨place, at_place, there, -⟩ := s.getIndexOfWebContents_spec member
  by_cases alone : s.tabs.length <= 1
  · have made : s.closeTabById chromium command = s.navigateActive := by
      simp [closeTabById, given, found, at_place, alone]
    rw [made]
    exact navigateActive_named member named alone
  have closed : OnlyNamed chromium s command .closeTabById id (s.closeWebContentsAt chromium place) :=
    closeWebContentsAt_named there named
  rcases back : (if (command.findBool "returnToOpener").getD false then chromium.pageOpenerOf target else none).bind
      (s.closeWebContentsAt chromium place).1.getIndexOfWebContents with _ | index
  · have made : s.closeTabById chromium command = s.closeWebContentsAt chromium place := by
      simp [closeTabById, given, found, at_place, alone, back]
    rw [made]
    exact closed
  · obtain ⟨contents, opener, at_back⟩ := Option.bind_eq_some_iff.mp back
    have asked : command.findBool "returnToOpener" = some true := by
      by_contra unasked
      have no : (command.findBool "returnToOpener").getD false = false := by
        rcases answer : command.findBool "returnToOpener" with _ | _ | _
        · rfl
        · rfl
        · exact absurd answer unasked
      simp [no] at opener
    have isOpener : IsOpener chromium s command id contents :=
      ⟨asked, target, member, named, by simpa [asked] using opener⟩
    have made : s.closeTabById chromium command =
        (((s.closeWebContentsAt chromium place).1.activateTabAt index).1,
          (s.closeWebContentsAt chromium place).2 ++
            ((s.closeWebContentsAt chromium place).1.activateTabAt index).2) := by
      simp [closeTabById, given, found, at_place, alone, back]
    rw [made]
    exact returned_named closed has isOpener at_back

theorem execute_spec (chromium : Chromium) (s : TabStrip) (command : DictValue) :
    s.executeBrowserCommand chromium command .activateTabById =
      ((s.findTabById (command.findString "id")).bind fun tab => s.getIndexOfWebContents tab.contents).elim (s, [])
        s.activateTabAt /\
    s.executeBrowserCommand chromium command .activateTab = (s.readTabIndex command).elim (s, []) s.activateTabAt /\
    s.executeBrowserCommand chromium command .moveTabToNewWindow = ((s.readTabIndex command).elim (s, []) fun index =>
      if 1 < s.tabs.length then s.moveTabsToNewWindow chromium index else (s, [])) /\
    s.executeBrowserCommand chromium command .moveTab = ((s.readTabIndex command).elim (s, []) fun index =>
      (command.findInt "toIndex").elim (s, []) fun place =>
        s.moveWebContentsAt chromium index (max 0 (min place (s.tabs.length - 1))).toNat) := by
  unfold executeBrowserCommand
  refine ⟨?_, ?_, ?_, ?_⟩
  · cases (s.findTabById (command.findString "id")).bind fun tab => s.getIndexOfWebContents tab.contents <;> rfl
  · cases s.readTabIndex command <;> rfl
  · cases s.readTabIndex command <;> rfl
  · cases s.readTabIndex command <;> cases command.findInt "toIndex" <;> rfl

theorem named_acts (given : command.findString "id" = some id) (nonempty : id ≠ "") (has : s.HasNamed id) :
    OnlyNamed chromium s command kind id (s.executeBrowserCommand chromium command kind) := by
  obtain ⟨target, place, read, there, -, member, named⟩ := s.readTabIndex_named given nonempty has
  cases kind with
  | activateTabById =>
    obtain ⟨tab, found, inside, tab_named⟩ := s.findTabById_named nonempty has
    obtain ⟨index, at_index, back, -⟩ := s.getIndexOfWebContents_spec inside
    have made : s.executeBrowserCommand chromium command .activateTabById = s.activateTabAt index := by
      simp [execute_spec, given, found, at_index]
    rw [made]
    exact activateTabAt_named back tab_named
  | closeTabById => exact closeTabById_named given nonempty has
  | activateTab =>
    have made : s.executeBrowserCommand chromium command .activateTab = s.activateTabAt place := by
      simp [execute_spec, read]
    rw [made]
    exact activateTabAt_named there named
  | closeTab => exact closeTab_named given nonempty has
  | moveTabToNewWindow =>
    by_cases several : 1 < s.tabs.length
    · have made : s.executeBrowserCommand chromium command .moveTabToNewWindow =
          s.moveTabsToNewWindow chromium place := by
        simp [execute_spec, read, several]
      rw [made]
      exact moveTabsToNewWindow_named there named
    · have made : s.executeBrowserCommand chromium command .moveTabToNewWindow = (s, []) := by
        simp [execute_spec, read, several]
      rw [made]
      exact .nothing has
  | moveTab =>
    rcases aimed : command.findInt "toIndex" with _ | goal
    · have made : s.executeBrowserCommand chromium command .moveTab = (s, []) := by
        simp [execute_spec, read, aimed]
      rw [made]
      exact .nothing has
    · have made : s.executeBrowserCommand chromium command .moveTab =
          s.moveWebContentsAt chromium place (max 0 (min goal (s.tabs.length - 1))).toNat := by
        simp [execute_spec, read, aimed]
      rw [made]
      exact moveWebContentsAt_named _ there named
  | setTabMuted => exact setTabMuted_named given nonempty has

end Present

section Gone

variable {chromium : Chromium} {s : TabStrip} {command : DictValue} {id : String}

theorem OnlyNamed.nothing_done {kind : TabCommand} {done : Done}
    (only : OnlyNamed chromium s command kind id done) (gone : ¬ s.HasNamed id) : done.2 = [] :=
  congrArg Prod.snd (only.gone gone)

theorem OnlyNamed.untouched {kind : TabCommand} : OnlyNamed chromium s command kind id (s, []) where
  named := fun _ inside => absurd inside List.not_mem_nil
  active := .inl rfl
  gone := fun _ => rfl
  others := rfl

theorem givenIndex_at {index : Int} (given : s.givenIndex command = some index) :
    ∃ tab, s.webContentsAt index = some tab :=
  containsIndex_webContentsAt (Option.filter_eq_some_iff.mp given).2

theorem activateTab_gone (given : command.findString "id" = some id) (gone : ¬ s.HasNamed id) :
    OnlyNamed chromium s command .activateTab id (s.executeBrowserCommand chromium command .activateTab) ↔
      s.givenIndex command = none := by
  have read := s.readTabIndex_gone given gone
  rcases there : s.givenIndex command with _ | index
  · have made : s.executeBrowserCommand chromium command .activateTab = (s, []) := by
      simp [execute_spec, read, there]
    rw [made]
    exact iff_of_true .untouched rfl
  · obtain ⟨tab, found⟩ := givenIndex_at there
    have made : s.executeBrowserCommand chromium command .activateTab =
        (s.activate tab (webContentsAt_some found), [.activated tab]) := by
      simp [execute_spec, read, there, activateTabAt, found, webContentsAt_some found]
    rw [made]
    refine iff_of_false (fun only => ?_) (by simp)
    exact absurd (only.nothing_done gone) (by simp)

theorem closeTab_gone (gone : ¬ s.HasNamed id) :
    OnlyNamed chromium s command .closeTab id (s.closeTab chromium command) ↔ s.tabs = [] := by
  by_cases empty : s.tabs = []
  · have none_active : s.activeTab = none := by simp [activeTab, empty]
    have made : s.closeTab chromium command = (s, []) := by
      simp [closeTab, empty, navigateActive, none_active]
    rw [made]
    exact iff_of_true .untouched empty
  refine iff_of_false (fun only => ?_) empty
  have idle := only.nothing_done gone
  by_cases closes : s.containsIndex ((s.readTabIndex command).getD s.activeIndex) /\ 1 < s.tabs.length
  · obtain ⟨tab, found⟩ := containsIndex_webContentsAt closes.1
    have made : (s.closeTab chromium command).2 = [.closed tab] := by
      simp only [closeTab, closes, and_self, if_true, closeWebContentsAt, found]
    rw [made] at idle
    exact absurd idle (by simp)
  · obtain ⟨current, found, -⟩ := s.activeTab_spec empty
    have made : (s.closeTab chromium command).2 = [.navigated current] := by
      simp only [closeTab, closes, if_false, navigateActive, found]
    rw [made] at idle
    exact absurd idle (by simp)

theorem setTabMuted_gone (given : command.findString "id" = some id) (gone : ¬ s.HasNamed id) :
    OnlyNamed chromium s command .setTabMuted id (s.setTabMuted command) ↔ s.tabs = [] := by
  by_cases empty : s.tabs = []
  · have none_active : s.activeTab = none := by simp [activeTab, empty]
    have made : s.setTabMuted command = (s, []) := by
      simp [setTabMuted, given, s.findTabById_gone gone, none_active]
    rw [made]
    exact iff_of_true .untouched empty
  · obtain ⟨current, found, -⟩ := s.activeTab_spec empty
    refine iff_of_false (fun only => ?_) empty
    have made : (s.setTabMuted command).2 = [.muted current] := by
      simp [setTabMuted, given, s.findTabById_gone gone, found]
    have idle := only.nothing_done gone
    rw [made] at idle
    exact absurd idle (by simp)

theorem moveTab_gone (given : command.findString "id" = some id) (gone : ¬ s.HasNamed id) :
    OnlyNamed chromium s command .moveTab id (s.executeBrowserCommand chromium command .moveTab) ↔
      s.givenIndex command = none ∨ command.findInt "toIndex" = none := by
  have read := s.readTabIndex_gone given gone
  rcases there : s.givenIndex command with _ | index
  · have made : s.executeBrowserCommand chromium command .moveTab = (s, []) := by
      simp [execute_spec, read, there]
    rw [made]
    exact iff_of_true .untouched (.inl rfl)
  rcases aimed : command.findInt "toIndex" with _ | goal
  · have made : s.executeBrowserCommand chromium command .moveTab = (s, []) := by
      simp [execute_spec, read, there, aimed]
    rw [made]
    exact iff_of_true .untouched (.inr rfl)
  · obtain ⟨tab, found⟩ := givenIndex_at there
    refine iff_of_false (fun only => ?_) (by simp)
    have made : (s.executeBrowserCommand chromium command .moveTab).2 = [.moved tab] := by
      simp [execute_spec, read, there, aimed, moveWebContentsAt, found, webContentsAt_some found]
    have idle := only.nothing_done gone
    rw [made] at idle
    exact absurd idle (by simp)

theorem moveTabToNewWindow_gone (given : command.findString "id" = some id) (gone : ¬ s.HasNamed id) :
    OnlyNamed chromium s command .moveTabToNewWindow id
        (s.executeBrowserCommand chromium command .moveTabToNewWindow) ↔
      Harmless chromium s command .moveTabToNewWindow := by
  have read := s.readTabIndex_gone given gone
  have still (made : s.executeBrowserCommand chromium command .moveTabToNewWindow = (s, [])) :
      OnlyNamed chromium s command .moveTabToNewWindow id
        (s.executeBrowserCommand chromium command .moveTabToNewWindow) := by
    rw [made]
    exact .untouched
  rcases there : s.givenIndex command with _ | index
  · refine iff_of_true (still ?_) (.inr fun index given => absurd (there.symm.trans given) (by simp))
    simp [execute_spec, read, there]
  by_cases several : 1 < s.tabs.length
  · obtain ⟨tab, found⟩ := givenIndex_at there
    by_cases can : chromium.canMoveTabsToNewWindow tab = true
    · refine iff_of_false (fun only => ?_) (fun harmless => ?_)
      · have made : (s.executeBrowserCommand chromium command .moveTabToNewWindow).2 = [.movedToNewWindow tab] := by
          simp [execute_spec, read, there, several, moveTabsToNewWindow, found, can]
        have idle := only.nothing_done gone
        rw [made] at idle
        exact absurd idle (by simp)
      · rcases harmless with alone | kept
        · exact absurd several (Nat.not_lt_of_le alone)
        · exact absurd can (by simp [kept index there tab found])
    · refine iff_of_true (still ?_) (.inr fun other given otherTab at_other => ?_)
      · simp [execute_spec, read, there, several, moveTabsToNewWindow, found, can]
      · obtain rfl := Option.some.inj (there.symm.trans given)
        obtain rfl := Option.some.inj (found.symm.trans at_other)
        simpa using can
  · refine iff_of_true (still ?_) (.inl (Nat.le_of_not_lt several))
    simp [execute_spec, read, there, several]

theorem gone_acts {kind : TabCommand} (given : command.findString "id" = some id) (gone : ¬ s.HasNamed id) :
    OnlyNamed chromium s command kind id (s.executeBrowserCommand chromium command kind) ↔
      Harmless chromium s command kind := by
  have lost := s.findTabById_gone gone
  cases kind with
  | activateTabById =>
    have made : s.executeBrowserCommand chromium command .activateTabById = (s, []) := by
      simp [execute_spec, given, lost]
    rw [made]
    exact iff_of_true .untouched trivial
  | closeTabById =>
    have made : s.executeBrowserCommand chromium command .closeTabById = (s, []) := by
      show s.closeTabById chromium command = (s, [])
      simp [closeTabById, given, lost]
    rw [made]
    exact iff_of_true .untouched trivial
  | activateTab => exact activateTab_gone given gone
  | closeTab => exact closeTab_gone gone
  | moveTabToNewWindow => exact moveTabToNewWindow_gone given gone
  | moveTab => exact moveTab_gone given gone
  | setTabMuted => exact setTabMuted_gone given gone

end Gone

/-- Whatever happened to the strip since the shell read it, a command with an id acts on the tab of that id
alone, exactly where the window still has that tab or the command finds nothing else to act on. -/
theorem command_acts_on_named_tab (chromium : Chromium) (read : TabStrip) (changes : List Change)
    (command : DictValue) (kind : TabCommand) (id : String) (given : command.findString "id" = some id)
    (nonempty : id ≠ "") :
    let s := changes.foldl (change chromium) read
    OnlyNamed chromium s command kind id (s.executeBrowserCommand chromium command kind) ↔
      s.HasNamed id ∨ Harmless chromium s command kind := by
  intro s
  by_cases has : s.HasNamed id
  · exact iff_of_true (named_acts given nonempty has) (.inl has)
  · rw [gone_acts given has]
    exact ⟨.inr, fun either => either.resolve_left has⟩

def threeTabs : TabStrip where
  tabs := [⟨1, some 11, false⟩, ⟨2, some 12, false⟩, ⟨3, some 13, false⟩]
  active := some 1
  distinct := by decide
  apart := by decide
  chosen := .inr ⟨⟨1, some 11, false⟩, by decide, rfl⟩

def rightNeighbour : Chromium where
  nextActive := fun tabs contents => tabs.findIdx (·.contents = contents)
  constrainMoveIndex := fun _ _ place => place
  canMoveTabsToNewWindow := fun _ => true
  closesAtOnce := fun _ => true
  pageOpenerOf := fun _ => none

def closeSecond : DictValue := [("id", .string "12"), ("index", .int 1)]

theorem command_acts_on_named_tab_second :
    OnlyNamed rightNeighbour threeTabs closeSecond .closeTab "12"
      (threeTabs.executeBrowserCommand rightNeighbour closeSecond .closeTab) :=
  (command_acts_on_named_tab rightNeighbour threeTabs [] closeSecond .closeTab "12" (by decide)
    (by decide)).mpr (.inl ⟨⟨2, some 12, false⟩, by decide,
      show shellTabId ⟨2, some 12, false⟩ = "12" by decide⟩)

/-- The page closed the second tab itself; the shell's command for it takes the third. -/
theorem closes_another_tab :
    let s := [Change.closed ⟨2, some 12, false⟩].foldl (change rightNeighbour) threeTabs
    ¬ s.HasNamed "12" ∧
      (s.executeBrowserCommand rightNeighbour closeSecond .closeTab).2 = [.closed ⟨3, some 13, false⟩] ∧
      ¬ OnlyNamed rightNeighbour s closeSecond .closeTab "12"
        (s.executeBrowserCommand rightNeighbour closeSecond .closeTab) := by
  intro s
  have lost : forall tab, tab ∈ s.tabs -> shellTabId tab ≠ "12" := by decide
  have closed : (s.executeBrowserCommand rightNeighbour closeSecond .closeTab).2 = [.closed ⟨3, some 13, false⟩] := by
    decide
  refine ⟨fun ⟨tab, inside, named⟩ => lost tab inside named, closed, fun only => ?_⟩
  rcases only.named (.closed ⟨3, some 13, false⟩) (by rw [closed]; exact List.mem_singleton_self _) with named | ⟨kind, -⟩
  · exact absurd named (show ¬ shellTabId ⟨3, some 13, false⟩ = "12" by decide)
  · exact absurd kind (by decide)

end ChromiumHmos.Shell.TabStrip
