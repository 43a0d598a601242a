import ChromiumHmos.Base.Value

set_option autoImplicit false

/-!
# Commands on the tabs of a window

The shell names a tab by the id it was told, by the place the tab had in the strip, or both. Tabs come and
go between the shell reading the strip and its command arriving.
-/

namespace ChromiumHmos.Shell

open Base

/-- One tab's contents; a session id that is not valid is none. -/
structure StripTab where
  contents : Nat
  sessionId : Option Nat
  audioMuted : Bool := false
deriving DecidableEq

-- `base::NumberToString` of the session id.
def shellTabId (tab : StripTab) : String :=
  match tab.sessionId with
  | none => ""
  | some id => toString id

structure TabStrip where
  tabs : List StripTab
  -- the active tab's contents
  active : Option Nat
  distinct : (tabs.map (·.contents)).Nodup
  apart : (tabs.filterMap (·.sessionId)).Nodup
  chosen : active = none ∧ tabs = [] ∨ exists tab, tab ∈ tabs ∧ active = some tab.contents

/-- What Chromium decides about the strip. -/
structure Chromium where
  -- the tab that becomes active when the active one goes
  nextActive : List StripTab -> Nat -> Nat
  -- groups and pinned tabs keep together
  constrainMoveIndex : List StripTab -> Nat -> Nat -> Nat
  canMoveTabsToNewWindow : StripTab -> Bool
  -- a page may ask to be kept, and closes later or not at all
  closesAtOnce : StripTab -> Bool
  pageOpenerOf : StripTab -> Option Nat

namespace TabStrip

def activeTab (s : TabStrip) : Option StripTab :=
  s.tabs.find? fun tab => s.active = some tab.contents

/-- `GetWebContentsAt`, for an index the strip contains. -/
def webContentsAt (s : TabStrip) (index : Int) : Option StripTab :=
  if 0 <= index then s.tabs[index.toNat]? else none

def removed (chromium : Chromium) (tabs : List StripTab) (active : Option Nat) (tab : StripTab) : Option Nat :=
  let left := tabs.filter (·.contents ≠ tab.contents)
  if active = some tab.contents then
    (left[chromium.nextActive tabs tab.contents % left.length]?).map (·.contents)
  else active

theorem removed_chosen (chromium : Chromium) (s : TabStrip) (tab : StripTab) :
    let left := s.tabs.filter (·.contents ≠ tab.contents)
    let active := removed chromium s.tabs s.active tab
    active = none /\ left = [] \/ ∃ other, other ∈ left /\ active = some other.contents := by
  intro left active
  rcases shape : left with _ | ⟨first, rest⟩
  · left
    refine ⟨?_, rfl⟩
    rcases s.chosen with ⟨none_active, -⟩ | ⟨other, member, is_active⟩
    · simp [active, removed, none_active]
    · by_cases same : other.contents = tab.contents
      · have empty : s.tabs.filter (·.contents ≠ tab.contents) = [] := shape
        simp only [active, removed, is_active, same, if_true, empty]
        rfl
      · have kept : other ∈ left := List.mem_filter.mpr ⟨member, by simpa using same⟩
        rw [shape] at kept
        exact absurd kept List.not_mem_nil
  · right
    rw [<- shape]
    have some_left : 0 < left.length := by simp [shape]
    by_cases was : s.active = some tab.contents
    · have inside := Nat.mod_lt (chromium.nextActive s.tabs tab.contents) some_left
      refine ⟨left[chromium.nextActive s.tabs tab.contents % left.length], List.getElem_mem inside, ?_⟩
      simp only [active, removed, was, if_true]
      rw [List.getElem?_eq_getElem inside]
      rfl
    · rcases s.chosen with ⟨-, empty⟩ | ⟨other, member, is_active⟩
      · have none_left : left = [] := by simp [left, empty]
        simp [shape] at none_left
      · refine ⟨other, List.mem_filter.mpr ⟨member, ?_⟩, by simpa [active, removed, was] using is_active⟩
        have apart : other.contents ≠ tab.contents := fun same => was (same ▸ is_active)
        simpa using apart

/-- The tab leaves the strip. -/
def remove (chromium : Chromium) (s : TabStrip) (tab : StripTab) : TabStrip where
  tabs := s.tabs.filter (·.contents ≠ tab.contents)
  active := removed chromium s.tabs s.active tab
  distinct := s.distinct.sublist (List.filter_sublist.map _)
  apart := s.apart.sublist (List.filter_sublist.filterMap _)
  chosen := removed_chosen chromium s tab

def moved (tabs : List StripTab) (tab : StripTab) (place : Nat) : List StripTab :=
  (tabs.filter (· ≠ tab)).take place ++ tab :: (tabs.filter (· ≠ tab)).drop place

theorem filter_ne_perm {tabs : List StripTab} (distinct : (tabs.map (·.contents)).Nodup) {tab : StripTab}
    (member : tab ∈ tabs) : (tab :: tabs.filter (· ≠ tab)).Perm tabs := by
  induction tabs with
  | nil => exact absurd member List.not_mem_nil
  | cons head rest ih =>
    have split := List.nodup_cons.mp
      (show (head.contents :: rest.map (·.contents)).Nodup from distinct)
    rcases List.mem_cons.mp member with rfl | later
    · have all : rest.filter (· ≠ tab) = rest := by
        refine List.filter_eq_self.mpr fun other inside => ?_
        have apart : other ≠ tab := fun same => split.1 (same ▸ List.mem_map_of_mem inside)
        simpa using apart
      have first : (tab :: rest).filter (· ≠ tab) = rest.filter (· ≠ tab) := by simp
      rw [first, all]
    · have apart : head ≠ tab := fun same => split.1 (same ▸ List.mem_map_of_mem later)
      have kept : (head :: rest).filter (· ≠ tab) = head :: rest.filter (· ≠ tab) := by simp [apart]
      rw [kept]
      exact (List.Perm.swap _ _ _).trans ((ih split.2 later).cons head)

theorem moved_perm {tabs : List StripTab} (distinct : (tabs.map (·.contents)).Nodup) {tab : StripTab}
    (member : tab ∈ tabs) (place : Nat) : (moved tabs tab place).Perm tabs := by
  refine List.perm_middle.trans ?_
  rw [List.take_append_drop]
  exact filter_ne_perm distinct member

/-- `MoveWebContentsAt` without selecting the tab. -/
def move (s : TabStrip) (tab : StripTab) (member : tab ∈ s.tabs) (place : Nat) : TabStrip where
  tabs := moved s.tabs tab place
  active := s.active
  distinct := ((moved_perm s.distinct member place).map _).nodup_iff.mpr s.distinct
  apart := ((moved_perm s.distinct member place).filterMap _).nodup_iff.mpr s.apart
  chosen := by
    have same := moved_perm s.distinct member place
    rcases s.chosen with ⟨-, empty⟩ | ⟨other, inside, is_active⟩
    · rw [empty] at member
      exact absurd member List.not_mem_nil
    · exact .inr ⟨other, same.mem_iff.mpr inside, is_active⟩

def activate (s : TabStrip) (tab : StripTab) (member : tab ∈ s.tabs) : TabStrip :=
  { s with active := some tab.contents, chosen := .inr ⟨tab, member, rfl⟩ }

def mute (muted : Bool) (tab other : StripTab) : StripTab :=
  if other.contents = tab.contents then { other with audioMuted := muted } else other

theorem mute_contents (muted : Bool) (tab other : StripTab) : (mute muted tab other).contents = other.contents := by
  unfold mute
  split <;> rfl

theorem mute_sessionId (muted : Bool) (tab other : StripTab) : (mute muted tab other).sessionId = other.sessionId := by
  unfold mute
  split <;> rfl

def setAudioMuted (s : TabStrip) (tab : StripTab) (muted : Bool) : TabStrip where
  tabs := s.tabs.map (mute muted tab)
  active := s.active
  distinct := by simpa [List.map_map, Function.comp_def, mute_contents] using s.distinct
  apart := by simpa [List.filterMap_map, Function.comp_def, mute_sessionId] using s.apart
  chosen := by
    rcases s.chosen with ⟨none_active, empty⟩ | ⟨other, inside, is_active⟩
    · exact .inl ⟨none_active, by rw [empty]; rfl⟩
    · exact .inr ⟨mute muted tab other, List.mem_map_of_mem inside, by rw [mute_contents]; exact is_active⟩

/-- The contents and the session id of a new tab are its own. -/
def Fresh (s : TabStrip) (tab : StripTab) : Prop :=
  forall other, other ∈ s.tabs -> other.contents ≠ tab.contents ∧
    (tab.sessionId.isSome -> other.sessionId ≠ tab.sessionId)

instance decidableFresh (s : TabStrip) (tab : StripTab) : Decidable (s.Fresh tab) :=
  inferInstanceAs (Decidable (forall other, other ∈ s.tabs -> _))

def insert (s : TabStrip) (tab : StripTab) (place : Nat) (foreground : Bool) (fresh : s.Fresh tab) :
    TabStrip where
  tabs := s.tabs.take place ++ tab :: s.tabs.drop place
  active := if foreground ∨ s.active = none then some tab.contents else s.active
  distinct := by
    have order : ((s.tabs.take place ++ tab :: s.tabs.drop place).map (·.contents)).Perm
        (tab.contents :: s.tabs.map (·.contents)) := by
      have whole := (@List.perm_middle _ tab (s.tabs.take place) (s.tabs.drop place)).map (·.contents)
      rwa [List.take_append_drop] at whole
    refine order.nodup_iff.mpr (List.nodup_cons.mpr ⟨fun member => ?_, s.distinct⟩)
    obtain ⟨other, inside, same⟩ := List.mem_map.mp member
    exact (fresh other inside).1 same
  apart := by
    have order := (@List.perm_middle _ tab (s.tabs.take place) (s.tabs.drop place)).filterMap
      (·.sessionId)
    rw [List.take_append_drop] at order
    refine order.nodup_iff.mpr ?_
    rcases given : tab.sessionId with _ | id
    · simpa [given] using s.apart
    · rw [List.filterMap_cons_some given]
      refine List.nodup_cons.mpr ⟨fun member => ?_, s.apart⟩
      obtain ⟨other, inside, same⟩ := List.mem_filterMap.mp member
      exact (fresh other inside).2 (by simp [given]) (same.trans given.symm)
  chosen := by
    by_cases taken : foreground = true ∨ s.active = none
    · exact .inr ⟨tab, by simp, by simp [taken]⟩
    · rcases s.chosen with ⟨none_active, -⟩ | ⟨other, inside, is_active⟩
      · exact absurd (.inr none_active) taken
      · refine .inr ⟨other, ?_, by simpa [taken] using is_active⟩
        rw [← List.take_append_drop place s.tabs] at inside
        rcases List.mem_append.mp inside with early | late
        · exact List.mem_append_left _ early
        · exact List.mem_append_right _ (List.mem_cons_of_mem _ late)

/-- What happens to the strip by itself while a command is on its way. -/
inductive Change
  | opened (tab : StripTab) (place : Nat) (foreground : Bool)
  | closed (tab : StripTab)
  | moved (tab : StripTab) (place : Nat)
  | activated (tab : StripTab)

def change (chromium : Chromium) (s : TabStrip) : Change -> TabStrip
  | .opened tab place foreground =>
    if fresh : s.Fresh tab then s.insert tab place foreground fresh else s
  | .closed tab => s.remove chromium tab
  | .moved tab place => if member : tab ∈ s.tabs then s.move tab member place else s
  | .activated tab => if member : tab ∈ s.tabs then s.activate tab member else s

/-- What a command does to a tab. -/
inductive Act
  | closed (tab : StripTab)
  | moved (tab : StripTab)
  | movedToNewWindow (tab : StripTab)
  | muted (tab : StripTab)
  | activated (tab : StripTab)
  | navigated (tab : StripTab)
deriving DecidableEq

def Act.tab : Act -> StripTab
  | .closed tab | .moved tab | .movedToNewWindow tab | .muted tab | .activated tab | .navigated tab => tab

inductive TabCommand
  | activateTabById
  | closeTabById
  | activateTab
  | closeTab
  | moveTabToNewWindow
  | moveTab
  | setTabMuted
deriving DecidableEq

abbrev Done := TabStrip × List Act

def containsIndex (s : TabStrip) (index : Int) : Bool := 0 <= index ∧ index < s.tabs.length

def getIndexOfWebContents (s : TabStrip) (contents : Nat) : Option Int :=
  (s.tabs.findIdx? (·.contents = contents)).map Int.ofNat

-- -1 where no tab is active.
def activeIndex (s : TabStrip) : Int := (s.active.bind s.getIndexOfWebContents).getD (-1)

def findTabById (s : TabStrip) (id : Option String) : Option StripTab :=
  match id with
  | none => none
  | some id => if id = "" then none else s.tabs.find? fun tab => shellTabId tab = id

/-- The index a command gives, if the strip contains it. -/
def givenIndex (s : TabStrip) (command : DictValue) : Option Int :=
  (command.findInt "index").filter s.containsIndex

def readTabIndex (s : TabStrip) (command : DictValue) : Option Int :=
  match (s.findTabById (command.findString "id")).bind fun tab => s.getIndexOfWebContents tab.contents with
  | some index => some index
  | none => s.givenIndex command

def activateTabAt (s : TabStrip) (index : Int) : Done :=
  match s.webContentsAt index with
  | none => (s, [])
  | some tab => if member : tab ∈ s.tabs then (s.activate tab member, [.activated tab]) else (s, [])

def closeWebContentsAt (chromium : Chromium) (s : TabStrip) (index : Int) : Done :=
  match s.webContentsAt index with
  | none => (s, [])
  | some tab => (if chromium.closesAtOnce tab then s.remove chromium tab else s, [.closed tab])

def moveWebContentsAt (chromium : Chromium) (s : TabStrip) (index : Int) (place : Nat) : Done :=
  match s.webContentsAt index with
  | none => (s, [])
  | some tab =>
    if member : tab ∈ s.tabs then
      (s.move tab member (chromium.constrainMoveIndex s.tabs tab.contents place), [.moved tab])
    else (s, [])

def moveTabsToNewWindow (chromium : Chromium) (s : TabStrip) (index : Int) : Done :=
  match s.webContentsAt index with
  | none => (s, [])
  | some tab =>
    if chromium.canMoveTabsToNewWindow tab then (s.remove chromium tab, [.movedToNewWindow tab]) else (s, [])

/-- `NavigateOnUiThread` with the new tab page: the last tab empties. -/
def navigateActive (s : TabStrip) : Done :=
  match s.activeTab with
  | none => (s, [])
  | some tab => (s, [.navigated tab])

def closeTabById (chromium : Chromium) (s : TabStrip) (command : DictValue) : Done :=
  match s.findTabById (command.findString "id") with
  | none => (s, [])
  | some target =>
    match s.getIndexOfWebContents target.contents with
    | none => (s, [])
    | some index =>
      let opener := if (command.findBool "returnToOpener").getD false then chromium.pageOpenerOf target else none
      if s.tabs.length <= 1 then s.navigateActive
      else
        let closed := s.closeWebContentsAt chromium index
        match opener.bind closed.1.getIndexOfWebContents with
        | none => closed
        | some back =>
          let activated := closed.1.activateTabAt back
          (activated.1, closed.2 ++ activated.2)

def closeTab (chromium : Chromium) (s : TabStrip) (command : DictValue) : Done :=
  let index := (s.readTabIndex command).getD s.activeIndex
  if s.containsIndex index ∧ 1 < s.tabs.length then s.closeWebContentsAt chromium index
  else s.navigateActive

def setTabMuted (s : TabStrip) (command : DictValue) : Done :=
  match (s.findTabById (command.findString "id")).or s.activeTab with
  | none => (s, [])
  | some target => (s.setAudioMuted target ((command.findBool "muted").getD false), [.muted target])

def executeBrowserCommand (chromium : Chromium) (s : TabStrip) (command : DictValue) : TabCommand -> Done
  | .activateTabById =>
    match (s.findTabById (command.findString "id")).bind fun tab => s.getIndexOfWebContents tab.contents with
    | none => (s, [])
    | some index => s.activateTabAt index
  | .closeTabById => s.closeTabById chromium command
  | .activateTab =>
    match s.readTabIndex command with
    | none => (s, [])
    | some index => s.activateTabAt index
  | .closeTab => s.closeTab chromium command
  | .moveTabToNewWindow =>
    match s.readTabIndex command with
    | none => (s, [])
    | some index => if 1 < s.tabs.length then s.moveTabsToNewWindow chromium index else (s, [])
  | .moveTab =>
    match s.readTabIndex command, command.findInt "toIndex" with
    | some index, some place =>
      s.moveWebContentsAt chromium index (max 0 (min place (s.tabs.length - 1))).toNat
    | _, _ => (s, [])
  | .setTabMuted => s.setTabMuted command

end TabStrip

end ChromiumHmos.Shell
