import ChromiumHmos.Services.UsbBridge

set_option autoImplicit false

/-!
# Device tables

The USB, HID and serial services each keep a table of what the platform lists. One listing is asked for at
a time, and a change reported meanwhile has it asked for again.
-/

namespace ChromiumHmos.Services

open Transition Base

/-- Where a reply lists the devices of a service, and the name of an entry that is well formed. -/
structure Listing (κ : Type) where
  kind : UsbServiceKind
  field : String
  nameOf : DictValue -> Option κ

def UsbServiceOhos : Listing String where
  kind := .usb
  field := "devices"
  nameOf := fun info => (info.findString "name").filter fun name => !name.isEmpty

def readBytes (value : DictValue) (key : String) : Bytes :=
  ((value.findList key).getD []).filterMap fun item =>
    match item with
    | .int byte => some (UInt8.ofNat (min (max byte 0) 255).toNat)
    | _ => none

def HidServiceOhos : Listing String where
  kind := .hid
  field := "hidDevices"
  nameOf := fun source =>
    let platformId := (source.findString "platformId").getD ""
    if platformId.isEmpty || (readBytes source "reportDescriptor").isEmpty then none else some platformId

def SerialDeviceEnumeratorOhos : Listing Int where
  kind := .serial
  field := "ports"
  nameOf := fun source =>
    let portId := (source.findInt "portId").getD (-1)
    if portId < 0 || (source.findString "deviceName").isNone then none else some portId

/-- The devices by name, each as the entry it was made of, and the notices given: whether each was of a
device added. -/
structure DeviceTable (κ : Type) where
  devices : List (κ × DictValue) := []
  notices : List (κ × Bool) := []

structure DeviceService (κ : Type) where
  initialized : Bool := false
  refreshInFlight : Bool := false
  refreshAgain : Bool := false
  pendingEnumerations : List Nat := []
  table : DeviceTable κ := {}
  -- the callbacks `GetDevices` was given and those called, and the commands not answered yet
  given : Nat := 0
  called : List Nat := []
  outstanding : Nat := 0
  -- the changes reported, and those before the last command
  changes : Nat := 0
  heeded : Nat := 0

inductive DeviceServiceOp
  | getDevices
  | onPlatformEvent (event : DictValue)
  | onRefreshComplete (response : DictValue)

variable {κ : Type}

def Listing.read (l : Listing κ) : Value -> Option (κ × DictValue)
  | .dict entries => (l.nameOf entries).map fun name => (name, entries)
  | _ => none

def Listing.listed (l : Listing κ) (response : DictValue) : List (κ × DictValue) :=
  ((response.findList l.field).getD []).filterMap l.read

namespace DeviceTable

variable [LinearOrder κ]

def names (s : DeviceTable κ) : List κ := s.devices.map Prod.fst

-- A name that is known keeps its device.
def add (s : DeviceTable κ) (entry : κ × DictValue) : DeviceTable κ :=
  if entry.1 ∈ s.names then s
  else
    { devices := s.devices.orderedInsert (fun a b => a.1 <= b.1) entry
      notices := s.notices ++ [(entry.1, true)] }

def removeUnseen (s : DeviceTable κ) (seen : List κ) : DeviceTable κ where
  devices := s.devices.filter fun entry => entry.1 ∈ seen
  notices := s.notices ++ (s.names.filter fun name => name ∉ seen).map fun name => (name, false)

def update (s : DeviceTable κ) (listed : List (κ × DictValue)) : DeviceTable κ :=
  (listed.foldl add s).removeUnseen (listed.map Prod.fst)

/-- Whether each notice of a name said that it was added. -/
def noticesOf (s : DeviceTable κ) (name : κ) : List Bool :=
  (s.notices.filter fun notice => notice.1 = name).map Prod.snd

/-- Every name is added and removed in turn, and was last added if the table has it. -/
structure Told (s : DeviceTable κ) : Prop where
  distinct : s.names.Nodup
  alternates : forall name, exists count,
    s.noticesOf name = (List.replicate count [true, false]).flatten ++ if name ∈ s.names then [true] else []

end DeviceTable

namespace DeviceService

def refreshDevices (s : DeviceService κ) : DeviceService κ :=
  if s.refreshInFlight then { s with refreshAgain := true }
  else { s with refreshInFlight := true, outstanding := s.outstanding + 1, heeded := s.changes }

/-- What the constructor leaves. -/
def initial : DeviceService κ := ({} : DeviceService κ).refreshDevices

/-- Of USB alone; the other two have theirs in a base class. -/
def getDevices (s : DeviceService κ) : DeviceService κ :=
  if !s.initialized || s.refreshInFlight then
    let waiting := { s with pendingEnumerations := s.pendingEnumerations ++ [s.given], given := s.given + 1 }
    if s.refreshInFlight then waiting else waiting.refreshDevices
  else { s with given := s.given + 1, called := s.called ++ [s.given] }

def onPlatformEvent (s : DeviceService κ) (event : DictValue) : DeviceService κ :=
  if event.findString "event" = some "devicesChanged" then
    ({ s with changes := s.changes + 1 } : DeviceService κ).refreshDevices
  else s

variable [LinearOrder κ]

-- Only USB has callbacks pending; serial has no use for `initialized`.
def complete (l : Listing κ) (s : DeviceService κ) (response : DictValue) : DeviceService κ :=
  { s with
    refreshInFlight := false
    refreshAgain := false
    initialized := true
    outstanding := s.outstanding - 1
    table := if (response.findBool "ok").getD false then s.table.update (l.listed response) else s.table
    pendingEnumerations := []
    called := s.called ++ s.pendingEnumerations }

def onRefreshComplete (l : Listing κ) (s : DeviceService κ) (response : DictValue) : DeviceService κ :=
  if s.refreshAgain then (s.complete l response).refreshDevices else s.complete l response

def next (l : Listing κ) (s : DeviceService κ) : DeviceServiceOp -> DeviceService κ
  | .getDevices => s.getDevices
  | .onPlatformEvent event => s.onPlatformEvent event
  | .onRefreshComplete response => s.onRefreshComplete l response

-- A command is answered once.
def permitted (l : Listing κ) (s : DeviceService κ) : DeviceServiceOp -> Prop
  | .getDevices => l.kind = .usb
  | .onPlatformEvent _ => True
  | .onRefreshComplete _ => 0 < s.outstanding

def Run (l : Listing κ) (s : DeviceService κ) : Prop :=
  exists trace, Trace (guarded (permitted l) (next l)) initial trace s

/-- What holds between operations of the commands and the callbacks. -/
structure Settled (s : DeviceService κ) : Prop where
  outstanding : s.outstanding = if s.refreshInFlight then 1 else 0
  again : s.refreshAgain -> s.refreshInFlight
  heeded : s.heeded = s.changes \/ s.refreshAgain
  called : s.called ++ s.pendingEnumerations = List.range s.given
  waiting : s.pendingEnumerations ≠ [] -> s.refreshInFlight

end DeviceService

namespace DeviceTable

variable [LinearOrder κ] {s : DeviceTable κ}

theorem add_names (entry : κ × DictValue) (new : entry.1 ∉ s.names) :
    (s.add entry).names.Perm (entry.1 :: s.names) := by
  rw [add, if_neg new]
  exact (List.perm_orderedInsert _ entry s.devices).map Prod.fst

theorem add_told (told : s.Told) (entry : κ × DictValue) : (s.add entry).Told := by
  by_cases known : entry.1 ∈ s.names
  next =>
    rw [add, if_pos known]
    exact told
  have names := add_names entry known
  refine ⟨names.nodup_iff.mpr (List.nodup_cons.mpr ⟨known, told.distinct⟩), fun name => ?_⟩
  obtain ⟨count, before⟩ := told.alternates name
  have new : (s.add entry).noticesOf name = s.noticesOf name ++ if entry.1 = name then [true] else [] := by
    rw [noticesOf, add, if_neg known, List.filter_append, List.map_append]
    by_cases same : entry.1 = name <;> simp [noticesOf, same]
  refine ⟨count, ?_⟩
  rw [new, before]
  by_cases same : entry.1 = name
  next =>
    subst same
    simp [names.mem_iff, known]
  next => simp [names.mem_iff, same, Ne.symm same]

theorem removeUnseen_names (seen : List κ) :
    (s.removeUnseen seen).names = s.names.filter fun name => name ∈ seen := by
  simp [names, removeUnseen, List.filter_map, Function.comp_def]

theorem removeUnseen_told (told : s.Told) (seen : List κ) : (s.removeUnseen seen).Told := by
  refine ⟨removeUnseen_names seen ▸ told.distinct.filter _, fun name => ?_⟩
  obtain ⟨count, before⟩ := told.alternates name
  have new : (s.removeUnseen seen).noticesOf name =
      s.noticesOf name ++ if name ∈ s.names /\ name ∉ seen then [false] else [] := by
    rw [noticesOf, removeUnseen, List.filter_append, List.map_append, List.filter_map, List.map_map]
    have of : (fun notice : κ × Bool => decide (notice.1 = name)) ∘ (fun name => (name, false)) =
        fun other => decide (other = name) := rfl
    have once := told.distinct.filter fun name => name ∉ seen
    rw [of, List.filter_eq]
    split
    next gone =>
      rw [List.count_eq_one_of_mem once (List.mem_filter.mpr ⟨gone.1, by simpa using gone.2⟩)]
      rfl
    next kept =>
      rw [List.count_eq_zero.mpr fun member => kept ((List.mem_filter.mp member).imp_right (by simp))]
      rfl
  rw [new, before, removeUnseen_names]
  by_cases known : name ∈ s.names <;> by_cases still : name ∈ seen
  next => exact ⟨count, by simp [known, still]⟩
  next => exact ⟨count + 1, by simp [known, still, List.replicate_succ']⟩
  next => exact ⟨count, by simp [known]⟩
  next => exact ⟨count, by simp [known]⟩

theorem mem_add_all (listed : List (κ × DictValue)) (s : DeviceTable κ) (name : κ) (entry : DictValue) :
    (name, entry) ∈ (listed.foldl add s).devices ↔
      (name, entry) ∈ s.devices \/ name ∉ s.names /\ listed.lookup name = some entry := by
  induction listed generalizing s with
  | nil => simp
  | cons head rest ih =>
    obtain ⟨other, value⟩ := head
    rw [List.foldl_cons, ih, List.lookup_cons]
    by_cases known : other ∈ s.names
    next =>
      have still : s.add (other, value) = s := if_pos known
      rw [still]
      by_cases same : name = other
      next => simp [same, known]
      next => rw [beq_eq_false_iff_ne.mpr same]
    have added := add_names (other, value) known
    have member : (name, entry) ∈ (s.add (other, value)).devices ↔
        (name, entry) = (other, value) \/ (name, entry) ∈ s.devices := by
      rw [add, if_neg known]
      exact List.mem_orderedInsert _
    rw [member, added.mem_iff]
    by_cases same : name = other
    next =>
      subst same
      simp [known, or_comm, eq_comm]
    next =>
      rw [beq_eq_false_iff_ne.mpr same]
      simp [same]

theorem update_told (told : s.Told) (listed : List (κ × DictValue)) : (s.update listed).Told :=
  removeUnseen_told (List.foldlRecOn listed add told fun _ before entry _ => add_told before entry) _

end DeviceTable

namespace DeviceService

theorem refreshDevices_settled (s : DeviceService κ)
    (outstanding : s.outstanding = if s.refreshInFlight then 1 else 0)
    (called : s.called ++ s.pendingEnumerations = List.range s.given) : s.refreshDevices.Settled := by
  unfold refreshDevices
  split
  next inFlight => exact ⟨outstanding, fun _ => inFlight, .inr rfl, called, fun _ => inFlight⟩
  next idle => exact ⟨by simp [outstanding, idle], fun _ => rfl, .inl rfl, called, fun _ => rfl⟩

theorem refreshDevices_table (s : DeviceService κ) : s.refreshDevices.table = s.table := by
  unfold refreshDevices
  split <;> rfl

theorem getDevices_table (s : DeviceService κ) : s.getDevices.table = s.table := by
  unfold getDevices
  split
  next =>
    dsimp only
    split
    next => rfl
    next => rw [refreshDevices_table]
  next => rfl

theorem getDevices_settled {s : DeviceService κ} (settled : s.Settled) : s.getDevices.Settled := by
  have waiting : s.called ++ (s.pendingEnumerations ++ [s.given]) = List.range (s.given + 1) := by
    rw [<- List.append_assoc, settled.called, List.range_succ]
  unfold getDevices
  split
  next =>
    dsimp only
    split
    next inFlight => exact ⟨settled.outstanding, settled.again, settled.heeded, waiting, fun _ => inFlight⟩
    next => exact refreshDevices_settled _ settled.outstanding waiting
  next idle =>
    have none : s.pendingEnumerations = [] := by
      by_contra some
      exact idle (by simp [settled.waiting some])
    rw [none, List.nil_append] at waiting
    refine ⟨settled.outstanding, settled.again, settled.heeded, ?_, settled.waiting⟩
    rw [none, List.append_nil, waiting]

variable [LinearOrder κ] {l : Listing κ} {s t : DeviceService κ}

theorem onRefreshComplete_settled (settled : s.Settled) (response : DictValue) :
    (s.onRefreshComplete l response).Settled := by
  have outstanding : s.outstanding - 1 = 0 := by
    rw [settled.outstanding]
    split <;> rfl
  have called : (s.called ++ s.pendingEnumerations) ++ [] = List.range s.given := by
    rw [List.append_nil, settled.called]
  unfold onRefreshComplete
  split
  next => exact refreshDevices_settled (s.complete l response) outstanding called
  next once =>
    exact ⟨outstanding, nofun, .inl (settled.heeded.resolve_right once), called, fun some => absurd rfl some⟩

theorem onRefreshComplete_table (response : DictValue) :
    (s.onRefreshComplete l response).table =
      if (response.findBool "ok").getD false then s.table.update (l.listed response) else s.table := by
  unfold onRefreshComplete
  split
  next => rw [refreshDevices_table, complete]
  next => rw [complete]

theorem next_kept {op : DeviceServiceOp} (kept : s.Settled /\ s.table.Told)
    (moved : guarded (permitted l) (next l) s op t) : t.Settled /\ t.table.Told := by
  obtain ⟨settled, told⟩ := kept
  obtain ⟨-, rfl⟩ := moved
  cases op with
  | getDevices =>
    refine ⟨getDevices_settled settled, ?_⟩
    rw [next, getDevices_table]
    exact told
  | onPlatformEvent event =>
    simp only [next, onPlatformEvent]
    split
    next =>
      refine ⟨refreshDevices_settled _ settled.outstanding settled.called, ?_⟩
      rw [refreshDevices_table]
      exact told
    next => exact ⟨settled, told⟩
  | onRefreshComplete response =>
    refine ⟨onRefreshComplete_settled settled response, ?_⟩
    rw [next, onRefreshComplete_table]
    split
    next => exact DeviceTable.update_told told _
    next => exact told

theorem Run.kept (run : Run l s) : s.Settled /\ s.table.Told := by
  obtain ⟨trace, run⟩ := run
  refine run.preserves (fun _ _ _ kept moved => next_kept kept moved) ⟨?_, .nil, fun _ => ⟨0, rfl⟩⟩
  exact refreshDevices_settled _ rfl rfl

/-- One command is out at a time, no change goes without a command after it, and the callbacks are called
once each, in order, the last ones by the reply awaited. -/
theorem changes_enumerated (run : Run l s) :
    s.outstanding <= 1 /\ (s.heeded = s.changes \/ s.outstanding = 1 /\ forall response,
      (s.onRefreshComplete l response).heeded = (s.onRefreshComplete l response).changes) /\
      s.called ++ s.pendingEnumerations = List.range s.given /\
      (s.pendingEnumerations ≠ [] -> s.outstanding = 1) := by
  obtain ⟨settled, -⟩ := run.kept
  have one : s.refreshInFlight -> s.outstanding = 1 := fun inFlight => by rw [settled.outstanding, if_pos inFlight]
  refine ⟨?_, settled.heeded.imp_right fun again => ⟨one (settled.again again), fun response => ?_⟩,
    settled.called, fun waiting => one (settled.waiting waiting)⟩
  next =>
    rw [settled.outstanding]
    split <;> decide
  next =>
    rw [onRefreshComplete, if_pos again]
    rfl

/-- The notices of a name alternate and tell whether the table has it. A reply leaves the names it lists,
those known with the device they had, and a failed one leaves the table. -/
theorem table_follows_replies (run : Run l s) (name : κ) :
    (exists count, s.table.noticesOf name =
      (List.replicate count [true, false]).flatten ++ if name ∈ s.table.names then [true] else []) /\
    forall response, let t := s.onRefreshComplete l response
      (response.findBool "ok" ≠ some true -> t.table = s.table) /\
      (response.findBool "ok" = some true -> forall entry, (name, entry) ∈ t.table.devices ↔
        name ∈ (l.listed response).map Prod.fst /\ ((name, entry) ∈ s.table.devices \/
          name ∉ s.table.names /\ (l.listed response).lookup name = some entry)) := by
  refine ⟨run.kept.2.alternates name, fun response => ⟨fun failed => ?_, fun ok entry => ?_⟩⟩
  next =>
    rw [onRefreshComplete_table, if_neg]
    cases said : response.findBool "ok" with
    | none => nofun
    | some ok => simpa [said] using failed
  next =>
    rw [onRefreshComplete_table, ok]
    simp [DeviceTable.update, DeviceTable.removeUnseen, DeviceTable.mem_add_all, and_comm]

/-- A mouse is listed, another device comes while the page asks, and a change is reported. -/
def pluggedIn : List DeviceServiceOp :=
  [.getDevices,
    .onRefreshComplete [("ok", .bool true), ("devices", .list [.dict [("name", .string "mouse")], .int 3])],
    .onPlatformEvent [("event", .string "devicesChanged")], .getDevices]

theorem pluggedIn_runs : Run UsbServiceOhos (pluggedIn.foldl (next UsbServiceOhos) initial) := by
  have follows : Follows (permitted UsbServiceOhos) (next UsbServiceOhos) initial pluggedIn :=
    ⟨rfl, Nat.one_pos, trivial, rfl, trivial⟩
  obtain ⟨trace, run, -⟩ := follows.trace
  exact ⟨trace, run⟩

theorem changes_enumerated_plugged :
    (pluggedIn.foldl (next UsbServiceOhos) initial).outstanding <= 1 :=
  (changes_enumerated pluggedIn_runs).1

theorem table_follows_replies_plugged : exists count,
    (pluggedIn.foldl (next UsbServiceOhos) initial).table.noticesOf "mouse" =
      (List.replicate count [true, false]).flatten ++ [true] := by
  have listed : "mouse" ∈ (pluggedIn.foldl (next UsbServiceOhos) initial).table.names := by decide
  obtain ⟨count, told⟩ := (table_follows_replies pluggedIn_runs "mouse").1
  rw [if_pos listed] at told
  exact ⟨count, told⟩

end DeviceService

end ChromiumHmos.Services
