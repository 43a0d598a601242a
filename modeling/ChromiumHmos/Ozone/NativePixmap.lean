import ChromiumHmos.Base.Value
import ChromiumHmos.Lib.Words

set_option autoImplicit false

/-!
# Native pixmaps

The registry of `ui/ozone/platform/ohos/ohos_native_pixmap.cc`: the buffers this process allocated,
each found again by a tag in its own padding, and retired some time after its last user.
-/

namespace ChromiumHmos.Ozone.NativePixmap

open Base Lib

def kUnusedBufferGrace : TimeDelta := seconds 10

-- With or without the external sampler preferred.
inductive Format
  | nv12
  | p010
  | rgba8888
  | bgra8888
  | rgbaF16
  | other
deriving DecidableEq

inductive OhosFormat
  | ycbcr420Sp
  | ycbcrP010
  | rgba8888
  | bgra8888
  | rgba16Float
deriving DecidableEq

def ohosFormatFor : Format -> Option OhosFormat
  | .nv12 => some .ycbcr420Sp
  | .p010 => some .ycbcrP010
  | .rgba8888 => some .rgba8888
  | .bgra8888 => some .bgra8888
  | .rgbaF16 => some .rgba16Float
  | .other => none

def isMultiPlane (format : Format) : Bool := format = .nv12 || format = .p010

structure PlaneLayout where
  stride : Nat
  offset : Nat
  size : Nat
deriving DecidableEq

def PlaneLayout.last (plane : PlaneLayout) : Nat := plane.offset + plane.size

/-- One allocated buffer. `contents` are the bytes of its dma-buf, `unusedSince` is 0 for null. -/
structure BufferEntry where
  size : Nat
  planes : List PlaneLayout
  users : Int
  unusedSince : TimeTicks
  contents : Bytes
deriving DecidableEq

structure BufferTag where
  magic : UInt64
  key : UInt64
deriving DecidableEq

def kBufferTagMagic : UInt64 := 0x58504f484f534f52

def tagSize : Nat := 16

def BufferTag.bytes (tag : BufferTag) : Bytes := longBytes tag.magic ++ longBytes tag.key

def tagOffset (bufferSize dataEnd : Nat) : Option Nat :=
  if bufferSize < dataEnd + tagSize then none else some (bufferSize - tagSize)

-- Nothing is mapped past the end of a buffer.
def readTag (contents : Bytes) (offset : Nat) : Option BufferTag :=
  if offset + tagSize <= contents.length then
    some { magic := longOf (contents.drop offset), key := longOf (contents.drop (offset + 8)) }
  else none

-- Where an entry's tag is read; a size below the tag's wraps around, past any end.
def readEntryTag (contents : Bytes) (entry : BufferEntry) : Option BufferTag :=
  if entry.size < tagSize then none else readTag contents (entry.size - tagSize)

def writeAt (contents : Bytes) (place : Nat) (bytes : Bytes) : Bytes :=
  contents.take place ++ bytes ++ contents.drop (place + bytes.length)

abbrev Shape := OhosFormat × Int × Int

/-- `entries` are in the order of their keys. -/
structure BufferRegistry where
  lastKey : UInt64 := 0
  untaggable : List Shape := []
  entries : List (UInt64 × BufferEntry) := []
  purgePending : Bool := false

/-- What the system answers for a buffer: the layout of a video format's two planes (row pitch and
offset), if it can be had, the stride, and the size of the dma-buf, where there is one. -/
structure NativeBuffer where
  planes : Option ((Nat × Nat) × (Nat × Nat))
  stride : Nat
  handleSize : Option Nat
  contents : Bytes

def planeLayout (native : NativeBuffer) (yuv : Bool) (height : Int) : Option (List PlaneLayout) :=
  if yuv then
    native.planes.map fun planes =>
      [{ stride := planes.1.1, offset := planes.1.2, size := planes.1.1 * height.toNat },
        { stride := planes.2.1, offset := planes.2.2
          size := planes.2.1 * ((height + 1) / 2).toNat }]
  else some [{ stride := native.stride, offset := 0, size := native.stride * height.toNat }]

def insertEntry (key : UInt64) (entry : BufferEntry) (entries : List (UInt64 × BufferEntry)) :
    List (UInt64 × BufferEntry) :=
  entries.takeWhile (fun held => held.1 < key) ++
    (key, entry) :: (entries.dropWhile (fun held => held.1 < key)).filter (fun held => held.1 ≠ key)

def setEntry (key : UInt64) (entry : BufferEntry) (entries : List (UInt64 × BufferEntry)) :
    List (UInt64 × BufferEntry) :=
  entries.map fun held => if held.1 = key then (key, entry) else held

def lastEnd (planes : List PlaneLayout) : Nat := (planes.getLast?.map PlaneLayout.last).getD 0

-- `native` is the buffer allocated, if one could be.
def allocate (registry : BufferRegistry) (width height : Int) (format : Format)
    (native : Option NativeBuffer) : Option UInt64 × BufferRegistry :=
  match ohosFormatFor format with
  | none => (none, registry)
  | some ohosFormat =>
    if width <= 0 ∨ height <= 0 then (none, registry)
    else if (ohosFormat, width, height) ∈ registry.untaggable then (none, registry)
    else
      match native with
      | none => (none, registry)
      | some native =>
        match planeLayout native (isMultiPlane format) height, native.handleSize with
        | some planes, some size =>
          let key := registry.lastKey + 1
          let registry := { registry with lastKey := key }
          let entry : BufferEntry :=
            { size := size, planes := planes, users := 1, unusedSince := 0
              contents := native.contents }
          if isMultiPlane format then
            match tagOffset size (lastEnd planes) with
            | none => (none, { registry with
                untaggable := (ohosFormat, width, height) :: registry.untaggable })
            | some offset =>
              let tag : BufferTag := { magic := kBufferTagMagic, key := key }
              let tagged := { entry with
                contents := writeAt native.contents offset tag.bytes }
              (some key, { registry with
                entries := insertEntry key tagged registry.entries })
          else (some key, { registry with entries := insertEntry key entry registry.entries })
        | _, _ => (none, registry)

def claims (contents : Bytes) (last : Int) (held : UInt64 × BufferEntry) : Bool :=
  (last <= 0 || held.2.size = last.toNat) &&
    readEntryTag contents held.2 = some { magic := kBufferTagMagic, key := held.1 }

-- `contents` are those of the descriptor's buffer, `last` what `lseek` returns.
def acquire (registry : BufferRegistry) (contents : Bytes) (last : Int) :
    Option UInt64 × BufferRegistry :=
  match registry.entries.find? (claims contents last) with
  | none => (none, registry)
  | some (key, entry) =>
    (some key, { registry with
      entries :=
        setEntry key { entry with users := entry.users + 1, unusedSince := 0 } registry.entries })

def nextDeadline (entries : List (UInt64 × BufferEntry)) : Option TimeTicks :=
  ((entries.filter fun held => held.2.users = 0).map fun held =>
    held.2.unusedSince + kUnusedBufferGrace).min?

-- With the time the delayed task is due, where one is posted.
def schedulePurgeLocked (registry : BufferRegistry) (now : TimeTicks) :
    Option TimeTicks × BufferRegistry :=
  if registry.purgePending then (none, registry)
  else
    match nextDeadline registry.entries with
    | none => (none, registry)
    | some deadline =>
      (some (now + max 0 (deadline - now)), { registry with purgePending := true })

-- `now` and `later` are the readings of the clock, in turn.
def unuse (registry : BufferRegistry) (key : UInt64) (now later : TimeTicks) :
    Option TimeTicks × BufferRegistry :=
  match registry.entries.lookup key with
  | none => (none, registry)
  | some entry =>
    let users := entry.users - 1
    if users = 0 then
      schedulePurgeLocked
        { registry with
          entries := setEntry key { entry with users := users, unusedSince := now }
            registry.entries }
        later
    else (none, { registry with
      entries := setEntry key { entry with users := users } registry.entries })

def isExpired (now : TimeTicks) (entry : BufferEntry) : Bool :=
  entry.users = 0 && kUnusedBufferGrace <= now - entry.unusedSince

-- The keys retired, their native handles to be released, and the task posted.
def purgeUnused (registry : BufferRegistry) (fromDelayedTask : Bool) (now later : TimeTicks) :
    List UInt64 × Option TimeTicks × BufferRegistry :=
  let registry := if fromDelayedTask then { registry with purgePending := false } else registry
  let retired := registry.entries.filter fun held => isExpired now held.2
  let kept := registry.entries.filter fun held => !isExpired now held.2
  (retired.map Prod.fst, schedulePurgeLocked { registry with entries := kept } later)

/-- A descriptor of a buffer: one registered, or another of these bytes. -/
inductive Descriptor
  | registered (key : UInt64)
  | foreign (contents : Bytes)

inductive Event
  | allocate (width height : Int) (format : Format) (native : Option NativeBuffer)
  -- Whether `lseek` finds the end.
  | acquire (descriptor : Descriptor) (found : Bool)
  -- A pixmap of the buffer goes.
  | destroy (key : UInt64)
  -- A holder of the buffer writes into one of its planes.
  | write (key : UInt64) (place : Nat) (bytes : Bytes)
  | releaseMemory
  | pressurePurge
  | delayedPurge (due : TimeTicks)

structure Label where
  event : Event
  now : TimeTicks
  later : TimeTicks

/-- The registry, the live pixmaps by the keys of their buffers, the keys given out and those whose
handles were released, the tasks under way, and when each buffer last lost a pixmap. -/
structure World where
  registry : BufferRegistry := {}
  pixmaps : List UInt64 := []
  keys : List UInt64 := []
  released : List UInt64 := []
  tasks : List TimeTicks := []
  pressure : Nat := 0
  lastGone : UInt64 -> TimeTicks := fun _ => 0
  clock : TimeTicks := 0

def contentsOf (registry : BufferRegistry) : Descriptor -> Bytes
  | .registered key => ((registry.entries.lookup key).map BufferEntry.contents).getD []
  | .foreign contents => contents

-- `lseek` returns the size or fails.
def lseek (contents : Bytes) (found : Bool) : Int := if found then contents.length else -1

def next (world : World) (label : Label) : World :=
  match label.event with
  | .allocate width height format native =>
    match allocate world.registry width height format native with
    | (none, registry) => { world with registry := registry, clock := label.later }
    | (some key, registry) =>
      { world with
        registry := registry
        pixmaps := key :: world.pixmaps
        keys := key :: world.keys
        clock := label.later }
  | .acquire descriptor found =>
    let contents := contentsOf world.registry descriptor
    match acquire world.registry contents (lseek contents found) with
    | (none, registry) => { world with registry := registry, clock := label.later }
    | (some key, registry) =>
      { world with
        registry := registry, pixmaps := key :: world.pixmaps, clock := label.later }
  | .destroy key =>
    match unuse world.registry key label.now label.later with
    | (due, registry) =>
      { world with
        registry := registry
        pixmaps := world.pixmaps.erase key
        lastGone := Function.update world.lastGone key label.now
        tasks := world.tasks ++ due.toList
        clock := label.later }
  | .write key place bytes =>
    { world with
      registry := { world.registry with
        entries := world.registry.entries.map fun held =>
          if held.1 = key then
            (held.1, { held.2 with contents := writeAt held.2.contents place bytes })
          else held }
      clock := label.later }
  | .releaseMemory => { world with pressure := world.pressure + 1, clock := label.later }
  | .pressurePurge =>
    match purgeUnused world.registry false label.now label.later with
    | (retired, due, registry) =>
      { world with
        registry := registry
        released := world.released ++ retired
        tasks := world.tasks ++ due.toList
        pressure := world.pressure - 1
        clock := label.later }
  | .delayedPurge due =>
    match purgeUnused world.registry true label.now label.later with
    | (retired, posted, registry) =>
      { world with
        registry := registry
        released := world.released ++ retired
        tasks := world.tasks.erase due ++ posted.toList
        clock := label.later }

/-- The system's own layout: the buffer is as long as its handle says, and the second plane does not
end before the first. -/
def NativeBuffer.Sound (native : NativeBuffer) (height : Int) : Prop :=
  native.handleSize.getD native.contents.length = native.contents.length ∧
    forall planes, native.planes = some planes ->
      planes.1.2 + planes.1.1 * height.toNat <=
        planes.2.2 + planes.2.1 * ((height + 1) / 2).toNat

def Allowed (world : World) (label : Label) : Prop :=
  world.clock <= label.now ∧ label.now <= label.later ∧
    match label.event with
    | .allocate _ height _ native =>
      world.registry.lastKey + 1 ∉ world.keys ∧
        forall buffer, native = some buffer -> buffer.Sound height
    | .acquire (.registered key) _ => key ∈ world.registry.entries.map Prod.fst
    | .acquire (.foreign _) _ => True
    | .destroy key => key ∈ world.pixmaps
    | .write key place bytes =>
      exists entry plane, (key, entry) ∈ world.registry.entries ∧ plane ∈ entry.planes ∧
        plane.offset <= place ∧ place + bytes.length <= plane.last ∧
        place + bytes.length <= entry.contents.length
    | .releaseMemory => True
    | .pressurePurge => 0 < world.pressure
    | .delayedPurge due => due ∈ world.tasks ∧ due <= label.now

end ChromiumHmos.Ozone.NativePixmap
