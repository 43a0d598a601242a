import ChromiumHmos.Lib.Mailbox
import ChromiumHmos.Lib.Transition
import ChromiumHmos.Ozone.NativePixmap

set_option autoImplicit false

/-!
# Buffers found again, and retired

What the registry keeps through every run: whose buffer a descriptor is, how many pixmaps each buffer
has, and when its handles go.
-/

namespace ChromiumHmos.Ozone.NativePixmap

open Base Lib Transition

section Entries

variable {entries : List (UInt64 × BufferEntry)} {key : UInt64} {entry : BufferEntry}

theorem setEntry_keys : (setEntry key entry entries).map Prod.fst = entries.map Prod.fst := by
  rw [setEntry, List.map_map]
  refine List.map_congr_left fun held _ => ?_
  by_cases same : held.1 = key
  · simp [same]
  · simp [same]

theorem write_keys (key : UInt64) (place : Nat) (bytes : Bytes) :
    (entries.map fun held =>
      if held.1 = key then
        (held.1, { held.2 with contents := writeAt held.2.contents place bytes })
      else held).map Prod.fst = entries.map Prod.fst := by
  rw [List.map_map]
  refine List.map_congr_left fun held _ => ?_
  by_cases same : held.1 = key
  · simp [same]
  · simp [same]

theorem mem_setEntry {held : UInt64 × BufferEntry} (member : held ∈ setEntry key entry entries) :
    held = (key, entry) \/ held ∈ entries /\ held.1 ≠ key := by
  obtain ⟨old, inside, same⟩ := List.mem_map.mp member
  by_cases own : old.1 = key
  · rw [if_pos own] at same
    exact Or.inl same.symm
  · rw [if_neg own] at same
    subst same
    exact Or.inr ⟨inside, own⟩

theorem insertEntry_perm (entry : BufferEntry) (fresh : key ∉ entries.map Prod.fst) :
    (insertEntry key entry entries).Perm ((key, entry) :: entries) := by
  have kept : (entries.dropWhile (fun held => held.1 < key)).filter (fun held => held.1 ≠ key) =
      entries.dropWhile (fun held => held.1 < key) := by
    rw [List.filter_eq_self]
    intro held member
    have inside := (List.dropWhile_suffix (fun held : UInt64 × BufferEntry => decide (held.1 < key))).mem member
    have apart : held.1 ≠ key := fun same => fresh (same ▸ List.mem_map_of_mem inside)
    simpa using apart
  rw [insertEntry, kept]
  refine List.perm_middle.trans ?_
  rw [List.takeWhile_append_dropWhile]

theorem entry_unique (distinct : (entries.map Prod.fst).Nodup) {other : BufferEntry}
    (first : (key, entry) ∈ entries) (second : (key, other) ∈ entries) : entry = other :=
  Option.some.inj ((Mailbox.lookup_of_mem distinct first).symm.trans (Mailbox.lookup_of_mem distinct second))

theorem entry_of_key (present : key ∈ entries.map Prod.fst) : ∃ entry, (key, entry) ∈ entries := by
  obtain ⟨⟨_, entry⟩, member, rfl⟩ := List.mem_map.mp present
  exact ⟨entry, member⟩

end Entries

theorem tag_bytes_length (tag : BufferTag) : tag.bytes.length = tagSize := rfl

theorem readTag_written (front : Bytes) (tag : BufferTag) (rest : Bytes) :
    readTag (front ++ tag.bytes ++ rest) front.length = some tag := by
  have inside : front.length + tagSize <= (front ++ tag.bytes ++ rest).length := by
    rw [List.length_append, List.length_append, tag_bytes_length]
    omega
  have magic : longOf ((front ++ tag.bytes ++ rest).drop front.length) = tag.magic := by
    rw [List.append_assoc, List.drop_left, BufferTag.bytes, List.append_assoc, longOf_longBytes]
  have key : longOf ((front ++ tag.bytes ++ rest).drop (front.length + 8)) = tag.key := by
    rw [List.append_assoc, <- List.drop_drop, List.drop_left, BufferTag.bytes, List.append_assoc]
    rw [show (longBytes tag.magic ++ (longBytes tag.key ++ rest)).drop 8 =
      longBytes tag.key ++ rest from rfl, longOf_longBytes]
  rw [readTag, if_pos inside, magic, key]

def entryTag (key : UInt64) : BufferTag := { magic := kBufferTagMagic, key := key }

structure Tagged (key : UInt64) (entry : BufferEntry) : Prop where
  room : tagSize <= entry.size
  planes : forall plane, plane ∈ entry.planes -> plane.last + tagSize <= entry.size
  inPlace : exists front, entry.contents = front ++ (entryTag key).bytes

variable {key : UInt64} {entry : BufferEntry}

theorem Tagged.read (tagged : Tagged key entry)
    (whole : entry.contents.length = entry.size) {other : BufferEntry}
    (size : other.size = entry.size) : readEntryTag entry.contents other = some (entryTag key) := by
  obtain ⟨front, parts⟩ := tagged.inPlace
  have place : other.size - tagSize = front.length := by
    rw [size, <- whole, parts, List.length_append, tag_bytes_length, Nat.add_sub_cancel]
  have room : ¬ other.size < tagSize := by
    rw [size]
    exact Nat.not_lt.mpr tagged.room
  rw [readEntryTag, if_neg room, place, parts]
  have written := readTag_written front (entryTag key) []
  rwa [List.append_nil] at written

theorem Tagged.used (tagged : Tagged key entry) (users : Int)
    (since : TimeTicks) : Tagged key { entry with users := users, unusedSince := since } :=
  ⟨tagged.room, tagged.planes, tagged.inPlace⟩

variable {bytes : Bytes} {place : Nat}

theorem writeAt_length {contents : Bytes} (inside : place + bytes.length <= contents.length) :
    (writeAt contents place bytes).length = contents.length := by
  rw [writeAt, List.length_append, List.length_append, List.length_take, List.length_drop]
  omega

-- What stands after the bytes written stays.
theorem writeAt_tail {front tail : Bytes} (before : place + bytes.length <= front.length) :
    writeAt (front ++ tail) place bytes = writeAt front place bytes ++ tail := by
  rw [writeAt, writeAt, List.take_append_of_le_length (by omega),
    List.drop_append_of_le_length before, <- List.append_assoc]

theorem Tagged.write (tagged : Tagged key entry)
    (whole : entry.contents.length = entry.size) {plane : PlaneLayout} (own : plane ∈ entry.planes) (inside : place + bytes.length <= plane.last) :
    Tagged key { entry with contents := writeAt entry.contents place bytes } := by
  obtain ⟨front, parts⟩ := tagged.inPlace
  refine ⟨tagged.room, tagged.planes, writeAt front place bytes, ?_⟩
  have room := tagged.planes plane own
  have before : place + bytes.length <= front.length := by
    have total : front.length + tagSize = entry.size := by
      rw [<- whole, parts, List.length_append, tag_bytes_length]
    omega
  simp only [parts]
  exact writeAt_tail before

/-- An entry as its live pixmaps, and the time the last of them went, say it is. -/
structure Fit (live : Nat) (gone : TimeTicks) (key : UInt64) (entry : BufferEntry) : Prop where
  counted : entry.users = live
  idle : entry.users = 0 -> entry.unusedSince = gone
  whole : entry.contents.length = entry.size
  tagged : entry.planes.length = 2 -> Tagged key entry

variable {native : NativeBuffer} {height : Int} {planes : List PlaneLayout}

theorem planeLayout_single
    (layout : planeLayout native false height = some planes) : planes.length ≠ 2 := by
  cases layout
  exact Nat.succ_ne_succ_iff.mpr Nat.zero_ne_one

theorem planeLayout_last
    (sound : native.Sound height) (layout : planeLayout native true height = some planes) :
    ∀ plane ∈ planes, plane.last <= lastEnd planes := by
  obtain ⟨both, known, rfl⟩ := Option.map_eq_some_iff.mp layout
  have order := sound.2 both known
  intro plane member
  rcases List.mem_cons.mp member with rfl | second
  · exact order
  · rw [List.mem_singleton.mp second]
    exact Nat.le_refl _

theorem tagOffset_some {bufferSize dataEnd offset : Nat}
    (found : tagOffset bufferSize dataEnd = some offset) :
    dataEnd + tagSize <= bufferSize /\ offset + tagSize = bufferSize := by
  rw [tagOffset] at found
  split at found
  · cases found
  · cases found
    omega

theorem allocate_cases (registry : BufferRegistry) (width height : Int) (format : Format)
    (native : Option NativeBuffer) :
    (allocate registry width height format native).1 = none /\
      (allocate registry width height format native).2.entries = registry.entries /\
      (allocate registry width height format native).2.purgePending = registry.purgePending \/
    ∃ buffer entry, native = some buffer /\
      allocate registry width height format native =
        (some (registry.lastKey + 1), { registry with
          lastKey := registry.lastKey + 1
          entries := insertEntry (registry.lastKey + 1) entry registry.entries }) /\
      (buffer.Sound height -> Fit 1 0 (registry.lastKey + 1) entry) := by
  rw [allocate]
  split
  · exact Or.inl ⟨rfl, rfl, rfl⟩
  rename_i ohosFormat known
  split
  · exact Or.inl ⟨rfl, rfl, rfl⟩
  split
  · exact Or.inl ⟨rfl, rfl, rfl⟩
  cases native with
  | none => exact Or.inl ⟨rfl, rfl, rfl⟩
  | some buffer =>
    dsimp only
    split
    · rename_i planes size layout handle
      have busy : (1 : Int) = 0 -> (0 : TimeTicks) = 0 := fun _ => rfl
      have whole : buffer.Sound height -> buffer.contents.length = size := by
        intro sound
        have same := sound.1
        rw [handle] at same
        exact same.symm
      split
      · rename_i multi
        rw [multi] at layout
        split
        · exact Or.inl ⟨rfl, rfl, rfl⟩
        · rename_i offset found
          obtain ⟨room, place⟩ := tagOffset_some found
          refine Or.inr ⟨buffer, _, rfl, rfl, fun sound => ?_⟩
          have fits : offset + (entryTag (registry.lastKey + 1)).bytes.length =
              buffer.contents.length := by
            rw [tag_bytes_length, place, whole sound]
          refine ⟨rfl, busy, (writeAt_length fits.le).trans (whole sound), fun _ => ?_⟩
          refine ⟨le_trans (Nat.le_add_left _ _) room, fun plane member => ?_, ?_⟩
          · exact le_trans (Nat.add_le_add_right (planeLayout_last sound layout plane member) _)
              room
          · refine ⟨buffer.contents.take offset, ?_⟩
            change writeAt buffer.contents offset (entryTag (registry.lastKey + 1)).bytes = _
            rw [writeAt, fits, List.drop_length, List.append_nil]
      · rename_i single
        rw [Bool.not_eq_true] at single
        rw [single] at layout
        refine Or.inr ⟨buffer, _, rfl, rfl, fun sound => ?_⟩
        exact ⟨rfl, busy, whole sound, fun two => absurd two (planeLayout_single layout)⟩
    · exact Or.inl ⟨rfl, rfl, rfl⟩

theorem acquire_cases (registry : BufferRegistry) (contents : Bytes) (last : Int) :
    acquire registry contents last = (none, registry) \/
    ∃ key entry, (key, entry) ∈ registry.entries /\
      acquire registry contents last = (some key, { registry with
        entries := setEntry key { entry with users := entry.users + 1, unusedSince := 0 }
          registry.entries }) := by
  rw [acquire]
  split
  · exact Or.inl rfl
  · rename_i key entry found
    exact Or.inr ⟨key, entry, List.mem_of_find?_eq_some found, rfl⟩

/-- A task is under way where the registry believes so, and it comes in time for every entry that is
idle: by that entry's deadline, or at once. -/
structure Awaited (registry : BufferRegistry) (tasks : List TimeTicks) (clock : TimeTicks) : Prop where
  none : registry.purgePending = false -> tasks = []
  one : registry.purgePending = true -> exists due, tasks = [due] ∧
    due <= clock + kUnusedBufferGrace ∧
    forall held, held ∈ registry.entries -> held.2.users = 0 ->
      due <= max (held.2.unusedSince + kUnusedBufferGrace) clock

structure Planned (registry : BufferRegistry) (tasks : List TimeTicks) (clock : TimeTicks) : Prop
    extends Awaited registry tasks clock where
  idle : registry.purgePending = false ->
    forall held, held ∈ registry.entries -> held.2.users ≠ 0

variable {registry : BufferRegistry} {now : TimeTicks}

variable {tasks : List TimeTicks}

variable {after : BufferRegistry} {clock : TimeTicks}

theorem Awaited.later (awaited : Awaited registry tasks clock) (passed : clock <= now)
    (same : after.purgePending = registry.purgePending)
    (older : ∀ held ∈ after.entries, held.2.users = 0 -> clock <= held.2.unusedSince \/
      ∃ before, before ∈ registry.entries /\ before.2.users = 0 /\
        before.2.unusedSince = held.2.unusedSince) : Awaited after tasks now := by
  refine ⟨fun free => awaited.none (same ▸ free), fun pending => ?_⟩
  obtain ⟨due, only, soon, timely⟩ := awaited.one (same ▸ pending)
  refine ⟨due, only, le_trans soon (Int.add_le_add_right passed _), fun held member unused => ?_⟩
  rcases older held member unused with fresh | ⟨before, inside, vacant, since⟩
  · exact le_max_of_le_left (le_trans soon (Int.add_le_add_right fresh _))
  · have early := timely before inside vacant
    rw [since] at early
    exact le_trans early (max_le_max_left _ passed)

theorem Planned.later (planned : Planned registry tasks clock) (passed : clock <= now)
    (same : after.purgePending = registry.purgePending)
    (older : ∀ held ∈ after.entries, held.2.users = 0 ->
      ∃ before, before ∈ registry.entries /\ before.2.users = 0 /\
        before.2.unusedSince = held.2.unusedSince) : Planned after tasks now := by
  refine ⟨planned.toAwaited.later passed same fun held member unused =>
    Or.inr (older held member unused), fun free held member unused => ?_⟩
  obtain ⟨before, inside, vacant, _⟩ := older held member unused
  exact planned.idle (same ▸ free) before inside vacant

variable {entries : List (UInt64 × BufferEntry)}

theorem nextDeadline_none
    (none : nextDeadline entries = none) : ∀ held ∈ entries, held.2.users ≠ 0 := by
  intro held member unused
  rw [nextDeadline, List.min?_eq_none_iff, List.map_eq_nil_iff, List.filter_eq_nil_iff] at none
  exact none held member (decide_eq_true unused)

theorem nextDeadline_some {deadline : TimeTicks} (found : nextDeadline entries = some deadline) :
    (∃ held, held ∈ entries /\ held.2.users = 0 /\
      held.2.unusedSince + kUnusedBufferGrace = deadline) /\
    ∀ held ∈ entries, held.2.users = 0 ->
      deadline <= held.2.unusedSince + kUnusedBufferGrace := by
  obtain ⟨member, least⟩ := List.min?_eq_some_iff.mp found
  obtain ⟨held, idle, same⟩ := List.mem_map.mp member
  obtain ⟨inside, unused⟩ := List.mem_filter.mp idle
  refine ⟨⟨held, inside, of_decide_eq_true unused, same⟩, fun other present vacant => ?_⟩
  exact least _ (List.mem_map.mpr ⟨other, List.mem_filter.mpr ⟨present, decide_eq_true vacant⟩, rfl⟩)

theorem schedule_entries (registry : BufferRegistry) (now : TimeTicks) :
    (schedulePurgeLocked registry now).2.entries = registry.entries := by
  rw [schedulePurgeLocked]
  split
  · rfl
  · split
    · rfl
    · rfl

theorem schedule_idle {due : TimeTicks} (posted : (schedulePurgeLocked registry now).1 = some due) :
    ∃ held, held ∈ registry.entries /\ held.2.users = 0 := by
  rw [schedulePurgeLocked] at posted
  split at posted
  · cases posted
  · split at posted
    · cases posted
    · rename_i deadline found
      obtain ⟨⟨held, member, unused, _⟩, _⟩ := nextDeadline_some found
      exact ⟨held, member, unused⟩

theorem delayed_until (now deadline : Int) : now + max 0 (deadline - now) = max now deadline := by
  omega

theorem Awaited.schedule
    (awaited : Awaited registry tasks now)
    (past : ∀ held ∈ registry.entries, held.2.users = 0 -> held.2.unusedSince <= now) :
    Planned (schedulePurgeLocked registry now).2
      (tasks ++ (schedulePurgeLocked registry now).1.toList) now := by
  rw [schedulePurgeLocked]
  by_cases pending : registry.purgePending = true
  · rw [if_pos pending, Option.toList_none, List.append_nil]
    exact ⟨awaited, fun free => absurd (free.symm.trans pending) Bool.false_ne_true⟩
  · rw [if_neg pending]
    have free := awaited.none (Bool.eq_false_iff.mpr pending)
    cases found : nextDeadline registry.entries with
    | none =>
      dsimp only
      rw [Option.toList_none, List.append_nil]
      exact ⟨awaited, fun _ => nextDeadline_none found⟩
    | some deadline =>
      obtain ⟨⟨held, member, unused, same⟩, least⟩ := nextDeadline_some found
      have soon : deadline <= now + kUnusedBufferGrace :=
        same ▸ Int.add_le_add_right (past held member unused) _
      have busy : ¬ (true = false) := Bool.true_eq_false_eq_False
      dsimp only
      rw [delayed_until, free]
      refine ⟨⟨fun idle => absurd idle busy, fun _ => ⟨_, rfl, ?_, ?_⟩⟩,
        fun idle => absurd idle busy⟩
      · exact max_le (Int.le_add_of_nonneg_right (by decide)) soon
      · intro other present vacant
        exact max_le (le_max_right _ _) (le_max_of_le_left (least other present vacant))

def Fits (live : UInt64 -> Nat) (gone : UInt64 -> TimeTicks)
    (entries : List (UInt64 × BufferEntry)) : Prop :=
  forall held, held ∈ entries -> Fit (live held.1) (gone held.1) held.1 held.2

structure Sane (world : World) : Prop where
  distinct : (world.registry.entries.map Prod.fst).Nodup
  fits : Fits (fun key => world.pixmaps.count key) world.lastGone world.registry.entries
  held : forall key, key ∈ world.pixmaps -> key ∈ world.registry.entries.map Prod.fst
  accounted : forall key, key ∈ world.keys <->
    key ∈ world.registry.entries.map Prod.fst ∨ key ∈ world.released
  apart : forall key, key ∈ world.released -> key ∉ world.registry.entries.map Prod.fst
  once : world.released.Nodup
  past : forall key, world.lastGone key <= world.clock
  planned : Planned world.registry world.tasks world.clock

theorem sane_initial : Sane {} where
  distinct := List.nodup_nil
  fits := fun _ member => absurd member List.not_mem_nil
  held := fun _ member => absurd member List.not_mem_nil
  accounted := fun _ => by simp
  apart := fun _ member => absurd member List.not_mem_nil
  once := List.nodup_nil
  past := fun _ => le_refl _
  planned :=
    ⟨⟨fun _ => rfl, fun pending => by cases pending⟩,
      fun _ _ member => absurd member List.not_mem_nil⟩

section Steps

variable {world : World}

variable {key : UInt64}

theorem fits_set {live live' : UInt64 -> Nat} {gone gone' : UInt64 -> TimeTicks}
    {entry : BufferEntry} {entries : List (UInt64 × BufferEntry)} (fits : Fits live gone entries)
    (others : ∀ other, other ≠ key -> live' other = live other /\ gone' other = gone other)
    (own : Fit (live' key) (gone' key) key entry) : Fits live' gone' (setEntry key entry entries) := by
  intro held member
  rcases mem_setEntry member with rfl | ⟨inside, apart⟩
  · exact own
  · obtain ⟨same, since⟩ := others held.1 apart
    rw [same, since]
    exact fits held inside

theorem Sane.same_keys (sane : Sane world) {after : World}
    (keys : after.registry.entries.map Prod.fst = world.registry.entries.map Prod.fst)
    (known : after.keys = world.keys) (gone : after.released = world.released)
    (fits : Fits (fun key => after.pixmaps.count key) after.lastGone after.registry.entries)
    (held : ∀ key ∈ after.pixmaps, key ∈ world.registry.entries.map Prod.fst)
    (past : ∀ key, after.lastGone key <= after.clock)
    (planned : Planned after.registry after.tasks after.clock) : Sane after where
  distinct := keys ▸ sane.distinct
  fits := fits
  held := fun key member => keys ▸ held key member
  accounted := fun key => by
    rw [keys, known, gone]
    exact sane.accounted key
  apart := fun key member => by
    rw [keys]
    exact sane.apart key (gone ▸ member)
  once := gone ▸ sane.once
  past := past
  planned := planned

variable {now later : TimeTicks}

theorem Sane.allocate (sane : Sane world) {width height : Int} {format : Format}
    {native : Option NativeBuffer}
    (allowed : Allowed world ⟨.allocate width height format native, now, later⟩) :
    Sane (next world ⟨.allocate width height format native, now, later⟩) := by
  obtain ⟨forward, onward, fresh, sound⟩ := allowed
  have passed := le_trans forward onward
  rcases allocate_cases world.registry width height format native with
    ⟨failed, kept, pending⟩ | ⟨buffer, entry, rfl, done, fit⟩
  · generalize outcome : NativePixmap.allocate world.registry width height format native = answer
      at failed kept pending
    obtain ⟨_, registry⟩ := answer
    subst failed
    have stepped : next world ⟨.allocate width height format native, now, later⟩ =
        { world with registry := registry, clock := later } := by
      simp only [next, outcome]
    rw [stepped]
    refine sane.same_keys (congrArg _ kept) rfl rfl ?_ sane.held
      (fun key => le_trans (sane.past key) passed) ?_
    · change Fits _ _ registry.entries
      rw [kept]
      exact sane.fits
    · refine sane.planned.later passed pending fun held member unused => ?_
      exact ⟨held, kept ▸ member, unused, rfl⟩
  · have own := fit (sound buffer rfl)
    generalize world.registry.lastKey + 1 = key at fresh done own
    have absent : key ∉ world.registry.entries.map Prod.fst :=
      fun member => fresh ((sane.accounted key).mpr (Or.inl member))
    have perm : (insertEntry key entry world.registry.entries).Perm _ :=
      insertEntry_perm entry absent
    have keys := perm.map Prod.fst
    have unheld : world.pixmaps.count key = 0 :=
      List.count_eq_zero.mpr fun member => absent (sane.held key member)
    have stepped : next world ⟨.allocate width height format (some buffer), now, later⟩ =
        { world with
          registry := { world.registry with
            lastKey := key, entries := insertEntry key entry world.registry.entries }
          pixmaps := key :: world.pixmaps
          keys := key :: world.keys
          clock := later } := by
      simp only [next, done]
    rw [stepped]
    refine ⟨keys.nodup_iff.mpr (List.nodup_cons.mpr ⟨absent, sane.distinct⟩), ?_, ?_, ?_, ?_,
      sane.once, fun other => le_trans (sane.past other) passed, ?_⟩
    · intro held member
      rcases List.mem_cons.mp (perm.mem_iff.mp member) with rfl | inside
      · refine ⟨?_, fun unused => ?_, own.whole, own.tagged⟩
        · change entry.users = (List.count key (key :: world.pixmaps) : Nat)
          rw [List.count_cons_self, unheld, own.counted]
        · exact absurd (own.counted.symm.trans unused) one_ne_zero
      · have apart : key ≠ held.1 :=
          fun same => absent (List.mem_map.mpr ⟨held, inside, same.symm⟩)
        change Fit (List.count held.1 (key :: world.pixmaps)) _ _ _
        rw [List.count_cons_of_ne apart]
        exact sane.fits held inside
    · intro other member
      rw [keys.mem_iff]
      rcases List.mem_cons.mp member with rfl | before
      · exact List.mem_cons_self
      · exact List.mem_cons_of_mem _ (sane.held other before)
    · intro other
      rw [keys.mem_iff]
      change other ∈ key :: world.keys <-> _
      rw [List.mem_cons, List.map_cons, List.mem_cons, sane.accounted other, or_assoc]
    · intro other gone
      rw [keys.mem_iff, List.map_cons, List.mem_cons]
      rintro (rfl | present)
      · exact fresh ((sane.accounted other).mpr (Or.inr gone))
      · exact sane.apart other gone present
    · refine sane.planned.later passed rfl fun held member unused => ?_
      rcases List.mem_cons.mp (perm.mem_iff.mp member) with rfl | inside
      · exact absurd (own.counted.symm.trans unused) one_ne_zero
      · exact ⟨held, inside, unused, rfl⟩

theorem Sane.acquire (sane : Sane world) {descriptor : Descriptor} {found : Bool} (passed : world.clock <= later) :
    Sane (next world ⟨.acquire descriptor found, now, later⟩) := by
  rcases acquire_cases world.registry (contentsOf world.registry descriptor)
    (lseek (contentsOf world.registry descriptor) found) with unknown | ⟨key, entry, member, done⟩
  · have stepped : next world ⟨.acquire descriptor found, now, later⟩ =
        { world with clock := later } := by
      simp only [next, unknown]
    rw [stepped]
    exact sane.same_keys rfl rfl rfl sane.fits sane.held
      (fun key => le_trans (sane.past key) passed)
      (sane.planned.later passed rfl fun held inside unused => ⟨held, inside, unused, rfl⟩)
  · have own := sane.fits _ member
    have busy : entry.users + 1 ≠ 0 := by
      have counted : entry.users = (world.pixmaps.count key : Nat) := own.counted
      omega
    have stepped : next world ⟨.acquire descriptor found, now, later⟩ =
        { world with
          registry := { world.registry with
            entries := setEntry key { entry with users := entry.users + 1, unusedSince := 0 }
              world.registry.entries }
          pixmaps := key :: world.pixmaps
          clock := later } := by
      simp only [next, done]
    rw [stepped]
    refine sane.same_keys setEntry_keys rfl rfl ?_ (fun other inside => ?_)
      (fun other => le_trans (sane.past other) passed) ?_
    · refine fits_set sane.fits (fun other apart => ⟨List.count_cons_of_ne apart.symm, rfl⟩) ?_
      refine ⟨?_, fun unused => absurd unused busy, own.whole,
        fun two => (own.tagged two).used _ _⟩
      change entry.users + 1 = (List.count key (key :: world.pixmaps) : Nat)
      rw [List.count_cons_self, own.counted]
      rfl
    · rcases List.mem_cons.mp inside with rfl | before
      · exact List.mem_map.mpr ⟨_, member, rfl⟩
      · exact sane.held other before
    · refine sane.planned.later passed rfl fun held inside unused => ?_
      rcases mem_setEntry inside with rfl | ⟨before, _⟩
      · exact absurd unused busy
      · exact ⟨held, before, unused, rfl⟩

theorem Sane.destroy (sane : Sane world) (allowed : Allowed world ⟨.destroy key, now, later⟩) :
    Sane (next world ⟨.destroy key, now, later⟩) := by
  obtain ⟨forward, onward, live⟩ := allowed
  have passed := le_trans forward onward
  obtain ⟨entry, member⟩ := entry_of_key (sane.held key live)
  have found := Mailbox.lookup_of_mem sane.distinct member
  have own := sane.fits _ member
  have others : ∀ other, other ≠ key ->
      (world.pixmaps.erase key).count other = world.pixmaps.count other /\
        Function.update world.lastGone key now other = world.lastGone other :=
    fun other apart => ⟨List.count_erase_of_ne apart, Function.update_of_ne apart _ _⟩
  have counted : entry.users - 1 = ((world.pixmaps.erase key).count key : Nat) := by
    have before : entry.users = (world.pixmaps.count key : Nat) := own.counted
    have some := List.count_pos_iff.mpr live
    rw [List.count_erase_self]
    omega
  have past : ∀ other, Function.update world.lastGone key now other <= later := by
    intro other
    by_cases same : other = key
    · rw [same, Function.update_self]
      exact onward
    · rw [Function.update_of_ne same]
      exact le_trans (sane.past other) passed
  by_cases unused : entry.users - 1 = 0
  · have done : unuse world.registry key now later = schedulePurgeLocked
        { world.registry with
          entries := setEntry key { entry with users := entry.users - 1, unusedSince := now }
            world.registry.entries } later := by
      simp only [unuse, found, unused, if_true]
    have awaited : Awaited
        { world.registry with
          entries := setEntry key { entry with users := entry.users - 1, unusedSince := now }
            world.registry.entries } world.tasks later := by
      refine sane.planned.toAwaited.later passed rfl fun held inside vacant => ?_
      rcases mem_setEntry inside with rfl | ⟨before, _⟩
      · exact Or.inl forward
      · exact Or.inr ⟨held, before, vacant, rfl⟩
    have planned := awaited.schedule fun held inside vacant => by
      rcases mem_setEntry inside with rfl | ⟨before, _⟩
      · exact onward
      · rw [(sane.fits held before).idle vacant]
        exact le_trans (sane.past held.1) passed
    have kept := schedule_entries { world.registry with
      entries := setEntry key { entry with users := entry.users - 1, unusedSince := now }
        world.registry.entries } later
    rw [<- done] at planned kept
    refine sane.same_keys ((congrArg (List.map Prod.fst) kept).trans setEntry_keys) rfl rfl ?_
      (fun other inside => sane.held other (List.mem_of_mem_erase inside)) past planned
    change Fits _ _ (unuse world.registry key now later).2.entries
    rw [kept]
    refine fits_set sane.fits others ⟨counted, fun _ => ?_, own.whole,
      fun two => (own.tagged two).used _ _⟩
    exact (Function.update_self key now world.lastGone).symm
  · have done : unuse world.registry key now later = (none, { world.registry with
        entries := setEntry key { entry with users := entry.users - 1 } world.registry.entries }) := by
      simp only [unuse, found, unused, if_false]
    have stepped : next world ⟨.destroy key, now, later⟩ =
        { world with
          registry := { world.registry with
            entries := setEntry key { entry with users := entry.users - 1 } world.registry.entries }
          pixmaps := world.pixmaps.erase key
          lastGone := Function.update world.lastGone key now
          clock := later } := by
      simp only [next, done, Option.toList_none, List.append_nil]
    rw [stepped]
    refine sane.same_keys setEntry_keys rfl rfl ?_
      (fun other inside => sane.held other (List.mem_of_mem_erase inside)) past ?_
    · exact fits_set sane.fits others ⟨counted, fun vacant => absurd vacant unused, own.whole,
        fun two => (own.tagged two).used _ _⟩
    · refine sane.planned.later passed rfl fun held inside vacant => ?_
      rcases mem_setEntry inside with rfl | ⟨before, _⟩
      · exact absurd vacant unused
      · exact ⟨held, before, vacant, rfl⟩

theorem Sane.write (sane : Sane world) {place : Nat} {bytes : Bytes} (allowed : Allowed world ⟨.write key place bytes, now, later⟩) :
    Sane (next world ⟨.write key place bytes, now, later⟩) := by
  obtain ⟨forward, onward, entry, plane, member, own, _, inPlane, inside⟩ := allowed
  have passed := le_trans forward onward
  -- Where the one entry changes.
  have changed : ∀ held,
      held ∈ (next world ⟨.write key place bytes, now, later⟩).registry.entries ->
      held ∈ world.registry.entries \/ held =
        (key, { entry with contents := writeAt entry.contents place bytes }) := by
    intro held after
    obtain ⟨⟨other, old⟩, before, same⟩ := List.mem_map.mp after
    by_cases mine : other = key
    · subst mine
      rw [if_pos rfl] at same
      rw [entry_unique sane.distinct before member] at same
      exact Or.inr same.symm
    · rw [if_neg mine] at same
      exact Or.inl (same ▸ before)
  have keys : (next world ⟨.write key place bytes, now, later⟩).registry.entries.map Prod.fst =
      world.registry.entries.map Prod.fst := write_keys key place bytes
  refine sane.same_keys keys rfl rfl ?_ sane.held (fun other => le_trans (sane.past other) passed) ?_
  · intro held after
    rcases changed held after with before | rfl
    · exact sane.fits held before
    · have fit := sane.fits _ member
      refine ⟨fit.counted, fit.idle, (writeAt_length inside).trans fit.whole, fun two => ?_⟩
      exact (fit.tagged two).write fit.whole own inPlane
  · refine sane.planned.later passed rfl fun held after unused => ?_
    rcases changed held after with before | rfl
    · exact ⟨held, before, unused, rfl⟩
    · exact ⟨_, member, unused, rfl⟩

theorem purge_entries (registry : BufferRegistry) (fromDelayedTask : Bool) (now later : TimeTicks) :
    (purgeUnused registry fromDelayedTask now later).2.2.entries =
      registry.entries.filter fun held => !isExpired now held.2 := by
  rw [purgeUnused]
  dsimp only
  rw [schedule_entries]
  cases fromDelayedTask
  · rfl
  · rfl

theorem purge_retired (registry : BufferRegistry) (fromDelayedTask : Bool) (now later : TimeTicks) :
    (purgeUnused registry fromDelayedTask now later).1 =
      (registry.entries.filter fun held => isExpired now held.2).map Prod.fst := by
  cases fromDelayedTask
  · rfl
  · rfl

theorem Sane.purge (sane : Sane world) {fromDelayedTask : Bool} {tasks : List TimeTicks}
    {pressure : Nat} {now later : TimeTicks} (passed : world.clock <= later)
    (awaited : Awaited (if fromDelayedTask then { world.registry with purgePending := false }
      else world.registry) tasks world.clock) :
    Sane { world with
      registry := (purgeUnused world.registry fromDelayedTask now later).2.2
      released := world.released ++ (purgeUnused world.registry fromDelayedTask now later).1
      tasks := tasks ++ (purgeUnused world.registry fromDelayedTask now later).2.1.toList
      pressure := pressure
      clock := later } := by
  have entries := purge_entries world.registry fromDelayedTask now later
  have retired := purge_retired world.registry fromDelayedTask now later
  have planned : Planned (purgeUnused world.registry fromDelayedTask now later).2.2
      (tasks ++ (purgeUnused world.registry fromDelayedTask now later).2.1.toList) later := by
    refine Awaited.schedule (awaited.later passed rfl fun held member unused => ?_)
      fun held member unused => ?_
    · have before := (List.mem_filter.mp member).1
      exact Or.inr ⟨held, before, unused, rfl⟩
    · have before := (List.mem_filter.mp member).1
      have inside : held ∈ world.registry.entries := by
        cases fromDelayedTask
        · exact before
        · exact before
      rw [(sane.fits held inside).idle unused]
      exact le_trans (sane.past held.1) passed
  generalize purgeUnused world.registry fromDelayedTask now later = outcome
    at entries retired planned
  obtain ⟨gone, due, registry⟩ := outcome
  dsimp only at entries retired planned ⊢
  have stays : ∀ held, held ∈ registry.entries <->
      held ∈ world.registry.entries /\ isExpired now held.2 = false := by
    intro held
    rw [entries, List.mem_filter, Bool.not_eq_true']
  have leaves : ∀ key, key ∈ gone <->
      ∃ entry, (key, entry) ∈ world.registry.entries /\ isExpired now entry = true := by
    intro key
    rw [retired, List.mem_map]
    constructor
    · rintro ⟨⟨_, entry⟩, member, rfl⟩
      exact ⟨entry, List.mem_filter.mp member⟩
    · rintro ⟨entry, member, expired⟩
      exact ⟨(key, entry), List.mem_filter.mpr ⟨member, expired⟩, rfl⟩
  have sub : (registry.entries.map Prod.fst).Sublist (world.registry.entries.map Prod.fst) := by
    rw [entries]
    exact List.filter_sublist.map Prod.fst
  have parted : ∀ key ∈ gone, key ∉ registry.entries.map Prod.fst := by
    intro key left present
    obtain ⟨entry, member, expired⟩ := (leaves key).mp left
    obtain ⟨other, remains⟩ := entry_of_key present
    obtain ⟨inside, fresh⟩ := (stays _).mp remains
    rw [entry_unique sane.distinct member inside] at expired
    exact Bool.false_ne_true (fresh.symm.trans expired)
  refine ⟨sane.distinct.sublist sub, fun held member => sane.fits held ((stays held).mp member).1,
    ?_, ?_, ?_, ?_, fun key => le_trans (sane.past key) passed, planned⟩
  · intro key (live : key ∈ world.pixmaps)
    obtain ⟨entry, member⟩ := entry_of_key (sane.held key live)
    refine List.mem_map.mpr ⟨(key, entry), (stays _).mpr ⟨member, ?_⟩, rfl⟩
    -- A pixmap lives, so the entry has a user.
    have counted : entry.users = (world.pixmaps.count key : Nat) := (sane.fits _ member).counted
    have some := List.count_pos_iff.mpr live
    have busy : entry.users ≠ 0 := by omega
    rw [isExpired, decide_eq_false busy, Bool.false_and]
  · intro key
    rw [List.mem_append, sane.accounted key]
    constructor
    · rintro (present | before)
      · obtain ⟨entry, member⟩ := entry_of_key present
        cases expired : isExpired now entry with
        | true => exact Or.inr (Or.inr ((leaves key).mpr ⟨entry, member, expired⟩))
        | false => exact Or.inl (List.mem_map.mpr ⟨_, (stays (key, entry)).mpr ⟨member, expired⟩, rfl⟩)
      · exact Or.inr (Or.inl before)
    · rintro (present | before | left)
      · exact Or.inl (sub.mem present)
      · exact Or.inr before
      · obtain ⟨entry, member, _⟩ := (leaves key).mp left
        exact Or.inl (List.mem_map.mpr ⟨_, member, rfl⟩)
  · intro key released
    rcases List.mem_append.mp released with before | left
    · exact fun present => sane.apart key before (sub.mem present)
    · exact parted key left
  · refine List.nodup_append'.mpr ⟨sane.once, ?_, ?_⟩
    · rw [retired]
      exact sane.distinct.sublist (List.filter_sublist.map Prod.fst)
    · intro key before left
      obtain ⟨entry, member, _⟩ := (leaves key).mp left
      exact sane.apart key before (List.mem_map.mpr ⟨_, member, rfl⟩)

theorem Sane.one_task (sane : Sane world) {due : TimeTicks} (queued : due ∈ world.tasks) :
    world.tasks.erase due = [] := by
  cases pending : world.registry.purgePending with
  | false =>
    rw [sane.planned.none pending] at queued
    exact absurd queued List.not_mem_nil
  | true =>
    obtain ⟨only, single, _⟩ := sane.planned.one pending
    rw [single] at queued
    rw [single, List.mem_singleton.mp queued, List.erase_cons_head]

theorem Sane.step {label : Label} (sane : Sane world) (allowed : Allowed world label) :
    Sane (next world label) := by
  obtain ⟨event, now, later⟩ := label
  have passed : world.clock <= later := le_trans allowed.1 allowed.2.1
  cases event with
  | allocate width height format native => exact sane.allocate allowed
  | acquire descriptor found => exact sane.acquire passed
  | destroy key => exact sane.destroy allowed
  | write key place bytes => exact sane.write allowed
  | releaseMemory =>
    exact sane.same_keys rfl rfl rfl sane.fits sane.held
      (fun key => le_trans (sane.past key) passed)
      (sane.planned.later passed rfl fun held inside unused => ⟨held, inside, unused, rfl⟩)
  | pressurePurge => exact sane.purge passed sane.planned.toAwaited
  | delayedPurge due =>
    obtain ⟨-, -, queued, -⟩ := allowed
    have awaited : Awaited { world.registry with purgePending := false } (world.tasks.erase due)
        world.clock := by
      -- The one task there was is the one that runs.
      exact ⟨fun _ => sane.one_task queued, fun pending => absurd pending Bool.false_ne_true⟩
    exact @Sane.purge world sane true _ _ now later passed awaited

end Steps

theorem Sane.run {labels : List Label} (follows : Follows Allowed next {} labels) :
    Sane (labels.foldl next {}) :=
  follows.preserves (fun _ _ sane allowed => sane.step allowed) sane_initial

end ChromiumHmos.Ozone.NativePixmap
