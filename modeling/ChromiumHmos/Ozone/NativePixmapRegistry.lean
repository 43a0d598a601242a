import ChromiumHmos.Ozone.NativePixmapRuns

set_option autoImplicit false

/-!
# Whose buffer a descriptor is, and how long it is kept
-/

namespace ChromiumHmos.Ozone.NativePixmap

open Base Lib Transition

variable {world : World}

variable {key : UInt64} {entry : BufferEntry}

theorem contents_of_registered (sane : Sane world)
    (member : (key, entry) ∈ world.registry.entries) :
    contentsOf world.registry (.registered key) = entry.contents := by
  rw [contentsOf, Mailbox.lookup_of_mem sane.distinct member]
  rfl

theorem claims_own (tagged : Tagged key entry)
    (whole : entry.contents.length = entry.size) (found : Bool) :
    claims entry.contents (lseek entry.contents found) (key, entry) = true := by
  rw [claims, tagged.read whole rfl, Bool.and_eq_true]
  refine ⟨?_, decide_eq_true rfl⟩
  cases found with
  | true => simp [lseek, whole]
  | false => rfl

-- With the size known, only entries of that size are looked at, all at one place.
theorem claims_sized (tagged : Tagged key entry)
    (whole : entry.contents.length = entry.size) {other : UInt64 × BufferEntry}
    (claimed : claims entry.contents (lseek entry.contents true) other = true) : other.1 = key := by
  obtain ⟨sized, read⟩ := Bool.and_eq_true_iff.mp claimed
  have room := tagged.room
  have size : other.2.size = entry.size := by
    rcases Bool.or_eq_true_iff.mp sized with empty | same
    · have none : (entry.contents.length : Int) <= 0 := of_decide_eq_true empty
      rw [whole] at none
      have some : 0 < tagSize := by decide
      omega
    · rw [<- whole]
      exact of_decide_eq_true same
  rw [tagged.read whole size] at read
  exact (BufferTag.mk.inj (Option.some.inj (of_decide_eq_true read))).2.symm

theorem acquire_own (sane : Sane world)
    (member : (key, entry) ∈ world.registry.entries) (two : entry.planes.length = 2) (found : Bool)
    (plain : found = true \/ ∀ other ∈ world.registry.entries, other.1 ≠ key ->
      readEntryTag entry.contents other.2 ≠ some (entryTag other.1)) :
    (acquire world.registry entry.contents (lseek entry.contents found)).1 = some key := by
  have fit := sane.fits _ member
  have tagged := fit.tagged two
  have own := claims_own tagged fit.whole found
  rw [acquire]
  cases first : world.registry.entries.find?
      (claims entry.contents (lseek entry.contents found)) with
  | none => exact absurd own (List.find?_eq_none.mp first _ member)
  | some held =>
    have claimed := List.find?_some first
    have same : held.1 = key := by
      rcases plain with sized | unspelled
      · subst sized
        exact claims_sized tagged fit.whole claimed
      · by_contra apart
        have read := (Bool.and_eq_true_iff.mp claimed).2
        exact unspelled held (List.mem_of_find?_eq_some first) apart (of_decide_eq_true read)
    exact congrArg some same

variable {registry : BufferRegistry}

-- Whatever the descriptor, an entry is taken only for bytes that spell its tag.
theorem acquire_spelled {contents : Bytes} {last : Int}
    (taken : (acquire registry contents last).1 = some key) :
    ∃ entry, (key, entry) ∈ registry.entries /\
      readEntryTag contents entry = some (entryTag key) := by
  rw [acquire] at taken
  cases first : registry.entries.find? (claims contents last) with
  | none =>
    rw [first] at taken
    cases taken
  | some held =>
    rw [first] at taken
    obtain ⟨own, entry⟩ := held
    cases taken
    have claimed := List.find?_some first
    exact ⟨entry, List.mem_of_find?_eq_some first,
      of_decide_eq_true (Bool.and_eq_true_iff.mp claimed).2⟩

theorem unuse_keys (registry : BufferRegistry) (key : UInt64) (now later : TimeTicks) :
    (unuse registry key now later).2.entries.map Prod.fst = registry.entries.map Prod.fst := by
  rw [unuse]
  split
  · rfl
  · dsimp only
    split
    · rw [schedule_entries, setEntry_keys]
    · exact setEntry_keys

variable {label : Label}

theorem retired_expired (sane : Sane world) (allowed : Allowed world label) (before : key ∈ world.registry.entries.map Prod.fst)
    (gone : key ∉ (next world label).registry.entries.map Prod.fst) :
    ∃ entry, (key, entry) ∈ world.registry.entries /\ isExpired label.now entry = true := by
  obtain ⟨event, now, later⟩ := label
  have purged : ∀ delayed,
      key ∉ (purgeUnused world.registry delayed now later).2.2.entries.map Prod.fst ->
      ∃ entry, (key, entry) ∈ world.registry.entries /\ isExpired now entry = true := by
    intro delayed absent
    obtain ⟨entry, member⟩ := entry_of_key before
    refine ⟨entry, member, ?_⟩
    by_contra fresh
    rw [purge_entries] at absent
    refine absent (List.mem_map.mpr ⟨(key, entry), List.mem_filter.mpr ⟨member, ?_⟩, rfl⟩)
    simpa using fresh
  cases event with
  | allocate width height format native =>
    rcases allocate_cases world.registry width height format native with
      ⟨failed, kept, _⟩ | ⟨buffer, entry, rfl, done, _⟩
    · generalize outcome : allocate world.registry width height format native = answer
        at failed kept
      obtain ⟨_, registry⟩ := answer
      subst failed
      simp only [next, outcome] at gone
      rw [kept] at gone
      exact absurd before gone
    · have absent : world.registry.lastKey + 1 ∉ world.registry.entries.map Prod.fst :=
        fun member => allowed.2.2.1 ((sane.accounted _).mpr (Or.inl member))
      have perm : (insertEntry (world.registry.lastKey + 1) entry world.registry.entries).Perm _ :=
        insertEntry_perm entry absent
      simp only [next, done] at gone
      rw [(perm.map Prod.fst).mem_iff] at gone
      exact absurd (List.mem_cons_of_mem _ before) gone
  | acquire descriptor found =>
    rcases acquire_cases world.registry (contentsOf world.registry descriptor)
      (lseek (contentsOf world.registry descriptor) found) with unknown | ⟨_, _, _, done⟩
    · simp only [next, unknown] at gone
      exact absurd before gone
    · simp only [next, done, setEntry_keys] at gone
      exact absurd before gone
  | destroy other =>
    refine absurd before ?_
    rw [<- unuse_keys world.registry other now later]
    exact gone
  | write other place bytes =>
    refine absurd before ?_
    rw [<- write_keys other place bytes]
    exact gone
  | releaseMemory => exact absurd before gone
  | pressurePurge => exact purged false gone
  | delayedPurge due => exact purged true gone

theorem keys_grow (label : Label) (given : key ∈ world.keys) : key ∈ (next world label).keys := by
  obtain ⟨event, now, later⟩ := label
  cases event with
  | allocate width height format native =>
    rcases outcome : allocate world.registry width height format native with ⟨_ | fresh, registry⟩
    · simp only [next, outcome]
      exact given
    · simp only [next, outcome]
      exact List.mem_cons_of_mem _ given
  | acquire descriptor found =>
    rcases outcome : acquire world.registry (contentsOf world.registry descriptor)
      (lseek (contentsOf world.registry descriptor) found) with ⟨_ | taken, registry⟩
    · simp only [next, outcome]
      exact given
    · simp only [next, outcome]
      exact given
  | _ => exact given

variable {now later due : TimeTicks}

theorem unuse_posted
    (posted : (unuse registry key now later).1 = some due) :
    ∃ held, held ∈ (unuse registry key now later).2.entries /\ held.2.users = 0 := by
  rw [unuse] at posted ⊢
  split at posted
  · cases posted
  · dsimp only at posted ⊢
    split at posted
    · rename_i unused
      rw [if_pos unused, schedule_entries]
      exact schedule_idle posted
    · cases posted

theorem purge_posted {delayed : Bool}
    (posted : (purgeUnused registry delayed now later).2.1 = some due) :
    ∃ held, held ∈ (purgeUnused registry delayed now later).2.2.entries /\
      held.2.users = 0 := by
  rw [purgeUnused] at posted ⊢
  dsimp only at posted ⊢
  rw [schedule_entries]
  exact schedule_idle posted

theorem none_posted
    (quiet : ∀ held, held ∈ (next world label).registry.entries -> held.2.users ≠ 0) :
    (next world label).tasks =
      match label.event with
      | .delayedPurge due => world.tasks.erase due
      | _ => world.tasks := by
  obtain ⟨event, now, later⟩ := label
  have purged : ∀ delayed,
      (∀ held, held ∈ (purgeUnused world.registry delayed now later).2.2.entries ->
        held.2.users ≠ 0) ->
      (purgeUnused world.registry delayed now later).2.1 = none := by
    intro delayed busy
    rw [Option.eq_none_iff_forall_ne_some]
    intro due posted
    obtain ⟨held, member, unused⟩ := purge_posted posted
    exact busy held member unused
  cases event with
  | allocate width height format native =>
    rcases outcome : allocate world.registry width height format native with ⟨_ | key, registry⟩
    · simp only [next, outcome]
    · simp only [next, outcome]
  | acquire descriptor found =>
    rcases outcome : acquire world.registry (contentsOf world.registry descriptor)
      (lseek (contentsOf world.registry descriptor) found) with ⟨_ | key, registry⟩
    · simp only [next, outcome]
    · simp only [next, outcome]
  | destroy key =>
    have none : (unuse world.registry key now later).1 = none := by
      rw [Option.eq_none_iff_forall_ne_some]
      intro due posted
      obtain ⟨held, member, unused⟩ := unuse_posted posted
      exact quiet held member unused
    change world.tasks ++ (unuse world.registry key now later).1.toList = world.tasks
    rw [none, Option.toList_none, List.append_nil]
  | write key place bytes => rfl
  | releaseMemory => rfl
  | pressurePurge =>
    change world.tasks ++ (purgeUnused world.registry false now later).2.1.toList = world.tasks
    rw [purged false quiet, Option.toList_none, List.append_nil]
  | delayedPurge due =>
    change world.tasks.erase due ++ (purgeUnused world.registry true now later).2.1.toList =
      world.tasks.erase due
    rw [purged true quiet, Option.toList_none, List.append_nil]

theorem native_pixmap_registry (labels : List Label) (follows : Follows Allowed next {} labels) :
    let world := labels.foldl next {}
    (forall key entry, (key, entry) ∈ world.registry.entries ->
      entry.users = (world.pixmaps.count key : Nat) ∧
      (entry.planes.length = 2 ->
        let contents := contentsOf world.registry (.registered key)
        (acquire world.registry contents (lseek contents true)).1 = some key ∧
        ((forall other, other ∈ world.registry.entries -> other.1 ≠ key ->
            readEntryTag contents other.2 ≠
              some { magic := kBufferTagMagic, key := other.1 }) ->
          (acquire world.registry contents (lseek contents false)).1 = some key) ∧
        forall plane, plane ∈ entry.planes -> plane.last + tagSize <= entry.size)) ∧
    (forall contents last key, (acquire world.registry contents last).1 = some key ->
      exists entry, (key, entry) ∈ world.registry.entries ∧
        readEntryTag contents entry = some { magic := kBufferTagMagic, key := key }) ∧
    (world.released.Nodup ∧ forall key,
      (key ∈ world.keys <-> key ∈ world.registry.entries.map Prod.fst ∨ key ∈ world.released) ∧
      (key ∈ world.released -> key ∉ world.registry.entries.map Prod.fst)) ∧
    (forall label, Allowed world label -> forall key,
      key ∈ world.registry.entries.map Prod.fst ->
      key ∉ (next world label).registry.entries.map Prod.fst ->
      key ∉ world.pixmaps ∧ world.lastGone key + kUnusedBufferGrace <= label.now ∧
        key ∈ (next world label).released) ∧
    (forall key entry, (key, entry) ∈ world.registry.entries -> entry.users = 0 ->
      exists due, world.tasks = [due] ∧
        due <= max (world.lastGone key + kUnusedBufferGrace) world.clock) ∧
    forall label, Allowed world label ->
      (forall held, held ∈ (next world label).registry.entries -> held.2.users ≠ 0) ->
      (next world label).tasks =
        match label.event with
        | .delayedPurge _ => []
        | _ => world.tasks := by
  intro world
  have sane : Sane world := Sane.run follows
  refine ⟨fun key entry member => ⟨(sane.fits _ member).counted, fun two => ?_⟩,
    fun _ _ _ taken => acquire_spelled taken, ⟨sane.once, fun key => ⟨sane.accounted key, sane.apart key⟩⟩, ?_, ?_, ?_⟩
  · rw [contents_of_registered sane member]
    exact ⟨acquire_own sane member two true (Or.inl rfl),
      fun plain => acquire_own sane member two false (Or.inr plain),
      ((sane.fits _ member).tagged two).planes⟩
  · intro label allowed key before gone
    obtain ⟨entry, member, expired⟩ := retired_expired sane allowed before gone
    obtain ⟨unused, passed⟩ := Bool.and_eq_true_iff.mp expired
    have fit := sane.fits _ member
    have vacant : entry.users = 0 := of_decide_eq_true unused
    have counted : (world.pixmaps.count key : Int) = 0 := fit.counted.symm.trans vacant
    refine ⟨List.count_eq_zero.mp (Int.natCast_eq_zero.mp counted), ?_, ?_⟩
    · have since : entry.unusedSince = world.lastGone key := fit.idle vacant
      rw [<- since]
      exact Int.add_le_of_le_sub_left (of_decide_eq_true passed)
    · have after := sane.step allowed
      have known := keys_grow label ((sane.accounted key).mpr (Or.inl before))
      exact ((after.accounted key).mp known).resolve_left gone
  · intro key entry member unused
    cases pending : world.registry.purgePending with
    | false => exact absurd unused (sane.planned.idle pending _ member)
    | true =>
      obtain ⟨due, single, _, timely⟩ := sane.planned.one pending
      refine ⟨due, single, ?_⟩
      have since : entry.unusedSince = world.lastGone key := (sane.fits _ member).idle unused
      rw [<- since]
      exact timely _ member unused
  · intro label allowed quiet
    rw [none_posted quiet]
    obtain ⟨event, now, later⟩ := label
    cases event with
    | delayedPurge due => exact sane.one_task allowed.2.2.1
    | _ => rfl

-- Two video buffers: the first of 32 bytes, the second of 64.
def smallBuffer : NativeBuffer :=
  { planes := some ((4, 0), (4, 8)), stride := 4, handleSize := some 32
    contents := List.replicate 32 0 }

def largeBuffer : NativeBuffer :=
  { planes := some ((16, 0), (16, 32)), stride := 16, handleSize := some 64
    contents := List.replicate 64 0 }

theorem smallBuffer_sound : smallBuffer.Sound 2 :=
  ⟨rfl, fun planes same => by cases same; decide⟩

theorem largeBuffer_sound : largeBuffer.Sound 2 :=
  ⟨rfl, fun planes same => by cases same; decide⟩

def importedAgain : List Label :=
  [⟨.allocate 2 2 .nv12 (some smallBuffer), 0, 0⟩, ⟨.destroy 1, 1, 1⟩,
    ⟨.acquire (.registered 1) true, 2, 2⟩]

theorem importedAgain_follows : Follows Allowed next {} importedAgain :=
  ⟨⟨by decide, by decide, by decide, fun _ same => Option.some.inj same ▸ smallBuffer_sound⟩,
    ⟨by decide, by decide, List.mem_of_elem_eq_true (by decide)⟩,
    ⟨by decide, by decide, List.mem_of_elem_eq_true (by decide)⟩, trivial⟩

def smallEntry : BufferEntry :=
  { size := 32
    planes := [{ stride := 4, offset := 0, size := 8 }, { stride := 4, offset := 8, size := 4 }]
    users := 1
    unusedSince := 0
    contents := List.replicate 16 0 ++ (entryTag 1).bytes }

theorem native_pixmap_registry_imported :
    let registry := (importedAgain.foldl next {}).registry
    let contents := contentsOf registry (.registered 1)
    (acquire registry contents (lseek contents true)).1 = some 1 :=
  have registered : (1, smallEntry) ∈ (importedAgain.foldl next {}).registry.entries := by
    decide
  (((native_pixmap_registry importedAgain importedAgain_follows).1 1 smallEntry registered).2
    rfl).1

def spelledTag : List Label :=
  [⟨.allocate 2 2 .nv12 (some smallBuffer), 0, 0⟩, ⟨.allocate 2 2 .nv12 (some largeBuffer), 0, 0⟩,
    ⟨.write 2 16 (entryTag 1).bytes, 0, 0⟩]

def rendered : List Label := [⟨.allocate 2 2 .rgba8888 (some smallBuffer), 0, 0⟩]

/-- A single-plane buffer is not found by its descriptor; with its size unknown, a buffer is taken for
the one whose tag its holder wrote into it; and a task outlives the last idle entry. -/
theorem buffer_not_found :
    (Follows Allowed next {} rendered ∧
      let world := rendered.foldl next {}
      1 ∈ world.registry.entries.map Prod.fst ∧
      (acquire world.registry (contentsOf world.registry (.registered 1))
        (lseek (contentsOf world.registry (.registered 1)) true)).1 = none) ∧
    (Follows Allowed next {} spelledTag ∧
      let world := spelledTag.foldl next {}
      2 ∈ world.registry.entries.map Prod.fst ∧
      (acquire world.registry (contentsOf world.registry (.registered 2))
        (lseek (contentsOf world.registry (.registered 2)) false)).1 = some 1) ∧
    Follows Allowed next {} importedAgain ∧
      (importedAgain.foldl next {}).tasks ≠ [] ∧
      forall held, held ∈ (importedAgain.foldl next {}).registry.entries -> held.2.users ≠ 0 := by
  refine ⟨⟨⟨⟨by decide, by decide, by decide,
      fun _ same => Option.some.inj same ▸ smallBuffer_sound⟩, trivial⟩,
      by decide, by decide⟩, ⟨⟨?_, ?_, ?_, trivial⟩, by decide,
      by decide⟩, importedAgain_follows, by decide, by decide⟩
  · exact ⟨by decide, by decide, by decide, fun _ same => Option.some.inj same ▸ smallBuffer_sound⟩
  · exact ⟨by decide, by decide, by decide,
      fun _ same => Option.some.inj same ▸ largeBuffer_sound⟩
  · refine ⟨by decide, by decide, ((spelledTag.take 2).foldl next {}).registry.entries[1].2,
      ⟨16, 0, 32⟩, ?_⟩
    decide

end ChromiumHmos.Ozone.NativePixmap
