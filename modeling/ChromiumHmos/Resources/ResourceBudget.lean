import ChromiumHmos.Resources.PageResources

set_option autoImplicit false

/-!
# The budget of a page's resources

The counters are the totals of the entries, and every entry comes from a response recorded since
the page became the primary one.
-/

namespace ChromiumHmos.Resources

open Std OrderedMap

namespace PageResources

def metadataOf (_ : String) (entry : Entry) : Nat := entry.metadataBytes
def imageOf (_ : String) (entry : Entry) : Nat := isImage entry.kind

structure Budgeted (lib : ResourceLibrary) (page : PageResources) : Prop where
  metadata : page.metadataBytes = total metadataOf page.entries
  images : page.images = total imageOf page.entries
  metadataBound : page.metadataBytes ≤ kMaxMetadataBytes
  imageBound : page.images ≤ kMaxImages
  entryBound : page.entries.size ≤ kMaxEntries
  kinds : ∀ (key : String) (entry : Entry), page.entries[key]? = some entry →
    classifyResponse lib entry.response = some entry.kind
  made : ∀ (key : String) (entry : Entry), page.entries[key]? = some entry → entry.id < page.tokens
  distinct : ∀ (first second : String) (entry other : Entry), page.entries[first]? = some entry →
    page.entries[second]? = some other → entry.id = other.id → first = second

variable {lib : ResourceLibrary} {page : PageResources}

theorem Budgeted.changed (budgeted : page.Budgeted lib) : page.changed.Budgeted lib := by
  obtain ⟨metadata, images, metadataBound, imageBound, entryBound, kinds, made, distinct⟩ := budgeted
  exact ⟨metadata, images, metadataBound, imageBound, entryBound, kinds, made, distinct⟩

theorem Budgeted.remove (budgeted : page.Budgeted lib) (key : String) (entry : Entry)
    (found : page.entries[key]? = some entry) : (page.remove key entry).Budgeted lib := by
  have metadata := total_erase metadataOf page.entries key entry found
  have images := total_erase imageOf page.entries key entry found
  have fewer : (page.entries.erase key).size <= page.entries.size := ExtTreeMap.size_erase_le
  have old (other : String) (kept : Entry) (held : (page.entries.erase key)[other]? = some kept) :
      page.entries[other]? = some kept := ((getElem?_erase_some _ _ _ _).mp held).2
  constructor
  case metadata =>
    show page.metadataBytes - entry.metadataBytes = _
    rw [budgeted.metadata, <- metadata]
    exact Nat.add_sub_cancel _ _
  case images =>
    show page.images - isImage entry.kind = _
    rw [budgeted.images, <- images]
    exact Nat.add_sub_cancel _ _
  case metadataBound => exact (Nat.sub_le _ _).trans budgeted.metadataBound
  case imageBound => exact (Nat.sub_le _ _).trans budgeted.imageBound
  case entryBound => exact fewer.trans budgeted.entryBound
  case kinds => exact fun other kept held => budgeted.kinds other kept (old other kept held)
  case made => exact fun other kept held => budgeted.made other kept (old other kept held)
  case distinct =>
    exact fun first second kept other held also =>
      budgeted.distinct first second kept other (old first kept held) (old second other also)

theorem removeAll_spec (gone : List (String × Entry)) (page : PageResources)
    (budgeted : page.Budgeted lib) (keys : (gone.map Prod.fst).Nodup)
    (held : ∀ entry ∈ gone, page.entries[entry.1]? = some entry.2) :
    let left := gone.foldl (fun page entry => page.remove entry.1 entry.2) page
    left.Budgeted lib /\ left.tokens = page.tokens /\
      ∀ (key : String) (entry : Entry), left.entries[key]? = some entry ->
        page.entries[key]? = some entry := by
  induction gone generalizing page with
  | nil => exact ⟨budgeted, rfl, fun _ _ found => found⟩
  | cons first rest ih =>
    obtain ⟨fresh, others⟩ := List.nodup_cons.mp keys
    have next := budgeted.remove first.1 first.2 (held first List.mem_cons_self)
    have still : ∀ entry ∈ rest, (page.remove first.1 first.2).entries[entry.1]? = some entry.2 := by
      intro entry member
      refine (getElem?_erase_some _ _ _ _).mpr ⟨?_, held entry (List.mem_cons_of_mem _ member)⟩
      exact fun same => fresh (List.mem_map.mpr ⟨entry, member, same⟩)
    obtain ⟨kept, tokens, old⟩ := ih _ next others still
    exact ⟨kept, tokens, fun key entry found =>
      ((getElem?_erase_some _ _ _ _).mp (old key entry found)).2⟩

theorem prune_spec (world : World) (removed : Option Nat) (budgeted : page.Budgeted lib) :
    (page.prune world removed).Budgeted lib /\
      ∀ (key : String) (entry : Entry), (page.prune world removed).entries[key]? = some entry ->
        page.entries[key]? = some entry := by
  have keys : ((page.entries.toList.filter fun entry => stale world removed entry.2).map
      Prod.fst).Nodup := by
    have all : (page.entries.toList.map Prod.fst).Nodup := by
      rw [ExtTreeMap.map_fst_toList_eq_keys]
      exact ExtTreeMap.nodup_keys
    exact (List.filter_sublist.map Prod.fst).nodup all
  obtain ⟨kept, -, old⟩ := removeAll_spec _ page budgeted keys fun entry member =>
    ExtTreeMap.mem_toList_iff_getElem?_eq_some.mp (List.mem_of_mem_filter member)
  unfold prune
  simp only
  split
  · exact ⟨kept, old⟩
  · exact ⟨kept.changed, old⟩

theorem empty_budgeted (lib : ResourceLibrary) (page : PageResources) (none : page.entries = ∅)
    (noBytes : page.metadataBytes = 0) (noImages : page.images = 0) : page.Budgeted lib where
  metadata := by rw [noBytes, none, total_empty]
  images := by rw [noImages, none, total_empty]
  metadataBound := noBytes ▸ Nat.zero_le _
  imageBound := noImages ▸ Nat.zero_le _
  entryBound := by
    rw [none, ExtTreeMap.size_empty]
    exact Nat.zero_le _
  kinds := by simp [none]
  made := by simp [none]
  distinct := by simp [none]

theorem clear_budgeted (lib : ResourceLibrary) (page : PageResources) : page.clear.Budgeted lib :=
  empty_budgeted lib page.clear rfl rfl rfl

theorem retire_spec (key : String) (kind : ResourceKind) (budgeted : page.Budgeted lib) :
    (page.retire key kind).Budgeted lib /\
      (∀ (other : String) (entry : Entry), (page.retire key kind).entries[other]? = some entry ->
        page.entries[other]? = some entry) /\
      ∀ entry : Entry, (page.retire key kind).entries[key]? = some entry -> entry.kind = kind := by
  unfold retire
  cases found : page.entries[key]? with
  | none => exact ⟨budgeted, fun _ _ held => held, fun entry held => by simp [found] at held⟩
  | some old =>
    by_cases differs : old.kind ≠ kind
    · simp only [if_pos differs]
      refine ⟨(budgeted.remove key old found).changed,
        fun other entry held => ((getElem?_erase_some _ _ _ _).mp held).2, fun entry held => ?_⟩
      exact absurd rfl ((getElem?_erase_some page.entries key key entry).mp held).1
    · simp only [if_neg differs]
      refine ⟨budgeted, fun _ _ held => held, fun entry held => ?_⟩
      rw [found] at held
      exact Option.some.inj held ▸ not_not.mp differs

theorem update_spec (world : World) (frame : Frame) (r : ResourceResponse) (key : String)
    (found : Entry) (budgeted : page.Budgeted lib) (held : page.entries[key]? = some found)
    (kind : classifyResponse lib r = some found.kind) :
    (page.update lib world frame r key found).Budgeted lib /\
      ∀ (other : String) (entry : Entry),
        (page.update lib world frame r key found).entries[other]? = some entry ->
        page.entries[other]? = some entry \/
          other = key /\ entry.response = r /\ entry.document = frame.document := by
  let bytes := entryBytes lib frame r
  let total := totalBytes r.status r.contentLength r.contentRange
  let entry := { found with
    metadataBytes := bytes
    total := if 0 <= total then total else found.total
    document := frame.document
    response := r }
  let after := { page with
    metadataBytes := page.metadataBytes - found.metadataBytes + bytes
    entries := page.entries.insert key entry }
  by_cases large : kMaxMetadataBytes < page.metadataBytes - found.metadataBytes + bytes
  · have same : page.update lib world frame r key found = page := by
      unfold update
      exact if_pos large
    rw [same]
    exact ⟨budgeted, fun _ _ kept => Or.inl kept⟩
  · have moved : page.update lib world frame r key found = after \/
        page.update lib world frame r key found = after.changed := by
      unfold update
      simp only
      rw [if_neg large]
      split
      · exact Or.inr rfl
      · exact Or.inl rfl
    have metadata := total_insert_found metadataOf page.entries key found entry held
    have images := total_insert_found imageOf page.entries key found entry held
    have before := le_total metadataOf page.entries key found held
    have cases (other : String) (kept : Entry)
        (inside : (page.entries.insert key entry)[other]? = some kept) :
        (other = key /\ kept = entry) \/ (other ≠ key /\ page.entries[other]? = some kept) :=
      (getElem?_insert_some _ _ _ _ _).mp inside
    have result : after.Budgeted lib := by
      constructor
      case metadata =>
        show page.metadataBytes - found.metadataBytes + bytes = _
        change _ + found.metadataBytes = _ + bytes at metadata
        change found.metadataBytes <= _ at before
        rw [budgeted.metadata]
        show _ = OrderedMap.total metadataOf (page.entries.insert key entry)
        omega
      case images =>
        show page.images = OrderedMap.total imageOf (page.entries.insert key entry)
        change _ + isImage found.kind = _ + isImage found.kind at images
        rw [budgeted.images]
        omega
      case metadataBound => exact Nat.le_of_not_lt large
      case imageBound => exact budgeted.imageBound
      case entryBound =>
        have member : key ∈ page.entries := by
          rw [ExtTreeMap.mem_iff_isSome_getElem?, held]
          rfl
        show (page.entries.insert key entry).size <= _
        rw [ExtTreeMap.size_insert, if_pos (ExtTreeMap.mem_iff_contains.mp member)]
        exact budgeted.entryBound
      case kinds =>
        intro other kept inside
        rcases cases other kept inside with ⟨-, rfl⟩ | ⟨-, old⟩
        · exact kind
        · exact budgeted.kinds other kept old
      case made =>
        intro other kept inside
        rcases cases other kept inside with ⟨-, rfl⟩ | ⟨-, old⟩
        · exact budgeted.made key found held
        · exact budgeted.made other kept old
      case distinct =>
        intro first second kept other inside also same
        rcases cases first kept inside with ⟨rfl, rfl⟩ | ⟨-, old⟩
        · rcases cases second other also with ⟨rfl, -⟩ | ⟨-, older⟩
          · rfl
          · exact budgeted.distinct first second found other held older same
        · rcases cases second other also with ⟨rfl, rfl⟩ | ⟨-, older⟩
          · exact budgeted.distinct first second kept found old held same
          · exact budgeted.distinct first second kept other old older same
    have origin (other : String) (kept : Entry)
        (inside : (page.entries.insert key entry)[other]? = some kept) :
        page.entries[other]? = some kept \/
          other = key /\ kept.response = r /\ kept.document = frame.document := by
      rcases cases other kept inside with ⟨same, rfl⟩ | ⟨-, old⟩
      · exact Or.inr ⟨same, rfl, rfl⟩
      · exact Or.inl old
    rcases moved with same | same
    · rw [same]
      exact ⟨result, origin⟩
    · rw [same]
      exact ⟨result.changed, origin⟩

theorem insert_spec (frame : Frame) (r : ResourceResponse) (key : String) (kind : ResourceKind)
    (budgeted : page.Budgeted lib) (fresh : page.entries[key]? = none)
    (classified : classifyResponse lib r = some kind) :
    (page.insert lib frame r key kind).Budgeted lib /\
      ∀ (other : String) (entry : Entry),
        (page.insert lib frame r key kind).entries[other]? = some entry ->
        page.entries[other]? = some entry \/
          other = key /\ entry.response = r /\ entry.document = frame.document := by
  let bytes := entryBytes lib frame r
  let entry : Entry :=
    { id := page.tokens
      kind
      name := entryName lib r
      response := r
      document := frame.document
      total := totalBytes r.status r.contentLength r.contentRange
      metadataBytes := bytes }
  by_cases full : kMaxEntries <= page.entries.size \/
      kMaxMetadataBytes < page.metadataBytes + bytes \/ (kind = .image /\ kMaxImages <= page.images)
  · have moved : page.insert lib frame r key kind = page \/
        page.insert lib frame r key kind = changed { page with truncated := true } := by
      unfold insert
      simp only
      rw [if_pos full]
      split
      · exact Or.inl rfl
      · exact Or.inr rfl
    rcases moved with same | same
    · rw [same]
      exact ⟨budgeted, fun _ _ kept => Or.inl kept⟩
    · rw [same]
      obtain ⟨metadata, images, metadataBound, imageBound, entryBound, kinds, made, distinct⟩ :=
        budgeted
      exact ⟨⟨metadata, images, metadataBound, imageBound, entryBound, kinds, made, distinct⟩,
        fun _ _ kept => Or.inl kept⟩
  · have moved : page.insert lib frame r key kind = changed
        { page with
          entries := page.entries.insert key entry
          metadataBytes := page.metadataBytes + bytes
          images := page.images + isImage kind
          tokens := page.tokens + 1 } := by
      unfold insert
      simp only
      rw [if_neg full]
    rw [moved]
    obtain ⟨room, rest⟩ := not_or.mp full
    obtain ⟨small, few⟩ := not_or.mp rest
    have metadata := total_insert_fresh metadataOf page.entries key entry fresh
    have images := total_insert_fresh imageOf page.entries key entry fresh
    have cases (other : String) (kept : Entry)
        (inside : (page.entries.insert key entry)[other]? = some kept) :
        (other = key /\ kept = entry) \/ (other ≠ key /\ page.entries[other]? = some kept) :=
      (getElem?_insert_some _ _ _ _ _).mp inside
    refine ⟨?_, fun other kept inside => ?_⟩
    · constructor
      case metadata =>
        show page.metadataBytes + bytes = OrderedMap.total metadataOf (page.entries.insert key entry)
        rw [metadata, budgeted.metadata]
        rfl
      case images =>
        show page.images + isImage kind = OrderedMap.total imageOf (page.entries.insert key entry)
        rw [images, budgeted.images]
        rfl
      case metadataBound => exact Nat.le_of_not_lt small
      case imageBound =>
        show page.images + isImage kind <= kMaxImages
        have bound := budgeted.imageBound
        by_cases image : kind = .image
        · have below := Nat.lt_of_not_le fun many => few ⟨image, many⟩
          rw [isImage, if_pos image]
          omega
        · rw [isImage, if_neg image]
          omega
      case entryBound =>
        show (page.entries.insert key entry).size <= _
        exact ExtTreeMap.size_insert_le.trans (Nat.lt_of_not_le room)
      case kinds =>
        intro other kept inside
        rcases cases other kept inside with ⟨-, rfl⟩ | ⟨-, old⟩
        · exact classified
        · exact budgeted.kinds other kept old
      case made =>
        intro other kept inside
        rcases cases other kept inside with ⟨-, rfl⟩ | ⟨-, old⟩
        · exact Nat.lt_succ_self _
        · exact Nat.lt_succ_of_lt (budgeted.made other kept old)
      case distinct =>
        intro first second kept other inside also same
        rcases cases first kept inside with ⟨rfl, rfl⟩ | ⟨-, old⟩
        · rcases cases second other also with ⟨rfl, -⟩ | ⟨-, older⟩
          · rfl
          · exact absurd same.symm (Nat.ne_of_lt (budgeted.made second other older))
        · rcases cases second other also with ⟨rfl, rfl⟩ | ⟨-, older⟩
          · exact absurd same (Nat.ne_of_lt (budgeted.made first kept old))
          · exact budgeted.distinct first second kept other old older same
    · rcases cases other kept inside with ⟨same, rfl⟩ | ⟨-, old⟩
      · exact Or.inr ⟨same, rfl, rfl⟩
      · exact Or.inl old

theorem record_spec (world : World) (frame : Frame) (r : ResourceResponse)
    (budgeted : page.Budgeted lib) (pathKept : ∀ url, lib.path (lib.withoutRef url) = lib.path url) :
    let recorded := { r with url := lib.withoutRef r.url }
    (page.record lib world frame r).Budgeted lib /\
      ∀ (key : String) (entry : Entry), (page.record lib world frame r).entries[key]? = some entry ->
        page.entries[key]? = some entry \/
          refused lib world frame r = false /\ key = entryKey lib frame recorded /\
            entry.response = recorded /\ entry.document = frame.document := by
  intro recorded
  unfold record
  cases allowed : refused lib world frame r with
  | true => exact ⟨budgeted, fun _ _ held => Or.inl held⟩
  | false =>
    cases classified : classifyResponse lib r with
    | none => exact ⟨budgeted, fun _ _ held => Or.inl held⟩
    | some kind =>
      have same : classifyResponse lib recorded = some kind := by
        rw [<- classified, classifyResponse, classifyResponse, pathKept]
      obtain ⟨pruned, prunedOld⟩ := prune_spec world none budgeted
      obtain ⟨retired, retiredOld, retiredKind⟩ :=
        retire_spec (entryKey lib frame recorded) kind pruned
      have old (key : String) (entry : Entry) (held : _) : page.entries[key]? = some entry :=
        prunedOld key entry (retiredOld key entry held)
      simp only [Bool.false_eq_true, if_false]
      split
      next found held =>
        obtain ⟨kept, origin⟩ := update_spec world frame recorded _ found retired held
          (retiredKind found held ▸ same)
        refine ⟨kept, fun key entry inside => (origin key entry inside).imp (old key entry) ?_⟩
        exact fun ⟨place, response, document⟩ => ⟨trivial, place, response, document⟩
      next held =>
        obtain ⟨kept, origin⟩ := insert_spec frame recorded _ kind retired held same
        refine ⟨kept, fun key entry inside => (origin key entry inside).imp (old key entry) ?_⟩
        exact fun ⟨place, response, document⟩ => ⟨trivial, place, response, document⟩

end PageResources

namespace Collector

/-- The event is a response of a frame's document, and the entry is what it tells of it. -/
def Records (lib : ResourceLibrary) (collector : Collector) (key : String) (entry : Entry) :
    CollectorEvent → Prop
  | .responded i head world => ∃ (observer : ResponseObserver) (frame : Frame) (status : Int)
      (disposition contentRange : Option String),
      collector.observers[i]? = some observer ∧ world.resolve observer.document = some frame ∧
        head.headers = some (status, disposition, contentRange) ∧
        frame.active = true ∧ frame.inPrimaryPage = true ∧
        entry.document = frame.document ∧ key = PageResources.entryKey lib frame entry.response ∧
        let r := responseOf lib observer.request head status disposition contentRange
        entry.response = { r with url := lib.withoutRef r.url }
  | _ => False

/-- The entry was recorded since the page last changed. -/
def RecordedSince (lib : ResourceLibrary) (events : List CollectorEvent) (key : String)
    (entry : Entry) : Prop :=
  ∃ (earlier later : List CollectorEvent) (event : CollectorEvent),
    events = earlier ++ event :: later ∧ Records lib (run lib earlier) key entry event ∧
      .primaryPageChanged ∉ later

structure Kept (lib : ResourceLibrary) (events : List CollectorEvent) (collector : Collector) :
    Prop where
  budgeted : collector.page.Budgeted lib
  recorded : ∀ (key : String) (entry : Entry), collector.page.entries[key]? = some entry →
    RecordedSince lib events key entry

variable {lib : ResourceLibrary}

theorem RecordedSince.extend {events : List CollectorEvent} {key : String} {entry : Entry}
    (recorded : RecordedSince lib events key entry) (event : CollectorEvent)
    (same : event ≠ .primaryPageChanged) : RecordedSince lib (events ++ [event]) key entry := by
  obtain ⟨earlier, later, source, rfl, records, unchanged⟩ := recorded
  refine ⟨earlier, later ++ [event], source, by simp, records, fun member => ?_⟩
  rcases List.mem_append.mp member with old | last
  · exact unchanged old
  · exact same (List.mem_singleton.mp last).symm

theorem Kept.drop {events : List CollectorEvent} {collector : Collector}
    (kept : Kept lib events collector) (event : CollectorEvent) (after : Collector)
    (budgeted : after.page.Budgeted lib) (same : event ≠ .primaryPageChanged)
    (old : ∀ (key : String) (entry : Entry), after.page.entries[key]? = some entry ->
      collector.page.entries[key]? = some entry) : Kept lib (events ++ [event]) after where
  budgeted := budgeted
  recorded := fun key entry held => (kept.recorded key entry (old key entry held)).extend event same

theorem onReceiveResponse_spec (observer : ResponseObserver) (head : ResponseHead) (world : World)
    (page : PageResources) (budgeted : page.Budgeted lib)
    (pathKept : ∀ url, lib.path (lib.withoutRef url) = lib.path url) (i : Nat)
    (collector : Collector) (own : collector.observers[i]? = some observer) :
    (onReceiveResponse lib observer head world page).Budgeted lib /\
      ∀ (key : String) (entry : Entry),
        (onReceiveResponse lib observer head world page).entries[key]? = some entry ->
        page.entries[key]? = some entry \/ Records lib collector key entry (.responded i head world) := by
  unfold onReceiveResponse
  split
  next frame status disposition contentRange resolved headers =>
    obtain ⟨kept, origin⟩ := PageResources.record_spec world frame
      (responseOf lib observer.request head status disposition contentRange) budgeted pathKept
    refine ⟨kept, fun key entry held => (origin key entry held).imp id ?_⟩
    rintro ⟨allowed, place, response, document⟩
    have live : frame.active = true /\ frame.inPrimaryPage = true := by
      simp only [PageResources.refused, Bool.or_eq_false_iff, Bool.not_eq_eq_eq_not, Bool.not_false] at allowed
      tauto
    exact ⟨observer, frame, status, disposition, contentRange, own, resolved, headers, live.1, live.2,
      document, response ▸ place, response⟩
  next => exact ⟨budgeted, fun _ _ held => Or.inl held⟩

theorem handle_kept (events : List CollectorEvent) (event : CollectorEvent)
    (pathKept : ∀ url, lib.path (lib.withoutRef url) = lib.path url)
    (kept : Kept lib events (run lib events)) :
    Kept lib (events ++ [event]) ((run lib events).handle lib event) := by
  have budgeted := kept.budgeted
  cases event with
  | start document request eligible =>
    simp only [handle]
    split
    · exact kept.drop _ _ budgeted (by simp) (fun _ _ held => held)
    · exact kept.drop _ _ budgeted (by simp) (fun _ _ held => held)
  | redirected observer info => exact kept.drop _ _ budgeted (by simp) (fun _ _ held => held)
  | responded i head world =>
    simp only [handle]
    cases own : (run lib events).observers[i]? with
    | none => exact kept.drop _ _ budgeted (by simp) (fun _ _ held => held)
    | some observer =>
      obtain ⟨after, origin⟩ := onReceiveResponse_spec observer head world _ budgeted pathKept i
        (run lib events) own
      refine ⟨after, fun key entry held => ?_⟩
      rcases origin key entry held with old | records
      · exact (kept.recorded key entry old).extend _ (by simp)
      · exact ⟨events, [], _, rfl, records, by simp⟩
  | completed observer => exact kept.drop _ _ budgeted (by simp) (fun _ _ held => held)
  | primaryPageChanged =>
    refine ⟨PageResources.clear_budgeted lib _, fun key entry held => ?_⟩
    simp [handle, PageResources.clear, PageResources.changed] at held
  | navigated committed sameDocument world =>
    simp only [handle]
    split
    · obtain ⟨after, old⟩ := PageResources.prune_spec world none budgeted
      exact kept.drop _ _ after (by simp) old
    · exact kept.drop _ _ budgeted (by simp) (fun _ _ held => held)
  | frameDeleted frame world =>
    obtain ⟨after, old⟩ := PageResources.prune_spec world (some frame) budgeted
    exact kept.drop _ _ after (by simp) old
  | clearResources navigation =>
    simp only [handle]
    split
    · refine kept.drop _ _ (PageResources.clear_budgeted lib _) (by simp) fun key entry held => ?_
      simp [PageResources.clear, PageResources.changed] at held
    · exact kept.drop _ _ budgeted (by simp) (fun _ _ held => held)
  | notified =>
    obtain ⟨metadata, images, metadataBound, imageBound, entryBound, kinds, made, distinct⟩ := budgeted
    exact kept.drop _ _ ⟨metadata, images, metadataBound, imageBound, entryBound, kinds, made, distinct⟩
      (by simp) (fun _ _ held => held)

theorem run_kept (events : List CollectorEvent)
    (pathKept : ∀ url, lib.path (lib.withoutRef url) = lib.path url) :
    Kept lib events (run lib events) := by
  induction events using List.reverseRecOn with
  | nil =>
    refine ⟨PageResources.empty_budgeted lib _ rfl rfl rfl, fun key entry held => ?_⟩
    simp [run] at held
  | append_singleton events event ih =>
    have moved : run lib (events ++ [event]) = (run lib events).handle lib event := by simp [run]
    rw [moved]
    exact handle_kept events event pathKept ih

theorem images_count (entries : ExtTreeMap String Entry) :
    total PageResources.imageOf entries =
      entries.toList.countP fun entry => entry.2.kind = .image := by
  rw [total]
  induction entries.toList with
  | nil => rfl
  | cons head rest ih =>
    rw [List.map_cons, List.sum_cons, ih, List.countP_cons, PageResources.imageOf,
      PageResources.isImage, Nat.add_comm]
    simp

/-- The counters are what the entries add up to, within the budget, and what is listed is live. -/
theorem resource_budget_kept (lib : ResourceLibrary)
    (pathKept : ∀ url, lib.path (lib.withoutRef url) = lib.path url)
    (events : List CollectorEvent) :
    let page := (run lib events).page
    page.metadataBytes = (page.entries.toList.map fun entry => entry.2.metadataBytes).sum ∧
      page.metadataBytes ≤ 512 * 1024 ∧
      page.images = (page.entries.toList.countP fun entry => entry.2.kind = .image) ∧
      page.images ≤ 32 ∧ page.entries.size ≤ 128 ∧
      (∀ (key : String) (entry : Entry), page.entries[key]? = some entry →
        PageResources.classifyResponse lib entry.response = some entry.kind) ∧
      (∀ (first second : String) (entry other : Entry), page.entries[first]? = some entry →
        page.entries[second]? = some other → entry.id = other.id → first = second) ∧
      ∀ (world : World) (key : String) (entry : Entry), (key, entry) ∈ page.list world →
        (world.frameOf entry.document).isSome ∧ RecordedSince lib events key entry := by
  have kept := run_kept events pathKept
  have budgeted := kept.budgeted
  refine ⟨budgeted.metadata, budgeted.metadataBound, ?_, budgeted.imageBound, budgeted.entryBound,
    budgeted.kinds, budgeted.distinct, fun world key entry listed => ?_⟩
  · exact budgeted.images.trans (images_count _)
  · obtain ⟨held, live⟩ := List.mem_filter.mp listed
    exact ⟨live, kept.recorded key entry (ExtTreeMap.mem_toList_iff_getElem?_eq_some.mp held)⟩

-- What the libraries say of one video of one site.
def videoLibrary : ResourceLibrary where
  parse := fun text => ⟨text⟩
  isValid := fun _ => true
  scheme := fun _ => "https"
  hasUsername := fun _ => false
  hasPassword := fun _ => false
  hasQuery := fun _ => false
  hasRef := fun _ => false
  host := fun _ => "a.test"
  hostNoBrackets := fun _ => "a.test"
  path := fun _ => "/v.mp4"
  clearQueryAndRef := fun url => url
  serializedOrigin := fun _ => "https://a.test"
  assignFromIPLiteral := fun _ => none
  isPubliclyRoutable := fun _ => false
  withoutRef := fun url => url
  extractFileName := fun _ => "v.mp4"
  sameOrigin := fun _ _ => true
  isValidHeaderValue := fun _ => true
  dispositionFileName := fun _ => ""
  utf16Prefix := fun text _ => text
  referrerPolicyMax := 8
  updateOnRedirect := fun request _ => request

def videoEvents : List CollectorEvent :=
  [.start ⟨1, 7⟩ ⟨⟨"https://a.test/v.mp4"⟩, "GET", {}, 0, 2, none⟩ true,
    .responded 0 ⟨"video/mp4", 1000, some (200, none, none)⟩
      ⟨fun _ => some 1, fun _ => some ⟨1, 5, true, true, "https://a.test"⟩, true⟩]

theorem resource_budget_kept_video :
    let page := (run videoLibrary videoEvents).page
    page.metadataBytes = (page.entries.toList.map fun entry => entry.2.metadataBytes).sum ∧
      page.metadataBytes ≤ 512 * 1024 :=
  have kept := resource_budget_kept videoLibrary (fun _ => rfl) videoEvents
  ⟨kept.1, kept.2.1⟩

end Collector

end ChromiumHmos.Resources
