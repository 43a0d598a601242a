import ChromiumHmos.Lib.TextPieces
import ChromiumHmos.UrlProtection.Url

set_option autoImplicit false

/-! # What a cloud check discloses of a URL -/

namespace ChromiumHmos.UrlProtection

open Lib

theorem hasSubstring_iff (text needle : String) :
    hasSubstring text needle = true ↔ needle.toList <:+: text.toList := by
  simp [hasSubstring, List.infix_iff_prefix_suffix, and_comm]

namespace UrlLibrary

/-- A piece of the path that holds an escape, a user mark, a token word or too many characters. -/
def sensitiveSegment (segment : List Char) : Bool :=
  segment.contains '%' || segment.contains '@' ||
    hasSubstring (String.ofList segment).toLower "token" ||
    hasSubstring (String.ofList segment).toLower "oauth" || segment.length > 48

theorem hasLongSegment_of_run (limit counted : Nat) (run rest : List Char)
    (free : '/' ∉ run) (long : limit < counted + run.length) (opened : run ≠ []) :
    hasLongSegment limit counted (run ++ rest) = true := by
  induction run generalizing counted with
  | nil => exact absurd rfl opened
  | cons head tail ih =>
    have kept : head ≠ '/' := fun same => free (by simp [same])
    simp only [List.cons_append, hasLongSegment, kept, if_false, Bool.or_eq_true, decide_eq_true_eq]
    by_cases now : counted + 1 > limit
    · exact Or.inl now
    · refine Or.inr (ih (counted + 1) (fun held => free (by simp [held])) ?_ ?_)
      · simp only [List.length_cons] at long
        omega
      · rintro rfl
        simp only [List.length_cons, List.length_nil] at long
        omega

theorem hasLongSegment_of_infix (limit counted : Nat) (run path : List Char) (free : '/' ∉ run)
    (long : limit < run.length) (inside : run <:+: path) :
    hasLongSegment limit counted path = true := by
  obtain ⟨before, after, rfl⟩ := inside
  induction before generalizing counted with
  | nil =>
    exact hasLongSegment_of_run limit counted run after free (by omega)
      (by rintro rfl; simp at long)
  | cons head tail ih =>
    simp only [List.cons_append, hasLongSegment, Bool.or_eq_true]
    exact Or.inr (ih _)

-- Lower-casing shifts the capital letters only, and none of them lands on the slash.
theorem toLower_slash (c : Char) (same : c.toLower = '/') : c = '/' := by
  unfold Char.toLower at same
  split at same
  next upper =>
    have shifted : c.val + ('a'.val - 'A'.val) = '/'.val := congrArg Char.val same
    have lowest := UInt32.le_iff_toNat_le.mp upper.1
    have highest := UInt32.le_iff_toNat_le.mp upper.2
    have total := congrArg UInt32.toNat shifted
    simp only [UInt32.toNat_add, show ('a'.val - 'A'.val).toNat = 32 from rfl,
      show 'A'.val.toNat = 65 from rfl, show 'Z'.val.toNat = 90 from rfl,
      show '/'.val.toNat = 47 from rfl] at lowest highest total
    omega
  next => exact same

theorem toList_toLower (text : String) : text.toLower.toList = text.toList.map Char.toLower :=
  String.toList_map

theorem cloudCheckUrl_of_sensitive (lib : UrlLibrary) (url : GURL) (segment : List Char)
    (member : segment ∈ (lib.path url).toList.splitOn '/')
    (sensitive : sensitiveSegment segment = true) : lib.cloudCheckUrl url = {} := by
  obtain ⟨inside, free⟩ := splitOn_piece '/' _ segment member
  have lowered : segment.map Char.toLower <:+: (lib.path url).toLower.toList := by
    rw [toList_toLower]
    exact inside.map Char.toLower
  have word (needle : String)
      (found : hasSubstring (String.ofList segment).toLower needle = true) :
      hasSubstring (lib.path url).toLower needle = true := by
    rw [hasSubstring_iff, toList_toLower, String.toList_ofList] at found
    exact (hasSubstring_iff _ _).mpr (found.trans lowered)
  have mark (c : Char) (plain : c.toLower = c) (held : c ∈ segment) :
      c ∈ (lib.path url).toLower.toList :=
    lowered.subset (List.mem_map.mpr ⟨c, held, plain⟩)
  unfold cloudCheckUrl
  split
  next => rfl
  next =>
    dsimp only
    simp only [sensitiveSegment, Bool.or_eq_true, decide_eq_true_eq, List.contains_iff_mem] at sensitive
    rcases sensitive with (((escaped | user) | token) | oauth) | long
    · rw [if_pos]
      simp [mark '%' (by decide) escaped]
    · rw [if_pos]
      simp [mark '@' (by decide) user]
    · rw [if_pos]
      simp [word "token" token]
    · rw [if_pos]
      simp [word "oauth" oauth]
    · have run : hasLongSegment 48 0 (lib.path url).toLower.toList = true := by
        refine hasLongSegment_of_infix 48 0 (segment.map Char.toLower) _ ?_ ?_ lowered
        · intro held
          obtain ⟨c, original, slash⟩ := List.mem_map.mp held
          exact free (toLower_slash c slash ▸ original)
        · simpa using long
      rw [if_pos run]
      split <;> rfl

/-- What `GURL::ReplaceComponents` promises when only the query and the fragment are cleared. -/
structure ClearsQueryAndRef (lib : UrlLibrary) : Prop where
  valid (url : GURL) : lib.isValid (lib.clearQueryAndRef url) = lib.isValid url
  scheme (url : GURL) : lib.isValid url = true →
    lib.scheme (lib.clearQueryAndRef url) = lib.scheme url
  username (url : GURL) : lib.isValid url = true →
    lib.hasUsername (lib.clearQueryAndRef url) = lib.hasUsername url
  password (url : GURL) : lib.isValid url = true →
    lib.hasPassword (lib.clearQueryAndRef url) = lib.hasPassword url
  host (url : GURL) : lib.isValid url = true →
    lib.hostNoBrackets (lib.clearQueryAndRef url) = lib.hostNoBrackets url
  origin (url : GURL) : lib.isValid url = true →
    lib.serializedOrigin (lib.clearQueryAndRef url) = lib.serializedOrigin url
  path (url : GURL) : lib.isValid url = true → lib.path (lib.clearQueryAndRef url) = lib.path url
  query (url : GURL) : lib.hasQuery (lib.clearQueryAndRef url) = false
  ref (url : GURL) : lib.hasRef (lib.clearQueryAndRef url) = false

variable (lib : UrlLibrary)

/-- The two URLs differ only in their query and fragment. -/
def SameButQueryAndRef (a b : GURL) : Prop := lib.clearQueryAndRef a = lib.clearQueryAndRef b

/-- The canonical spelling is longer than a public URL may be. -/
def Overlong (url : GURL) : Prop := (lib.spec url).utf8ByteSize > 4096

structure PublicHttpUrl (url : GURL) : Prop where
  valid : lib.isValid url = true
  http : lib.schemeIsHTTPOrHTTPS url = true
  username : lib.hasUsername url = false
  password : lib.hasPassword url = false
  short : ¬lib.Overlong url

variable (url : GURL)

theorem isPublicHttpUrl_gives (accepted : lib.isPublicHttpUrl url = true) :
    lib.PublicHttpUrl url := by
  unfold isPublicHttpUrl at accepted
  split at accepted
  next => exact absurd accepted (by simp)
  next plain =>
    simp only [Bool.or_eq_true, Bool.not_eq_true', decide_eq_true_eq, not_or,
      Bool.not_eq_false, Bool.not_eq_true] at plain
    obtain ⟨⟨⟨⟨valid, http⟩, username⟩, password⟩, short⟩ := plain
    exact ⟨valid, http, username, password, short⟩

theorem cloudCheckUrl_cases :
    lib.cloudCheckUrl url = {} \/
      (lib.PublicHttpUrl url /\ lib.cloudCheckUrl url = lib.clearQueryAndRef url) := by
  unfold cloudCheckUrl
  split
  next => exact Or.inl rfl
  next accepted =>
    dsimp only
    split
    next => exact Or.inl rfl
    next =>
      split
      next => exact Or.inl rfl
      next => exact Or.inr ⟨lib.isPublicHttpUrl_gives url (by simpa using accepted), rfl⟩

theorem cloudCheckUrl_of_private (refused : lib.isPublicHttpUrl url = false) :
    lib.cloudCheckUrl url = {} := by
  simp [cloudCheckUrl, refused]

theorem cloudCheckUrl_congr (laws : lib.ClearsQueryAndRef) (a b : GURL)
    (same : lib.SameButQueryAndRef a b) (sizes : lib.Overlong a ↔ lib.Overlong b) :
    lib.cloudCheckUrl a = lib.cloudCheckUrl b := by
  have valid : lib.isValid a = lib.isValid b := by
    rw [<- laws.valid a, <- laws.valid b, same]
  by_cases held : lib.isValid a = true
  · have heldOther : lib.isValid b = true := valid ▸ held
    have scheme : lib.scheme a = lib.scheme b := by
      rw [<- laws.scheme a held, <- laws.scheme b heldOther, same]
    have username : lib.hasUsername a = lib.hasUsername b := by
      rw [<- laws.username a held, <- laws.username b heldOther, same]
    have password : lib.hasPassword a = lib.hasPassword b := by
      rw [<- laws.password a held, <- laws.password b heldOther, same]
    have host : lib.hostNoBrackets a = lib.hostNoBrackets b := by
      rw [<- laws.host a held, <- laws.host b heldOther, same]
    have path : lib.path a = lib.path b := by
      rw [<- laws.path a held, <- laws.path b heldOther, same]
    have accepted : lib.isPublicHttpUrl a = lib.isPublicHttpUrl b := by
      have limit : decide ((lib.spec a).utf8ByteSize > 4096) =
          decide ((lib.spec b).utf8ByteSize > 4096) := decide_eq_decide.mpr sizes
      simp only [isPublicHttpUrl, schemeIsHTTPOrHTTPS, valid, scheme, username, password, host, limit]
      rfl
    have cleared : lib.clearQueryAndRef a = lib.clearQueryAndRef b := same
    simp only [cloudCheckUrl, accepted, path, cleared]
  · have refused (url : GURL) (invalid : ¬lib.isValid url = true) :
        lib.isPublicHttpUrl url = false := by
      cases accepted : lib.isPublicHttpUrl url with
      | false => rfl
      | true => exact absurd (lib.isPublicHttpUrl_gives url accepted).valid invalid
    rw [lib.cloudCheckUrl_of_private a (refused a held),
      lib.cloudCheckUrl_of_private b (refused b (valid ▸ held))]

/-- An http(s) URL with the origin and path of this one, without credentials, query or fragment. -/
structure Disclosed (url seen : GURL) : Prop where
  valid : lib.isValid seen = true
  http : lib.schemeIsHTTPOrHTTPS seen = true
  origin : lib.serializedOrigin seen = lib.serializedOrigin url
  path : lib.path seen = lib.path url
  username : lib.hasUsername seen = false
  password : lib.hasPassword seen = false
  query : lib.hasQuery seen = false
  ref : lib.hasRef seen = false

theorem disclosed_of_public (laws : lib.ClearsQueryAndRef) (url : GURL)
    (accepted : lib.PublicHttpUrl url) : lib.Disclosed url (lib.clearQueryAndRef url) where
  valid := (laws.valid url).trans accepted.valid
  http := by
    simp only [schemeIsHTTPOrHTTPS, laws.scheme url accepted.valid]
    exact accepted.http
  origin := laws.origin url accepted.valid
  path := laws.path url accepted.valid
  username := (laws.username url accepted.valid).trans accepted.username
  password := (laws.password url accepted.valid).trans accepted.password
  query := laws.query url
  ref := laws.ref url

/-- What must never be sent to the provider. -/
inductive StaysLocal (url : GURL) : Prop
  | notPublic : lib.isPublicHttpUrl url = false → StaysLocal url
  | scheme : lib.schemeIsHTTPOrHTTPS url = false → StaysLocal url
  | username : lib.hasUsername url = true → StaysLocal url
  | password : lib.hasPassword url = true → StaysLocal url
  | overlong : lib.Overlong url → StaysLocal url
  | segment (segment : List Char) : segment ∈ (lib.path url).toList.splitOn '/' →
      sensitiveSegment segment = true → StaysLocal url

theorem cloudCheckUrl_of_staysLocal (stays : lib.StaysLocal url) : lib.cloudCheckUrl url = {} := by
  rcases lib.cloudCheckUrl_cases url with empty | ⟨accepted, _⟩
  · exact empty
  · cases stays with
    | notPublic refused => exact lib.cloudCheckUrl_of_private url refused
    | scheme other => exact absurd (accepted.http.symm.trans other) (by simp)
    | username named => exact absurd (accepted.username.symm.trans named) (by simp)
    | password keyed => exact absurd (accepted.password.symm.trans keyed) (by simp)
    | overlong long => exact absurd long accepted.short
    | segment segment member sensitive =>
      exact cloudCheckUrl_of_sensitive lib url segment member sensitive

theorem cloud_check_discloses_origin_and_path (laws : lib.ClearsQueryAndRef) :
    (∀ url, lib.cloudCheckUrl url = {} ∨ lib.Disclosed url (lib.cloudCheckUrl url)) ∧
      (∀ a b, lib.SameButQueryAndRef a b → (lib.Overlong a ↔ lib.Overlong b) →
        lib.cloudCheckUrl a = lib.cloudCheckUrl b) ∧
      ∀ url, lib.StaysLocal url → lib.cloudCheckUrl url = {} := by
  refine ⟨fun url => ?_, lib.cloudCheckUrl_congr laws, lib.cloudCheckUrl_of_staysLocal⟩
  rcases lib.cloudCheckUrl_cases url with empty | ⟨accepted, cleared⟩
  · exact Or.inl empty
  · rw [cleared]
    exact Or.inr (lib.disclosed_of_public laws url accepted)

def newsPage : GURL := GURL.mk "https://example.com/news"

def newsSearch (letters : Nat) : GURL :=
  GURL.mk ("https://example.com/news?" ++ String.ofList (List.replicate letters 'q'))

-- Answers as the real library does for this one page and for every search on it.
def newsLibrary : UrlLibrary where
  parse := GURL.mk
  isValid := fun _ => true
  scheme := fun _ => "https"
  hasUsername := fun _ => false
  hasPassword := fun _ => false
  hasQuery := fun url => url ≠ newsPage
  hasRef := fun _ => false
  host := fun _ => "example.com"
  hostNoBrackets := fun _ => "example.com"
  path := fun _ => "/news"
  clearQueryAndRef := fun _ => newsPage
  serializedOrigin := fun _ => "https://example.com"
  assignFromIPLiteral := fun _ => none
  isPubliclyRoutable := fun _ => false

theorem newsLibrary_clears : newsLibrary.ClearsQueryAndRef := by
  constructor <;> simp [newsLibrary]

theorem newsSearch_size (letters : Nat) :
    (newsLibrary.spec (newsSearch letters)).utf8ByteSize = 25 + letters := by
  have size : (String.ofList (List.replicate letters 'q')).utf8ByteSize = letters := by
    induction letters with
    | zero => rfl
    | succ letters ih =>
      simp only [List.replicate_succ, String.ofList_cons, String.utf8ByteSize_append, ih,
        String.utf8ByteSize_singleton, show 'q'.utf8Size = 1 from rfl]
      omega
  have spelled : newsLibrary.spec (newsSearch letters) =
      "https://example.com/news?" ++ String.ofList (List.replicate letters 'q') := rfl
  rw [spelled, String.utf8ByteSize_append, size]
  rfl

theorem cloud_check_of_news : newsLibrary.cloudCheckUrl newsPage = newsPage := by decide +kernel

/-- A long query alone keeps a page from the provider. -/
theorem long_query_stays_local :
    ¬∀ lib : UrlLibrary, lib.ClearsQueryAndRef → ∀ a b, lib.SameButQueryAndRef a b →
      lib.cloudCheckUrl a = lib.cloudCheckUrl b := by
  intro always
  have same := always newsLibrary newsLibrary_clears newsPage (newsSearch 4096) rfl
  have long : newsLibrary.Overlong (newsSearch 4096) := by
    rw [Overlong, newsSearch_size]
    omega
  rw [cloud_check_of_news,
    newsLibrary.cloudCheckUrl_of_staysLocal (newsSearch 4096) (.overlong long)] at same
  exact absurd same (by decide)

theorem cloud_check_discloses_news :
    newsLibrary.Disclosed newsPage (newsLibrary.cloudCheckUrl newsPage) ∧
      newsLibrary.cloudCheckUrl (newsSearch 12) = newsLibrary.cloudCheckUrl newsPage := by
  obtain ⟨disclosed, alike, _⟩ := cloud_check_discloses_origin_and_path newsLibrary newsLibrary_clears
  have plain : ¬newsLibrary.Overlong newsPage := by
    rw [Overlong]
    decide
  have search : ¬newsLibrary.Overlong (newsSearch 12) := by
    rw [Overlong, newsSearch_size]
    omega
  refine ⟨(disclosed newsPage).resolve_left ?_, alike (newsSearch 12) newsPage rfl ?_⟩
  · rw [cloud_check_of_news]
    decide
  · simp [plain, search]

end UrlLibrary

end ChromiumHmos.UrlProtection
