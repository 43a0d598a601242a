import ChromiumHmos.Shell.SiteUserAgent

set_option autoImplicit false

/-!
# The tokens of a user agent

Which of the tokens `ArkWeb/` and `OpenHarmony/` are in a string after a site's policy.
-/

namespace ChromiumHmos.Shell.SiteUserAgent

open Lib UrlProtection

section Infixes

variable {A : Type} {pattern front back : List A} {letter : A}

theorem prefix_before (apart : letter ∉ pattern) (begins : pattern <+: front ++ letter :: back) :
    pattern <+: front := by
  rcases List.prefix_or_prefix_of_prefix begins (List.prefix_append _ _) with short | long
  · exact short
  · obtain ⟨rest, rfl⟩ := long
    obtain ⟨tail, whole⟩ := begins
    rw [List.append_assoc, List.append_cancel_left_eq] at whole
    cases rest with
    | nil => rw [List.append_nil]
    | cons first more =>
      obtain ⟨rfl, _⟩ := List.cons.inj whole
      exact absurd (List.mem_append_right _ List.mem_cons_self) apart

theorem infix_across (apart : letter ∉ pattern) (stands : pattern <:+: front ++ letter :: back) :
    pattern <:+: front \/ pattern <:+: back := by
  induction front with
  | nil =>
    rcases List.infix_cons_iff.mp stands with begins | later
    · have empty : pattern <+: [] := @prefix_before _ pattern [] back letter apart begins
      exact Or.inl empty.isInfix
    · exact Or.inr later
  | cons first rest ih =>
    rcases List.infix_cons_iff.mp stands with begins | later
    · exact Or.inl (@prefix_before _ pattern (first :: rest) back letter apart begins).isInfix
    · exact (ih later).imp_left fun inside => inside.trans (List.suffix_cons _ _).isInfix

theorem infix_after (head : pattern.head? = some letter) (apart : letter ∉ front)
    (stands : pattern <:+: front ++ back) : pattern <:+: back := by
  induction front with
  | nil => exact stands
  | cons first rest ih =>
    rcases List.infix_cons_iff.mp stands with begins | later
    · cases pattern with
      | nil => cases head
      | cons own more =>
        obtain ⟨tail, whole⟩ := begins
        have same : own = letter := Option.some.inj head
        have here : own = first := (List.cons.inj whole).1
        exact absurd (List.mem_cons.mpr (Or.inl (same.symm.trans here))) apart
    · exact ih (fun inside => apart (List.mem_cons_of_mem _ inside)) later

end Infixes

theorem indexOf_isSome_iff {pattern text : List Char} (nonempty : pattern ≠ []) :
    (indexOf pattern text 0).isSome = true ↔ pattern <:+: text := by
  have spec := findFrom_spec pattern text nonempty _ 0 rfl
  rw [indexOf]
  cases found : findFrom pattern (text.drop 0) 0 with
  | some place =>
    rw [found] at spec
    have inside : pattern <:+: text := spec.2.1.isInfix.trans (List.drop_suffix _ _).isInfix
    simp [inside]
  | none =>
    rw [found] at spec
    refine ⟨fun some => (Bool.false_ne_true some).elim, ?_⟩
    rintro ⟨before, after, rfl⟩
    refine absurd ?_ (spec before.length (Nat.zero_le _))
    rw [StandsAt, List.append_assoc, List.drop_left]
    exact List.prefix_append _ _

theorem contains_iff {text pattern : String} (nonempty : pattern.toList ≠ []) :
    contains text pattern = true ↔ pattern.toList <:+: text.toList :=
  indexOf_isSome_iff nonempty

theorem not_contains_iff {text pattern : String} (nonempty : pattern.toList ≠ []) :
    contains text pattern = false ↔ ¬ pattern.toList <:+: text.toList := by
  rw [<- contains_iff nonempty, Bool.not_eq_true]

theorem withoutTokens_plain (userAgent : List Char) : ¬ token.toList <:+: withoutTokens userAgent := by
  fun_induction withoutTokens userAgent with
  | case1 userAgent none =>
    rw [<- indexOf_isSome_iff (by decide), none]
    simp
  | case2 userAgent start found ih => exact ih

theorem googleUserAgent_toList (userAgent : String) :
    (googleUserAgent userAgent).toList = withoutTokens userAgent.toList := String.toList_ofList

theorem googleUserAgent_plain (userAgent : String) :
    contains (googleUserAgent userAgent) token = false := by
  rw [not_contains_iff (by decide), googleUserAgent_toList]
  exact withoutTokens_plain _

-- Erasing joins nothing: what follows begins with a space.
theorem eraseToken_infix {pattern userAgent : List Char} {start : Nat} (noSpace : ' ' ∉ pattern)
    (stands : pattern <:+: eraseToken userAgent start) : pattern <:+: userAgent := by
  unfold eraseToken at stands
  split at stands
  · exact stands.trans (List.take_prefix _ _).isInfix
  · rename_i rest space
    obtain ⟨_, begins, _⟩ := indexOf_some [' '] userAgent (by decide) _ _ space
    obtain ⟨tail, after⟩ := begins
    rw [<- after] at stands
    rcases infix_across noSpace stands with before | later
    · exact before.trans (List.take_prefix _ _).isInfix
    · have inside : tail <:+: userAgent.drop rest := by
        rw [<- after]
        exact (List.suffix_append _ _).isInfix
      exact later.trans (inside.trans (List.drop_suffix _ _).isInfix)

theorem withoutTokens_infix {pattern userAgent : List Char} (noSpace : ' ' ∉ pattern)
    (stands : pattern <:+: withoutTokens userAgent) : pattern <:+: userAgent := by
  fun_induction withoutTokens userAgent with
  | case1 userAgent none => exact stands
  | case2 userAgent start found ih => exact eraseToken_infix noSpace (ih stands)

theorem googleUserAgent_arkWeb {userAgent : String}
    (has : contains (googleUserAgent userAgent) "ArkWeb/" = true) :
    contains userAgent "ArkWeb/" = true := by
  rw [contains_iff (by decide)] at has ⊢
  rw [googleUserAgent_toList] at has
  exact withoutTokens_infix (by decide) has

section Build

variable (device : Device)

theorem part_plain {part : String} (own : part ∈ [device.product, device.majorMinor, device.cpu]) :
    ¬ "ArkWeb/".toList <:+: part.toList :=
  (not_contains_iff (by decide)).mp (device.plain part own)

def openHarmonyToken : String :=
  if device.majorMinor = "" then "" else " OpenHarmony/" ++ device.majorMinor

theorem openHarmonyToken_plain : ¬ "ArkWeb/".toList <:+: (openHarmonyToken device).toList := by
  intro stands
  unfold openHarmonyToken at stands
  split at stands
  · exact absurd stands (by decide)
  · rw [String.toList_append] at stands
    have after : "ArkWeb/".toList <:+: device.majorMinor.toList :=
      @infix_after _ _ _ _ 'A' (by decide) (by decide) stands
    exact part_plain device (by simp) after

-- The product and what follows it.
theorem product_plain {rest : List Char} (noHead : 'A' ∉ rest) :
    ¬ "ArkWeb/".toList <:+:
      device.product.toList ++ ' ' :: (rest ++ (openHarmonyToken device).toList) := by
  intro stands
  rcases @infix_across _ _ _ _ ' ' (by decide) stands with before | later
  · exact part_plain device (by simp) before
  · have after : "ArkWeb/".toList <:+: (openHarmonyToken device).toList :=
      @infix_after _ _ _ _ 'A' (by decide) noHead later
    exact openHarmonyToken_plain device after

theorem platform_plain {rest : List Char} (noHead : 'A' ∉ rest) :
    ¬ "ArkWeb/".toList <:+: " AppleWebKit/537.36 (KHTML, like Gecko".toList ++ ')' ::
      (' ' :: (device.product.toList ++ ' ' :: (rest ++ (openHarmonyToken device).toList))) := by
  intro stands
  rcases @infix_across _ _ _ _ ')' (by decide) stands with before | later
  · rw [String.toList_ofList, String.toList_ofList] at before
    exact absurd before (by decide)
  · have after := @infix_after _ _ [' '] _ 'A' (by decide) (by decide) later
    exact product_plain device noHead after

theorem buildOhosUserAgent_plain (mobile : Bool) :
    contains (buildOhosUserAgent device mobile) "ArkWeb/" = false := by
  rw [not_contains_iff (by decide)]
  intro stands
  have middle : ") AppleWebKit/537.36 (KHTML, like Gecko) ".toList =
      ')' :: (" AppleWebKit/537.36 (KHTML, like Gecko".toList ++ [')', ' ']) := by
    rw [String.toList_ofList, String.toList_ofList]
    rfl
  cases mobile with
  | false =>
    have last : " Safari/537.36".toList = ' ' :: "Safari/537.36".toList := by
      rw [String.toList_ofList, String.toList_ofList]
    rw [buildOhosUserAgent, if_pos Bool.not_false] at stands
    simp only [String.toList_append, middle, last, List.append_assoc, List.cons_append, List.nil_append] at stands
    have after := @infix_after _ _ _ _ 'A' (by decide) (by rw [String.toList_ofList]; decide) stands
    rcases @infix_across _ _ _ _ ')' (by decide) after with before | later
    · exact part_plain device (by simp) before
    · exact platform_plain device (by rw [String.toList_ofList]; decide) later
  | true =>
    have first : "Mozilla/5.0 (Linux; Android 10; K) AppleWebKit/537.36 (KHTML, like Gecko) ".toList =
        "Mozilla/5.0 (Linux; Android 10; K".toList ++ ") AppleWebKit/537.36 (KHTML, like Gecko) ".toList := by
      rw [String.toList_ofList, String.toList_ofList, String.toList_ofList]
      rfl
    have last : " Mobile Safari/537.36".toList = ' ' :: "Mobile Safari/537.36".toList := by
      rw [String.toList_ofList, String.toList_ofList]
    rw [buildOhosUserAgent, if_neg (by decide)] at stands
    simp only [String.toList_append, first, middle, last, List.append_assoc, List.cons_append, List.nil_append] at stands
    rcases @infix_across _ _ _ _ ')' (by decide) stands with before | later
    · rw [String.toList_ofList, String.toList_ofList] at before
      exact absurd before (by decide)
    · exact platform_plain device (by rw [String.toList_ofList]; decide) later

theorem getUserAgentForOhos_arkWeb {mobile : Bool}
    (has : contains (getUserAgentForOhos device mobile) "ArkWeb/" = true) :
    ∃ custom, device.userAgentFromCommandLine = some custom /\
      contains custom "ArkWeb/" = true := by
  unfold getUserAgentForOhos at has
  cases custom : device.userAgentFromCommandLine with
  | none =>
    rw [custom, Option.getD_none, buildOhosUserAgent_plain] at has
    cases has
  | some userAgent =>
    rw [custom, Option.getD_some] at has
    exact ⟨userAgent, rfl, has⟩

theorem getOhosStoreUserAgent_arkWeb
    (has : contains (getOhosStoreUserAgent device) "ArkWeb/" = true) :
    contains (getUserAgentForOhos device false) "ArkWeb/" = true := by
  rw [contains_iff (by decide)] at has ⊢
  simp only [getOhosStoreUserAgent] at has
  split at has
  · exact has
  · rename_i platformEnd _
    split at has
    · exact has
    · have whole : "ArkWeb/".toList <:+:
          (getUserAgentForOhos device false).toList.take platformEnd ++ ';' ::
            (" X11".toList ++ (getUserAgentForOhos device false).toList.drop platformEnd) := by
        simpa using has
      rcases @infix_across _ _ _ _ ';' (by decide) whole with before | later
      · exact before.trans (List.take_prefix _ _).isInfix
      · have after := @infix_after _ _ _ _ 'A' (by decide) (by decide) later
        exact after.trans (List.drop_suffix _ _).isInfix

theorem storeUserAgent_arkWeb
    (has : contains (storeUserAgent device).uaStringOverride "ArkWeb/" = true) :
    contains (getUserAgentForOhos device false) "ArkWeb/" = true :=
  getOhosStoreUserAgent_arkWeb device (googleUserAgent_arkWeb has)

theorem compatibleUserAgent_google_arkWeb {mobile : Bool} {override : UserAgentOverride}
    (has : contains (compatibleUserAgent device mobile .google override).uaStringOverride
      "ArkWeb/" = true) :
    contains override.uaStringOverride "ArkWeb/" = true ∨
      contains (getUserAgentForOhos device mobile) "ArkWeb/" = true := by
  simp only [compatibleUserAgent, if_true] at has
  have own := googleUserAgent_arkWeb has
  split at own
  · exact Or.inr own
  · exact Or.inl own

theorem compatibleUserAgent_google_plain (mobile : Bool) (override : UserAgentOverride) :
    contains (compatibleUserAgent device mobile .google override).uaStringOverride token = false :=
  googleUserAgent_plain _

end Build

end ChromiumHmos.Shell.SiteUserAgent
