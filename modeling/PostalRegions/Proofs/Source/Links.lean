import Mathlib.Data.List.Basic
import Mathlib.Data.List.Infix
import Mathlib.Data.List.TakeWhile
import PostalRegions.Source.Listing

/-!
# The links of a listing page

Where a link stands is told by the characters there: the opening, a value without a quote that ends
in the suffix of archives, and a quote.  The name of the attribute cannot end a value, since the
suffix does, so no link starts within another one, and the scan, which goes on behind each link that
it finds, finds all of them.  What is listed is a web address unless the value of a link starts like
one and is none.
-/

namespace PostalRegions

/-! ## Where links stand -/

variable {text value rest : List Char}

def webSchemes : List (List Char) :=
  ["http://".toList, "https://".toList]

def IsWebAddress (text : List Char) : Prop :=
  ∃ scheme ∈ webSchemes, scheme <+: text

instance (text : List Char) : Decidable (IsWebAddress text) :=
  inferInstanceAs (Decidable (∃ scheme ∈ webSchemes, scheme <+: text))

/-- Behind the scheme there is nothing but slashes. -/
def IsBareScheme (base : List Char) : Prop :=
  ∃ scheme ∈ webSchemes, ∃ slashes, base = scheme ++ slashes ∧ ∀ c ∈ slashes, c = '/'

theorem IsWebAddress.opens (haddress : IsWebAddress text) : "http".toList <+: text := by
  obtain ⟨scheme, hscheme, hprefix⟩ := haddress
  have hopens : ∀ scheme ∈ webSchemes, "http".toList <+: scheme := by decide
  exact (hopens scheme hscheme).trans hprefix

/-- With one slash only behind its letters a scheme is none. -/
theorem not_isWebAddress_of_oneSlash {letters name : List Char}
    (hletters : letters = "http:".toList ∨ letters = "https:".toList)
    (hname : name.head? ≠ some '/') : ¬ IsWebAddress (letters ++ '/' :: name) := by
  rintro ⟨scheme, hscheme, more, htext⟩
  have hslash : ∀ slashes : List Char, '/' :: slashes ≠ name := by
    rintro slashes rfl
    exact hname rfl
  have hschemes : scheme = "http://".toList ∨ scheme = "https://".toList := by
    simpa [webSchemes] using hscheme
  rcases hschemes with rfl | rfl <;> rcases hletters with rfl | rfl <;>
    simp [hslash] at htext

theorem joinAddress_of_isBareScheme {base : List Char} (hbare : IsBareScheme base)
    (name : List Char) :
    ∃ letters, (letters = "http:".toList ∨ letters = "https:".toList) ∧
      joinAddress base name = letters ++ '/' :: name.dropWhile (· == '/') := by
  obtain ⟨scheme, hscheme, slashes, rfl, hslashes⟩ := hbare
  have hnone : slashes.reverse.dropWhile (· == '/') = [] := by
    apply List.dropWhile_eq_nil_iff.mpr
    intro c hc
    simpa using hslashes c (List.mem_reverse.mp hc)
  have htrimmed : ∀ scheme ∈ webSchemes,
      (scheme.reverse.dropWhile (· == '/')).reverse = "http:".toList ∨
        (scheme.reverse.dropWhile (· == '/')).reverse = "https:".toList := by decide
  -- The slashes of the scheme are trimmed with the others at the end.
  refine ⟨_, htrimmed scheme hscheme, ?_⟩
  unfold joinAddress
  rw [List.reverse_append, List.dropWhile_append, if_pos (by simp [hnone])]

theorem joinAddress_of_not_slashes {scheme rest : List Char} (hrest : ∃ c ∈ rest, c ≠ '/')
    (name : List Char) : scheme <+: joinAddress (scheme ++ rest) name := by
  have hfound : (rest.reverse.dropWhile (· == '/')).isEmpty = false := by
    rw [Bool.eq_false_iff]
    intro hempty
    obtain ⟨c, hc, hother⟩ := hrest
    have hall := List.dropWhile_eq_nil_iff.mp (List.isEmpty_iff.mp hempty) c (by simpa using hc)
    exact hother (by simpa using hall)
  unfold joinAddress
  rw [List.reverse_append, List.dropWhile_append, if_neg (by simp [hfound]), List.reverse_append,
    List.reverse_reverse, List.append_assoc]
  exact List.prefix_append _ _

/-- A joined address is a web address exactly if its base is more than a scheme. -/
theorem isWebAddress_joinAddress_iff {base : List Char} (hbase : IsWebAddress base)
    (name : List Char) : IsWebAddress (joinAddress base name) ↔ ¬ IsBareScheme base := by
  constructor
  · intro haddress hbare
    obtain ⟨letters, hletters, hjoined⟩ := joinAddress_of_isBareScheme hbare name
    rw [hjoined] at haddress
    refine not_isWebAddress_of_oneSlash hletters ?_ haddress
    intro hslash
    have hfirst := List.head?_dropWhile_not (· == '/') name
    rw [hslash] at hfirst
    cases hfirst
  · intro hbare
    obtain ⟨scheme, hscheme, rest, rfl⟩ := hbase
    refine ⟨scheme, hscheme, joinAddress_of_not_slashes ?_ name⟩
    by_contra hslashes
    push Not at hslashes
    exact hbare ⟨scheme, hscheme, rest, rfl, hslashes⟩

/-! ## What is listed -/

theorem linkAddress_eq_of_opens (base : List Char) (hvalue : "http".toList <+: value) :
    linkAddress base value = value :=
  if_pos (List.isPrefixOf_iff_prefix.mpr hvalue)

theorem linkAddress_eq_of_not_opens (base : List Char) (hvalue : ¬ "http".toList <+: value) :
    linkAddress base value = joinAddress base value :=
  if_neg fun hopens => hvalue (List.isPrefixOf_iff_prefix.mp hopens)

theorem linkAddress_ne_joinAddress (base : List Char) (hvalue : "http".toList <+: value) :
    linkAddress base value ≠ joinAddress base value := by
  intro hsame
  obtain ⟨more, rfl⟩ := hvalue
  have hlength := congrArg List.length hsame
  have hkept : ("http".toList ++ more).dropWhile (· == '/') = "http".toList ++ more := rfl
  rw [linkAddress_eq_of_opens base (List.prefix_append _ _), joinAddress, hkept] at hlength
  simp only [List.length_append, List.length_cons] at hlength
  omega

/-- A link is taken for a web address by its first four letters.  So all links without a scheme are
joined to the base exactly if none of them opens with these letters, and then all listed addresses
are web addresses, unless the base is a scheme alone. -/
theorem archiveLinks_isWebAddress_iff (page base : String) (hbase : IsWebAddress base.toList) :
    (archiveLinks page base = (linkValues page.toList).map (fun value => String.ofList
        (if IsWebAddress value then value else joinAddress base.toList value)) ↔
      ∀ value ∈ linkValues page.toList, "http".toList <+: value → IsWebAddress value) ∧
    ((∀ address ∈ archiveLinks page base, IsWebAddress address.toList) ↔
      ∀ value ∈ linkValues page.toList,
        if "http".toList <+: value then IsWebAddress value else ¬ IsBareScheme base.toList) := by
  constructor
  · rw [archiveLinks, List.map_inj_left]
    apply forall₂_congr
    intro value _
    rw [String.ofList_inj]
    by_cases hopens : "http".toList <+: value
    · by_cases haddress : IsWebAddress value
      · rw [if_pos haddress, linkAddress_eq_of_opens base.toList hopens]
        exact iff_of_true rfl fun _ => haddress
      · rw [if_neg haddress]
        exact iff_of_false (linkAddress_ne_joinAddress base.toList hopens)
          fun hall => haddress (hall hopens)
    · have hnone : ¬ IsWebAddress value := fun haddress => hopens haddress.opens
      rw [if_neg hnone, linkAddress_eq_of_not_opens base.toList hopens]
      exact iff_of_true rfl fun hvalue => absurd hvalue hopens
  · rw [archiveLinks, List.forall_mem_map]
    apply forall₂_congr
    intro value _
    rw [String.toList_ofList]
    by_cases hopens : "http".toList <+: value
    · rw [if_pos hopens, linkAddress_eq_of_opens base.toList hopens]
    · rw [if_neg hopens, linkAddress_eq_of_not_opens base.toList hopens,
        isWebAddress_joinAddress_iff hbase]

/-- A link without a scheme that is listed as it stands. -/
theorem relativeLink_not_joined :
    IsWebAddress "https://host/t/".toList ∧
      archiveLinks "href=\"http_codes.zip\"" "https://host/t/" = ["http_codes.zip"] ∧
      archiveLinks "href=\"http_codes.zip\"" "https://host/t/" ≠
        (linkValues "href=\"http_codes.zip\"".toList).map (fun value => String.ofList
          (if IsWebAddress value then value else joinAddress "https://host/t/".toList value)) ∧
      ¬ ∀ address ∈ archiveLinks "href=\"http_codes.zip\"" "https://host/t/",
        IsWebAddress address.toList := by
  have hbase : IsWebAddress "https://host/t/".toList := by decide
  have hvalue : "http_codes.zip".toList ∈ linkValues "href=\"http_codes.zip\"".toList := by
    decide +kernel
  obtain ⟨hjoined, haddresses⟩ :=
    archiveLinks_isWebAddress_iff "href=\"http_codes.zip\"" "https://host/t/" hbase
  refine ⟨hbase, by decide +kernel, ?_, ?_⟩
  · intro hsame
    exact absurd (hjoined.mp hsame _ hvalue (by decide)) (by decide)
  · intro hall
    have haddress := haddresses.mp hall _ hvalue
    rw [if_pos (by decide)] at haddress
    exact absurd haddress (by decide)

end PostalRegions
