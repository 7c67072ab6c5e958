import PostalRegions.Entry.Filing
import PostalRegions.Proofs.Text.Blanks

/-!
# Blanks around what is written

Blanks around a country or a postal code do not matter: no blank goes into a key, and both texts
are trimmed before anything else is looked at.
-/

namespace PostalRegions

/-! ## Countries -/

theorem Country.trim_code (country : Country) : Text.trim country.code = country.code := by
  apply String.toList_injective
  rw [Text.toList_trim]
  apply Text.trimChars_of_isAlphanum
  intro c hc
  exact Text.isAlphanum_of_isUpper (List.all_eq_true.mp country.wellFormed.2 c hc)

theorem Country.parseLoose_code (country : Country) : parseLoose country.code = .ok country := by
  have hupper : country.code.map Char.toUpper = country.code := by
    have hletters := List.all_eq_true.mp country.wellFormed.2
    have hmap : country.code.toList.map Char.toUpper = country.code.toList.map id :=
      List.map_congr_left fun c hc => Text.toUpper_of_isUpper (hletters c hc)
    apply String.toList_injective
    rw [String.toList_map, hmap, List.map_id]
  unfold Country.parseLoose
  rw [Country.trim_code, hupper]
  exact Country.parse_eq_ok_iff.mpr rfl

/-! ## Keys -/

theorem canonicalChars_trimChars (raw : List Char) :
    canonicalChars (Text.trimChars raw) = canonicalChars raw := by
  have hnone {chars : List Char} (hchars : ∀ c ∈ chars, Text.isBlank c = true) :
      chars.filter Char.isAlphanum = [] := by
    rw [List.filter_eq_nil_iff]
    intro c hc
    simp [Text.isAlphanum_eq_false_of_isBlank (hchars c hc)]
  obtain ⟨before, after, hraw, hbefore, hafter⟩ := Text.exists_trimChars raw
  have hkept : raw.filter Char.isAlphanum = (Text.trimChars raw).filter Char.isAlphanum :=
    calc
      raw.filter Char.isAlphanum =
          (before ++ Text.trimChars raw ++ after).filter Char.isAlphanum :=
        congrArg (List.filter Char.isAlphanum) hraw
      _ = (Text.trimChars raw).filter Char.isAlphanum := by
        rw [List.filter_append, List.filter_append, hnone hbefore, hnone hafter, List.nil_append,
          List.append_nil]
  unfold canonicalChars
  rw [hkept]

@[simp] theorem postalKey_trim (country : Country) (raw : String) :
    postalKey country (Text.trim raw) = postalKey country raw := by
  have hextract (format : PostalFormat) :
      format.extract (Text.trimChars raw.toList) = format.extract raw.toList := by
    unfold PostalFormat.extract PostalFormat.input
    rw [Text.trimChars_trimChars]
  unfold postalKey postalKeyChars
  rw [Text.toList_trim, canonicalChars_trimChars]
  simp only [hextract]

@[simp] theorem Country.parseLoose_trim (text : String) :
    Country.parseLoose (Text.trim text) = Country.parseLoose text := by
  unfold Country.parseLoose
  rw [Text.trim_trim]

/-- Blanks around a query do not change the key that it asks for. -/
theorem EntryKey.ofQuery?_trim (country postalCode : String) :
    ofQuery? (Text.trim country) (Text.trim postalCode) = ofQuery? country postalCode := by
  unfold ofQuery? ofPostalCode
  simp only [Country.parseLoose_trim, postalKey_trim]

end PostalRegions
