import PostalRegions.Confidence.Rational
import PostalRegions.Lookup.Tables
import PostalRegions.Proofs.Postal.Spelling
import PostalRegions.Proofs.Text.Capitals

/-!
# Spellings of a query

A query may be written with blanks around it and in small or capital letters, and Greece goes by two
codes.  None of this changes the answer.  A postal code reaches its key on one of two ways, in full
capitals through the format of its country or by its ASCII letters and digits alone, and neither way
tells the spellings apart.
-/

namespace PostalRegions

/-- Two texts that differ at most in the blanks around them and in the case of ASCII letters. -/
def SpelledAlike (one other : String) : Prop :=
  (Text.trim one).map Char.toUpper = (Text.trim other).map Char.toUpper

theorem spelledAlike_iff {one other : String} :
    SpelledAlike one other ↔
      (Text.trimChars one.toList).map Char.toUpper =
        (Text.trimChars other.toList).map Char.toUpper := by
  rw [SpelledAlike, ← String.toList_inj, String.toList_map, String.toList_map, Text.toList_trim,
    Text.toList_trim]

/-! ## Keys -/

theorem canonicalChars_map_toUpper (text : List Char) :
    canonicalChars (text.map Char.toUpper) = canonicalChars text := by
  have hkept : Char.isAlphanum ∘ Char.toUpper = Char.isAlphanum :=
    funext Text.isAlphanum_toUpper
  have htwice : Char.toUpper ∘ Char.toUpper = Char.toUpper := funext Text.toUpper_toUpper
  unfold canonicalChars
  rw [List.filter_map, List.map_map, hkept, htwice]

theorem postalKey_congr (country : Country) {one other : String}
    (hspelled : SpelledAlike one other) : postalKey country one = postalKey country other := by
  have hfolded := spelledAlike_iff.mp hspelled
  have hinput : PostalFormat.input one.toList = PostalFormat.input other.toList := by
    unfold PostalFormat.input
    rw [← Text.upperChars_map_toUpper, hfolded, Text.upperChars_map_toUpper]
  have hcanonical : canonicalChars one.toList = canonicalChars other.toList := by
    rw [← canonicalChars_trimChars, ← canonicalChars_map_toUpper, hfolded,
      canonicalChars_map_toUpper, canonicalChars_trimChars]
  unfold postalKey postalKeyChars PostalFormat.extract
  rw [hinput, hcanonical]

/-! ## Countries -/

namespace Country

/-- The code that a country text stands for: trimmed, in capitals, and `EL` for `GR`. -/
def spelling (text : String) : String :=
  let folded := (Text.trim text).map Char.toUpper
  if folded = "GR" then "EL" else folded

/-- The country that a text leads to is the one whose code it stands for. -/
theorem provider_parseLoose (text : String) :
    (parseLoose text).toOption.map provider = (parse (spelling text)).toOption := by
  unfold parseLoose spelling
  by_cases hgreece : (Text.trim text).map Char.toUpper = "GR"
  · simp only [hgreece]
    rfl
  · simp only [if_neg hgreece]
    cases hparse : parse ((Text.trim text).map Char.toUpper) with
    | error cause => rfl
    | ok country =>
        have hcode : country.code ≠ "GR" := by
          rw [parse_eq_ok_iff.mp hparse]
          exact hgreece
        have hsame : country.provider = country := if_neg hcode
        change some country.provider = some country
        rw [hsame]

end Country

/-! ## Queries -/

theorem EntryKey.ofQuery?_eq (country postalCode : String) :
    ofQuery? country postalCode =
      (Country.parse (Country.spelling country)).toOption.map (ofPostalCode · postalCode) := by
  rw [← Country.provider_parseLoose, Option.map_map]
  rfl

/-- However a query is spelled, the answer is the same. -/
theorem LookupTables.lookup_of_spelledAlike {κ : Type} [Confidence κ] (tables : LookupTables κ)
    {country otherCountry postalCode otherPostalCode : String}
    (hcountry : Country.spelling country = Country.spelling otherCountry)
    (hpostalCode : SpelledAlike postalCode otherPostalCode) :
    tables.lookup country postalCode = tables.lookup otherCountry otherPostalCode := by
  unfold lookup
  have hkey : EntryKey.ofQuery? country postalCode =
      EntryKey.ofQuery? otherCountry otherPostalCode := by
    rw [EntryKey.ofQuery?_eq, EntryKey.ofQuery?_eq, hcountry]
    unfold EntryKey.ofPostalCode
    simp only [postalKey_congr _ hpostalCode]
  rw [hkey]

/-- One code of Athens. -/
def athensTable : ExactTable :=
  (∅ : ExactTable).insert ⟨Country.greece, "17675"⟩ ⟨"EL304", by decide⟩

theorem athensTable_answers_alike :
    let tables := LookupTables.ofTables athensTable (∅ : EstimateTable Rat) .standard
    Country.spelling " gr" = Country.spelling "El\t" ∧
      SpelledAlike "gr-176 75\u00a0" "\u3000GR-176 75" ∧
      tables.lookup " gr" "gr-176 75\u00a0" = tables.lookup "El\t" "\u3000GR-176 75" ∧
      (tables.lookup " gr" "gr-176 75\u00a0").map (·.level3) = some "EL304" := by
  intro tables
  have hcountry : Country.spelling " gr" = Country.spelling "El\t" := by decide +kernel
  have hpostalCode : SpelledAlike "gr-176 75\u00a0" "\u3000GR-176 75" :=
    spelledAlike_iff.mpr (by decide +kernel)
  refine ⟨hcountry, hpostalCode, tables.lookup_of_spelledAlike hcountry hpostalCode, ?_⟩
  decide +kernel

end PostalRegions
