import PostalRegions.Text.Blank
import Std.Data.ExtTreeSet

/-!
# Country codes

A country is named by two capital letters.  User input is read loosely, and one code of the
international standard is replaced by the code under which the data provider files the same
territory.
-/

namespace PostalRegions

def Country.WellFormed (code : String) : Prop :=
  code.utf8ByteSize = 2 ∧ code.toList.all Char.isUpper = true

instance Country.decidableWellFormed (code : String) : Decidable (Country.WellFormed code) :=
  inferInstanceAs (Decidable (_ ∧ _))

structure Country where
  code : String
  wellFormed : Country.WellFormed code
deriving DecidableEq

inductive CountryError where
  | length
  | letters
deriving DecidableEq, Repr

def CountryError.message : CountryError → String
  | .length => "invalid country code: must be exactly 2 characters"
  | .letters => "invalid country code: must be uppercase ASCII letters A-Z"

namespace Country

instance : Ord Country := ⟨compareOn code⟩

instance : Std.TransOrd Country := inferInstanceAs (Std.TransCmp (compareOn code))

instance : Std.LawfulEqOrd Country where
  eq_of_compare {first second} hcompare := by
    have hcode : first.code = second.code := Std.LawfulEqOrd.eq_of_compare hcompare
    cases first
    cases second
    simp_all

def parse (text : String) : Except CountryError Country :=
  if hsize : text.utf8ByteSize = 2 then
    if hletters : text.toList.all Char.isUpper = true then .ok ⟨text, hsize, hletters⟩
    else .error .letters
  else .error .length

/-- Reads a country code in any letter case and with blanks around it. -/
def parseLoose (text : String) : Except CountryError Country :=
  parse ((Text.trim text).map Char.toUpper)

/-- Greece, as the data provider files it. -/
def greece : Country := ⟨"EL", by decide⟩

/-- The country under which the data provider files the territory: `GR` is filed as `EL`. -/
def provider (country : Country) : Country :=
  if country.code = "GR" then greece else country

theorem parse_eq_ok_iff {text : String} {country : Country} :
    parse text = .ok country ↔ country.code = text := by
  constructor
  · intro hparse
    unfold parse at hparse
    split at hparse
    · split at hparse
      · cases hparse
        rfl
      · cases hparse
    · cases hparse
  · rintro rfl
    obtain ⟨code, hsize, hletters⟩ := country
    simp [parse, hsize, hletters]

theorem code_ne_empty (country : Country) : country.code ≠ "" := by
  intro hempty
  have hsize := country.wellFormed.1
  rw [hempty] at hsize
  exact absurd hsize (by decide)

end Country

abbrev CountrySet := Std.ExtTreeSet Country

end PostalRegions
