import PostalRegions.Region.Level

/-!
# Region codes

A code of the finest level: two capital letters for the country, then one to three capital
letters or digits.  The coarser codes are its truncations.
-/

namespace PostalRegions

/-- Whether a character may stand behind the two letters of a region code. -/
def RegionCode.isSuffixChar (c : Char) : Bool :=
  c.isUpper || c.isDigit

/-- Three to five bytes: two capital letters, then capital letters or digits. -/
def RegionCode.WellFormed (code : String) : Prop :=
  (3 ≤ code.utf8ByteSize ∧ code.utf8ByteSize ≤ 5) ∧
    (code.toList.take 2).all Char.isUpper = true ∧
    (code.toList.drop 2).all RegionCode.isSuffixChar = true

instance RegionCode.decidableWellFormed (code : String) :
    Decidable (RegionCode.WellFormed code) :=
  inferInstanceAs (Decidable (_ ∧ _))

structure RegionCode where
  code : String
  wellFormed : RegionCode.WellFormed code
deriving DecidableEq

inductive RegionError where
  | length
  | countryLetters
  | suffix
deriving DecidableEq, Repr

def RegionError.message : RegionError → String
  | .length => "invalid region code: must be 3 to 5 characters"
  | .countryLetters => "invalid region code: must start with 2 uppercase letters"
  | .suffix => "invalid region code: suffix must be uppercase letters or digits"

namespace RegionCode

def parse (text : String) : Except RegionError RegionCode :=
  if hsize : 3 ≤ text.utf8ByteSize ∧ text.utf8ByteSize ≤ 5 then
    if hletters : (text.toList.take 2).all Char.isUpper = true then
      if hsuffix : (text.toList.drop 2).all isSuffixChar = true then
        .ok ⟨text, hsize, hletters, hsuffix⟩
      else .error .suffix
    else .error .countryLetters
  else .error .length

def atLevel (region : RegionCode) (level : Level) : String :=
  level.truncate region.code

theorem parse_eq_ok_iff {text : String} {region : RegionCode} :
    parse text = .ok region ↔ region.code = text := by
  constructor
  · intro hparse
    unfold parse at hparse
    split at hparse
    · split at hparse
      · split at hparse
        · cases hparse
          rfl
        · cases hparse
      · cases hparse
    · cases hparse
  · rintro rfl
    obtain ⟨code, hsize, hletters, hsuffix⟩ := region
    simp [parse, hsize, hletters, hsuffix]

theorem isSuffixChar_of_mem {region : RegionCode} {c : Char} (hc : c ∈ region.code.toList) :
    isSuffixChar c = true := by
  obtain ⟨_, hletters, hsuffix⟩ := region.wellFormed
  rw [← List.take_append_drop 2 region.code.toList, List.mem_append] at hc
  rcases hc with hletter | hrest
  · simp [isSuffixChar, List.all_eq_true.mp hletters c hletter]
  · exact List.all_eq_true.mp hsuffix c hrest

theorem isAlphanum_of_mem {region : RegionCode} {c : Char} (hc : c ∈ region.code.toList) :
    c.isAlphanum = true := by
  have hdefinition : c.isAlphanum = ((c.isUpper || c.isLower) || c.isDigit) := rfl
  have hkind : c.isUpper = true ∨ c.isDigit = true := by
    simpa [isSuffixChar] using isSuffixChar_of_mem hc
  rw [hdefinition]
  rcases hkind with hupper | hdigit
  · simp [hupper]
  · simp [hdigit]

theorem code_ne_empty (region : RegionCode) : region.code ≠ "" := by
  intro hempty
  have hsize := region.wellFormed.1.1
  rw [hempty] at hsize
  exact absurd hsize (by decide)

end RegionCode

end PostalRegions
