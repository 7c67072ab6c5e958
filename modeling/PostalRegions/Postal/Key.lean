import PostalRegions.Text.Upper
import PostalRegions.Postal.Pattern

/-!
# Keys of postal codes

A postal code is brought into a form over the capital letters and digits of ASCII, so that every
spelling of a code has the same key.  Some countries file their codes under a changed form.
-/

namespace PostalRegions

/-- The ASCII letters and digits of a text, the letters as capitals. -/
def canonicalChars (text : List Char) : List Char :=
  (text.filter Char.isAlphanum).map Char.toUpper

/-- The ASCII letters and digits of a text, the letters as capitals. -/
def canonical (text : String) : String :=
  String.ofList (canonicalChars text.toList)

inductive KeyTransform where
  | truncate (count : Nat)
  | prepend (lead : String)
  | leadingLetters
deriving DecidableEq, Repr

def KeyTransform.apply : KeyTransform → List Char → List Char
  | .truncate count, code => code.take count
  | .prepend lead, code => lead.toList ++ code
  | .leadingLetters, code =>
    let letters := code.takeWhile Char.isAlpha
    if letters.isEmpty then code else letters

structure PostalFormat where
  pattern : PostalPattern
  sample : String
  /-- How codes are filed, if not as they are. -/
  transform : Option KeyTransform := none
deriving Repr

namespace PostalFormat

/-- The characters in which a format looks for a code: trimmed and in capitals. -/
def input (raw : List Char) : List Char :=
  Text.upperChars (Text.trimChars raw)

def filed (format : PostalFormat) (kept : List Char) : List Char :=
  match format.transform with
  | none => canonicalChars kept
  | some transform => transform.apply (canonicalChars kept)

def extract (format : PostalFormat) (raw : List Char) : Option (List Char) :=
  (format.pattern.keptChars (input raw)).map format.filed

end PostalFormat

/-! ## Canonical characters -/

def isKeyChar (c : Char) : Bool :=
  c.isUpper || c.isDigit

theorem isKeyChar_toUpper {c : Char} (h : c.isAlphanum = true) : isKeyChar c.toUpper = true := by
  have hcases : c.isUpper = true ∨ c.isLower = true ∨ c.isDigit = true := by
    have hany : ((c.isUpper || c.isLower) || c.isDigit) = true := h
    simp only [Bool.or_eq_true] at hany
    rcases hany with (hupper | hlower) | hdigit
    · exact Or.inl hupper
    · exact Or.inr (Or.inl hlower)
    · exact Or.inr (Or.inr hdigit)
  have hbound : c.toNat < 128 := by
    rcases hcases with hupper | hlower | hdigit
    · have hrange : decide (c.val ≥ 'A'.val ∧ c.val ≤ 'Z'.val) = true := hupper
      simp only [decide_eq_true_eq, ge_iff_le, UInt32.le_iff_toNat_le] at hrange
      exact Nat.lt_of_le_of_lt hrange.2 (by decide)
    · have hrange : (decide (c.val ≥ 'a'.val) && decide (c.val ≤ 'z'.val)) = true := hlower
      simp only [Bool.and_eq_true, decide_eq_true_eq, ge_iff_le, UInt32.le_iff_toNat_le] at hrange
      exact Nat.lt_of_le_of_lt hrange.2 (by decide)
    · have hrange : (decide (c.val ≥ '0'.val) && decide (c.val ≤ '9'.val)) = true := hdigit
      simp only [Bool.and_eq_true, decide_eq_true_eq, ge_iff_le, UInt32.le_iff_toNat_le] at hrange
      exact Nat.lt_of_le_of_lt hrange.2 (by decide)
  have htable : ∀ code : Fin 128, (Char.ofNat code).isAlphanum = true →
      isKeyChar (Char.ofNat code).toUpper = true := by decide
  have hchar := htable ⟨c.toNat, hbound⟩
  rw [Char.ofNat_toNat] at hchar
  exact hchar h

theorem all_isKeyChar_canonicalChars (text : List Char) :
    (canonicalChars text).all isKeyChar = true := by
  simp only [canonicalChars, List.all_eq_true, List.mem_map, List.mem_filter]
  rintro _ ⟨c, ⟨_, halphanum⟩, rfl⟩
  exact isKeyChar_toUpper halphanum

end PostalRegions
