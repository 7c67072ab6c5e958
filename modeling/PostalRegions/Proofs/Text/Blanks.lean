import Mathlib.Data.List.TakeWhile
import PostalRegions.Text.Blank

/-!
# Trimming

Trimming takes the blanks from both ends of a text and nothing else.  The letters and digits of
codes are no blanks, so a code is trimmed already.
-/

namespace PostalRegions.Text

/-- Trimming takes blanks from both ends. -/
theorem exists_trimChars (chars : List Char) :
    ∃ before after, chars = before ++ trimChars chars ++ after ∧
      (∀ c ∈ before, isBlank c = true) ∧ ∀ c ∈ after, isBlank c = true := by
  let rest := chars.dropWhile isBlank
  refine ⟨chars.takeWhile isBlank, (rest.reverse.takeWhile isBlank).reverse, ?_,
    fun _ => List.mem_takeWhile_imp, ?_⟩
  · have hrest : trimChars chars ++ (rest.reverse.takeWhile isBlank).reverse = rest := by
      unfold trimChars
      rw [← List.reverse_append, List.takeWhile_append_dropWhile, List.reverse_reverse]
    rw [List.append_assoc, hrest, List.takeWhile_append_dropWhile]
  · intro c hc
    exact List.mem_takeWhile_imp (List.mem_reverse.mp hc)

theorem trimChars_append {before after : List Char}
    (hbefore : ∀ c ∈ before, isBlank c = true) (hafter : ∀ c ∈ after, isBlank c = true)
    (chars : List Char) : trimChars (before ++ chars ++ after) = trimChars chars := by
  have hreverse : ∀ c ∈ after.reverse, isBlank c = true :=
    fun c hc => hafter c (List.mem_reverse.mp hc)
  unfold trimChars
  rw [List.append_assoc, List.dropWhile_append_of_pos hbefore, List.dropWhile_append]
  split
  · rename_i hnone
    rw [List.isEmpty_iff.mp hnone, List.dropWhile_eq_nil_iff.mpr hafter]
  · rw [List.reverse_append, List.dropWhile_append_of_pos hreverse]

theorem trimChars_trimChars (chars : List Char) :
    trimChars (trimChars chars) = trimChars chars := by
  obtain ⟨before, after, hchars, hbefore, hafter⟩ := exists_trimChars chars
  have htrimmed := trimChars_append hbefore hafter (trimChars chars)
  rw [← hchars] at htrimmed
  exact htrimmed.symm

@[simp] theorem trim_trim (text : String) : trim (trim text) = trim text := by
  apply String.toList_injective
  simp only [toList_trim, trimChars_trimChars]

theorem trim_of_isAllBlank {text : String} (hblank : isAllBlank text.toList = true) :
    trim text = "" := by
  have hdropped : text.toList.dropWhile isBlank = [] := by
    rw [List.dropWhile_eq_nil_iff]
    exact List.all_eq_true.mp hblank
  rw [trim, trimChars, hdropped]
  rfl

theorem toNat_of_isAlphanum {c : Char} (halphanum : c.isAlphanum = true) :
    48 ≤ c.toNat ∧ c.toNat ≤ 122 := by
  have hcases : ((decide (c.val ≥ 'A'.val ∧ c.val ≤ 'Z'.val) ||
      (decide (c.val ≥ 'a'.val) && decide (c.val ≤ 'z'.val))) ||
        (decide (c.val ≥ '0'.val) && decide (c.val ≤ '9'.val))) = true := halphanum
  simp only [Bool.or_eq_true, Bool.and_eq_true, decide_eq_true_eq, ge_iff_le,
    UInt32.le_iff_toNat_le] at hcases
  change ((65 ≤ c.toNat ∧ c.toNat ≤ 90) ∨ (97 ≤ c.toNat ∧ c.toNat ≤ 122)) ∨
    (48 ≤ c.toNat ∧ c.toNat ≤ 57) at hcases
  omega

theorem isAlphanum_eq_false_of_isBlank {c : Char} (hblank : isBlank c = true) :
    c.isAlphanum = false := by
  obtain ⟨range, hrange, hfirst, hlast⟩ := inRanges_iff.mp hblank
  have hapart : blankRanges.all (fun range => range.last < 48 || 122 < range.first) = true := by
    decide
  have houtside := List.all_eq_true.mp hapart range hrange
  simp only [Bool.or_eq_true, decide_eq_true_eq] at houtside
  rw [Bool.eq_false_iff]
  intro halphanum
  have hbounds := toNat_of_isAlphanum halphanum
  omega

theorem trimChars_of_isAlphanum {chars : List Char} (hchars : ∀ c ∈ chars, c.isAlphanum = true) :
    trimChars chars = chars := by
  have hkept {text : List Char} (htext : ∀ c ∈ text, c.isAlphanum = true) :
      text.dropWhile isBlank = text := by
    cases text with
    | nil => rfl
    | cons c rest =>
        have hblank : ¬ isBlank c = true := by
          intro hblank
          have hother := isAlphanum_eq_false_of_isBlank hblank
          rw [htext c List.mem_cons_self] at hother
          cases hother
        rw [List.dropWhile_cons_of_neg hblank]
  unfold trimChars
  rw [hkept hchars, hkept, List.reverse_reverse]
  intro c hc
  exact hchars c (List.mem_reverse.mp hc)

theorem toNat_of_isUpper {c : Char} (hupper : c.isUpper = true) :
    65 ≤ c.toNat ∧ c.toNat ≤ 90 := by
  have hbounds : decide (c.val ≥ 'A'.val ∧ c.val ≤ 'Z'.val) = true := hupper
  simpa [UInt32.le_iff_toNat_le] using hbounds

theorem isAlphanum_of_isUpper {c : Char} (hupper : c.isUpper = true) : c.isAlphanum = true := by
  have hdefinition : c.isAlphanum = ((c.isUpper || c.isLower) || c.isDigit) := rfl
  rw [hdefinition, hupper]
  rfl

theorem toUpper_of_isUpper {c : Char} (hupper : c.isUpper = true) : c.toUpper = c := by
  have hrange := toNat_of_isUpper hupper
  unfold Char.toUpper
  rw [dif_neg]
  rintro ⟨hlower, _⟩
  have hsmall : 97 ≤ c.toNat := by simpa [UInt32.le_iff_toNat_le] using hlower
  omega

end PostalRegions.Text
