import PostalRegions.Proofs.Text.Blanks
import PostalRegions.Text.Upper

/-!
# Capitals

Upper-casing replaces every character on its own.  Inside ASCII it is the usual change of letters,
so it makes no difference whether the ASCII letters of a text have been made capitals before.
-/

namespace PostalRegions.Text

/-! ## Single characters -/

/-- What can be checked of the characters of ASCII one by one. -/
theorem of_ascii (property : Char → Prop) (htable : ∀ code : Fin 128, property (Char.ofNat code))
    {c : Char} (hascii : c.toNat < 128) : property c := by
  have hchar := htable ⟨c.toNat, hascii⟩
  rw [Char.ofNat_toNat] at hchar
  exact hchar

theorem toUpper_of_not_ascii {c : Char} (hbeyond : ¬ c.toNat < 128) : c.toUpper = c := by
  unfold Char.toUpper
  rw [dif_neg]
  rintro ⟨_, hlower⟩
  have hsmall : c.toNat ≤ 122 := by simpa [UInt32.le_iff_toNat_le] using hlower
  omega

@[simp] theorem toUpper_toUpper (c : Char) : c.toUpper.toUpper = c.toUpper := by
  by_cases hascii : c.toNat < 128
  · exact of_ascii (fun c => c.toUpper.toUpper = c.toUpper) (by decide) hascii
  · rw [toUpper_of_not_ascii hascii, toUpper_of_not_ascii hascii]

@[simp] theorem isAlphanum_toUpper (c : Char) : c.toUpper.isAlphanum = c.isAlphanum := by
  by_cases hascii : c.toNat < 128
  · exact of_ascii (fun c => c.toUpper.isAlphanum = c.isAlphanum) (by decide) hascii
  · rw [toUpper_of_not_ascii hascii]

@[simp] theorem upperChar_toUpper (c : Char) : upperChar c.toUpper = upperChar c := by
  by_cases hascii : c.toNat < 128
  · have hupper : c.toUpper.toNat < 128 :=
      of_ascii (fun c => c.toUpper.toNat < 128) (by decide) hascii
    rw [upperChar_of_ascii hupper, upperChar_of_ascii hascii, toUpper_toUpper]
  · rw [toUpper_of_not_ascii hascii]

/-! ## Texts -/

theorem upperChars_map_toUpper (chars : List Char) :
    upperChars (chars.map Char.toUpper) = upperChars chars := by
  unfold upperChars
  rw [List.flatMap_map]
  simp only [upperChar_toUpper]

theorem upper_append (first second : String) :
    upper (first ++ second) = upper first ++ upper second := by
  apply String.toList_injective
  simp [toList_upper, upperChars]

end PostalRegions.Text
