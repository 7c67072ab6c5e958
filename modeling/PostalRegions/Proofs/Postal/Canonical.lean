import PostalRegions.Entry.Filing

/-!
# Canonical keys

Whatever is read as a postal code, and in whatever country, its key consists of capital letters
and digits.  A format can break this only through a text that it puts in front of the codes, and
no registered format does.
-/

namespace PostalRegions

/-- A change of codes that brings in no other characters than keys may hold. -/
def KeyTransform.keepsKeyChars : KeyTransform → Bool
  | .truncate _ => true
  | .prepend lead => lead.toList.all isKeyChar
  | .leadingLetters => true

theorem KeyTransform.all_isKeyChar_apply {transform : KeyTransform} {code : List Char}
    (hkeeps : transform.keepsKeyChars = true) (hcode : code.all isKeyChar = true) :
    (transform.apply code).all isKeyChar = true := by
  rw [List.all_eq_true] at hcode ⊢
  intro c hc
  cases transform with
  | truncate count => exact hcode c (List.mem_of_mem_take hc)
  | prepend lead =>
      rcases List.mem_append.mp hc with hlead | hrest
      · exact List.all_eq_true.mp hkeeps c hlead
      · exact hcode c hrest
  | leadingLetters =>
      simp only [apply] at hc
      split at hc
      · exact hcode c hc
      · exact hcode c ((List.takeWhile_sublist Char.isAlpha).mem hc)

namespace PostalFormat

theorem registry_keepsKeyChars :
    registry.all (fun entry => entry.2.transform.all KeyTransform.keepsKeyChars) = true := by
  decide

theorem mem_registry_of_of? {country : Country} {format : PostalFormat}
    (hformat : of? country = some format) : (country.code, format) ∈ registry := by
  obtain ⟨before, after, hsplit, _⟩ := List.lookup_eq_some_iff.mp hformat
  rw [hsplit]
  simp

theorem keepsKeyChars_of_of? {country : Country} {format : PostalFormat}
    {transform : KeyTransform} (hformat : of? country = some format)
    (htransform : format.transform = some transform) : transform.keepsKeyChars = true := by
  have hentry := List.all_eq_true.mp registry_keepsKeyChars _ (mem_registry_of_of? hformat)
  rw [htransform] at hentry
  exact hentry

theorem all_isKeyChar_filed {country : Country} {format : PostalFormat}
    (hformat : of? country = some format) (kept : List Char) :
    (format.filed kept).all isKeyChar = true := by
  unfold filed
  split
  · exact all_isKeyChar_canonicalChars kept
  · rename_i transform htransform
    exact KeyTransform.all_isKeyChar_apply (keepsKeyChars_of_of? hformat htransform)
      (all_isKeyChar_canonicalChars kept)

end PostalFormat

theorem all_isKeyChar_postalKeyChars (country : Country) (raw : List Char) :
    (postalKeyChars country raw).all isKeyChar = true := by
  unfold postalKeyChars
  split
  · rename_i key hkey
    obtain ⟨format, hformat, hextract⟩ := Option.bind_eq_some_iff.mp hkey
    obtain ⟨kept, _, rfl⟩ := Option.map_eq_some_iff.mp hextract
    exact PostalFormat.all_isKeyChar_filed hformat kept
  · exact all_isKeyChar_canonicalChars raw

/-- A text of one or more capital letters and digits. -/
def IsKeyText (text : String) : Prop :=
  text ≠ "" ∧ text.toList.all isKeyChar = true

theorem isKeyText_postalKey {country : Country} {raw : String} (hkey : postalKey country raw ≠ "") :
    IsKeyText (postalKey country raw) := by
  refine ⟨hkey, ?_⟩
  unfold postalKey
  rw [String.toList_ofList]
  exact all_isKeyChar_postalKeyChars country raw.toList

end PostalRegions
