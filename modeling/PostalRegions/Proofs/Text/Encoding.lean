import Mathlib.Logic.ExistsUnique
import PostalRegions.Proofs.Text.Utf8

/-!
# Decoding the texts of files

A byte order mark in front of a text is taken off once, and what is behind it decides how the text
is read: as UTF-8 if it is UTF-8, else as Latin-1.  The mark is the encoding of the character
U+FEFF, so without a mark only texts that start with this character are not read back.
-/

namespace PostalRegions.Text

/-! ## The byte order mark -/

/-- The bytes are the content, behind a byte order mark or without one. -/
inductive HasContent : ByteArray → ByteArray → Prop where
  | marked (content : ByteArray) : HasContent (byteOrderMark ++ content) content
  | plain {content : ByteArray} (hplain : ∀ rest, content ≠ byteOrderMark ++ rest) :
      HasContent content content

theorem byteOrderMark_eq : byteOrderMark = ['\uFEFF'].utf8Encode := by
  decide

theorem eq_append_of_mark {bytes : ByteArray}
    (hmark : (bytes.extract 0 3).data = byteOrderMark.data) :
    bytes = byteOrderMark ++ bytes.extract 3 bytes.size := by
  have hfront : bytes.extract 0 3 = byteOrderMark := ByteArray.ext hmark
  have hsize : (bytes.extract 0 3).size = 3 := by
    rw [hfront]
    rfl
  rw [ByteArray.size_extract] at hsize
  rw [← hfront, ← ByteArray.extract_eq_extract_append_extract 3 (Nat.zero_le 3) (by omega),
    ByteArray.extract_zero_size]

theorem mark_of_append (rest : ByteArray) :
    ((byteOrderMark ++ rest).extract 0 3).data = byteOrderMark.data :=
  congrArg ByteArray.data (ByteArray.extract_append_eq_left rfl)

theorem hasContent_withoutByteOrderMark (bytes : ByteArray) :
    HasContent bytes (withoutByteOrderMark bytes) := by
  unfold withoutByteOrderMark
  split
  · rename_i hmark
    have hmarked := HasContent.marked (bytes.extract 3 bytes.size)
    rwa [← eq_append_of_mark hmark] at hmarked
  · rename_i hmark
    refine .plain fun rest hrest => hmark ?_
    rw [hrest, mark_of_append]

theorem HasContent.eq_withoutByteOrderMark {bytes content : ByteArray}
    (hcontent : HasContent bytes content) : content = withoutByteOrderMark bytes := by
  unfold withoutByteOrderMark
  cases hcontent with
  | marked =>
      rw [if_pos (mark_of_append content)]
      exact (ByteArray.extract_append_eq_right rfl ByteArray.size_append).symm
  | plain hplain =>
      rw [if_neg fun hmark => hplain _ (eq_append_of_mark hmark)]

theorem toUTF8_of_cons {text : String} {others : List Char}
    (htext : text.toList = '\uFEFF' :: others) :
    text.toUTF8 = byteOrderMark ++ (String.ofList others).toUTF8 := by
  rw [String.toUTF8_eq_toByteArray, String.toUTF8_eq_toByteArray, String.toByteArray_ofList,
    ← String.utf8Encode_toList, htext, List.utf8Encode_cons, byteOrderMark_eq]

theorem head?_of_toUTF8 {text : String} {rest : ByteArray}
    (hmarked : text.toUTF8 = byteOrderMark ++ rest) : text.toList.head? = some '\uFEFF' := by
  rw [String.toUTF8_eq_toByteArray, ← String.utf8Encode_toList, byteOrderMark_eq] at hmarked
  obtain ⟨others, hothers⟩ := List.isPrefix_of_utf8Encode_append_eq_utf8Encode rest hmarked.symm
  rw [← hothers]
  rfl

theorem hasContent_toUTF8 {text : String} (htext : text.toList.head? ≠ some '\uFEFF') :
    HasContent text.toUTF8 text.toUTF8 :=
  .plain fun _ hmarked => htext (head?_of_toUTF8 hmarked)

/-! ## The two ways of reading -/

theorem fromUTF8?_of_text (text : String) : String.fromUTF8? text.toUTF8 = some text :=
  dif_pos text.isValidUTF8

theorem fromUTF8?_of_not_isUtf8 {content : ByteArray}
    (hinvalid : ¬ IsUtf8 content.data.toList) : String.fromUTF8? content = none :=
  dif_neg fun hvalid => hinvalid (isValidUTF8_iff.mp hvalid)

theorem decode_of_toUTF8 {bytes : ByteArray} {text : String}
    (hcontent : HasContent bytes text.toUTF8) : decode bytes = text := by
  simp only [decode, ← hcontent.eq_withoutByteOrderMark, fromUTF8?_of_text]

theorem decode_of_not_isUtf8 {bytes content : ByteArray} (hcontent : HasContent bytes content)
    (hinvalid : ¬ IsUtf8 content.data.toList) : decode bytes = ofLatin1 content := by
  simp only [decode, ← hcontent.eq_withoutByteOrderMark, fromUTF8?_of_not_isUtf8 hinvalid]

theorem toNat_charOfByte (byte : UInt8) : (Char.ofNat byte.toNat).toNat = byte.toNat := by
  have hbyte : byte.toNat < 256 := UInt8.toNat_lt_size byte
  exact toNat_charOfNat (by omega)

theorem map_toNat_ofLatin1 (content : ByteArray) :
    (ofLatin1 content).toList.map Char.toNat = content.data.toList.map UInt8.toNat := by
  rw [ofLatin1, String.toList_ofList, List.map_map]
  exact List.map_congr_left fun byte _ => toNat_charOfByte byte

/-- Texts are read back from their encodings, behind a byte order mark and without one, unless
they start with the mark's character themselves.  Bytes are read as Latin-1 if what is behind the
mark is not the encoding of any text. -/
theorem decode_utf8_or_latin1 :
    (∀ text : String, decode (byteOrderMark ++ text.toUTF8) = text) ∧
    (∀ text : String, decode text.toUTF8 = text ↔ text.toList.head? ≠ some '\uFEFF') ∧
    (∀ content : ByteArray,
      IsUtf8 content.data.toList ↔ ∃ text : String, content = text.toUTF8) ∧
    (∀ bytes : ByteArray, ∃! content, HasContent bytes content) ∧
    ∀ bytes content : ByteArray, HasContent bytes content → ¬ IsUtf8 content.data.toList →
      (decode bytes).toList.map Char.toNat = content.data.toList.map UInt8.toNat := by
  refine ⟨?_, ?_, fun content => isUtf8_iff, ?_, ?_⟩
  · intro text
    exact decode_of_toUTF8 (.marked text.toUTF8)
  · intro text
    constructor
    · intro hdecoded hmark
      obtain ⟨others, hothers⟩ := List.head?_eq_some_iff.mp hmark
      have hrest : text = String.ofList others := by
        rw [← hdecoded, toUTF8_of_cons hothers]
        exact decode_of_toUTF8 (.marked _)
      rw [hrest, String.toList_ofList] at hothers
      exact List.ne_cons_self hothers
    · intro htext
      exact decode_of_toUTF8 (hasContent_toUTF8 htext)
  · intro bytes
    exact ⟨withoutByteOrderMark bytes, hasContent_withoutByteOrderMark bytes,
      fun content hcontent => hcontent.eq_withoutByteOrderMark⟩
  · intro bytes content hcontent hinvalid
    rw [decode_of_not_isUtf8 hcontent hinvalid, map_toNat_ofLatin1]

/-- The bytes that a surrogate would have in UTF-8. -/
def surrogateBytes : ByteArray :=
  ⟨#[0xED, 0xA0, 0x80]⟩

theorem decode_surrogateBytes_behind_mark :
    HasContent (byteOrderMark ++ surrogateBytes) surrogateBytes ∧
      ¬ IsUtf8 surrogateBytes.data.toList ∧
      (decode (byteOrderMark ++ surrogateBytes)).toList.map Char.toNat = [0xED, 0xA0, 0x80] ∧
      decode "Zürich".toUTF8 = "Zürich" := by
  obtain ⟨_, hplain, _, _, hlatin1⟩ := decode_utf8_or_latin1
  have hcontent := HasContent.marked surrogateBytes
  have hinvalid : ¬ IsUtf8 surrogateBytes.data.toList := by decide
  refine ⟨hcontent, hinvalid, ?_, ?_⟩
  · exact hlatin1 _ surrogateBytes hcontent hinvalid
  · exact (hplain "Zürich").mpr (by decide)

end PostalRegions.Text
