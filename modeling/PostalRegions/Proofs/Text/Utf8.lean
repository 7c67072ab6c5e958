import PostalRegions.Text.Encoding

/-!
# Bytes that are UTF-8

Which bytes may start a character, and how far the bytes behind them are limited, is told by the
table of starts.  A character in this sense has one of the encodings of a Unicode character and the
other way round: overlong forms, surrogates, values beyond Unicode and characters cut short are all
left out.  So the bytes that consist of such characters are those that some text is encoded in.
-/

namespace PostalRegions.Text

/-! ## The table of characters -/

namespace PartialChar

/-- The character with one more of its bytes. -/
def next (character : PartialChar) (byte : UInt8) : PartialChar :=
  ⟨character.left - 1, 0x80, 0xBF, character.value * 64 + (byte.toNat - 0x80)⟩

/-- The bytes are all that is left of the character. -/
inductive Completes : PartialChar → List UInt8 → Prop where
  | nil {character : PartialChar} (hleft : character.left = 0) : Completes character []
  | cons {character : PartialChar} {byte : UInt8} {rest : List UInt8}
      (hleft : 0 < character.left) (hleast : character.least ≤ byte.toNat)
      (hmost : byte.toNat ≤ character.most) (hrest : Completes (character.next byte) rest) :
      Completes character (byte :: rest)

theorem completes_zero_iff {least most value : Nat} {bytes : List UInt8} :
    Completes ⟨0, least, most, value⟩ bytes ↔ bytes = [] := by
  constructor
  · rintro (_ | ⟨hleft, _, _, _⟩)
    · rfl
    · cases hleft
  · rintro rfl
    exact .nil rfl

theorem completes_succ_iff {left least most value : Nat} {bytes : List UInt8} :
    Completes ⟨left + 1, least, most, value⟩ bytes ↔
      ∃ byte rest, bytes = byte :: rest ∧ least ≤ byte.toNat ∧ byte.toNat ≤ most ∧
        Completes ⟨left, 0x80, 0xBF, value * 64 + (byte.toNat - 0x80)⟩ rest := by
  constructor
  · rintro (hleft | ⟨_, hleast, hmost, hrest⟩)
    · cases hleft
    · exact ⟨_, _, rfl, hleast, hmost, hrest⟩
  · rintro ⟨byte, rest, rfl, hleast, hmost, hrest⟩
    exact .cons (Nat.succ_pos left) hleast hmost hrest

theorem completes_one_iff {least most value : Nat} {bytes : List UInt8} :
    Completes ⟨1, least, most, value⟩ bytes ↔
      ∃ byte : UInt8, bytes = [byte] ∧ least ≤ byte.toNat ∧ byte.toNat ≤ most := by
  rw [completes_succ_iff]
  simp only [completes_zero_iff]
  constructor
  · rintro ⟨byte, _, rfl, hleast, hmost, rfl⟩
    exact ⟨byte, rfl, hleast, hmost⟩
  · rintro ⟨byte, rfl, hleast, hmost⟩
    exact ⟨byte, [], rfl, hleast, hmost, rfl⟩

theorem completes_two_iff {least most value : Nat} {bytes : List UInt8} :
    Completes ⟨2, least, most, value⟩ bytes ↔
      ∃ byte last : UInt8, bytes = [byte, last] ∧ (least ≤ byte.toNat ∧ byte.toNat ≤ most) ∧
        0x80 ≤ last.toNat ∧ last.toNat ≤ 0xBF := by
  rw [completes_succ_iff]
  simp only [completes_one_iff]
  constructor
  · rintro ⟨byte, _, rfl, hleast, hmost, last, rfl, hlast⟩
    exact ⟨byte, last, rfl, ⟨hleast, hmost⟩, hlast⟩
  · rintro ⟨byte, last, rfl, ⟨hleast, hmost⟩, hlast⟩
    exact ⟨byte, [last], rfl, hleast, hmost, last, rfl, hlast⟩

theorem completes_three_iff {least most value : Nat} {bytes : List UInt8} :
    Completes ⟨3, least, most, value⟩ bytes ↔
      ∃ byte middle last : UInt8, bytes = [byte, middle, last] ∧
        (least ≤ byte.toNat ∧ byte.toNat ≤ most) ∧
        (0x80 ≤ middle.toNat ∧ middle.toNat ≤ 0xBF) ∧ 0x80 ≤ last.toNat ∧ last.toNat ≤ 0xBF := by
  rw [completes_succ_iff]
  simp only [completes_two_iff]
  constructor
  · rintro ⟨byte, _, rfl, hleast, hmost, middle, last, rfl, hmiddle, hlast⟩
    exact ⟨byte, middle, last, rfl, ⟨hleast, hmost⟩, hmiddle, hlast⟩
  · rintro ⟨byte, middle, last, rfl, ⟨hleast, hmost⟩, hmiddle, hlast⟩
    exact ⟨byte, [middle, last], rfl, hleast, hmost, middle, last, rfl, hmiddle, hlast⟩

end PartialChar

/-- The bytes of one character. -/
inductive IsCharacter : List UInt8 → Prop where
  | whole {byte : UInt8} {c : Char} (hstart : Start.ofByte byte.toNat = .whole c) :
      IsCharacter [byte]
  | lead {byte : UInt8} {character : PartialChar} {rest : List UInt8}
      (hstart : Start.ofByte byte.toNat = .lead character) (hrest : character.Completes rest) :
      IsCharacter (byte :: rest)

/-- One character after the other. -/
inductive IsUtf8 : List UInt8 → Prop where
  | nil : IsUtf8 []
  | append {bytes rest : List UInt8} (hcharacter : IsCharacter bytes) (hrest : IsUtf8 rest) :
      IsUtf8 (bytes ++ rest)

namespace Start

/-- The least second byte, by which encodings that are longer than need be are left out. -/
def leastSecond (byte : Nat) : Nat :=
  if byte = 0xE0 then 0xA0 else if byte = 0xF0 then 0x90 else 0x80

/-- The greatest second byte, by which surrogates and what is beyond Unicode are left out. -/
def mostSecond (byte : Nat) : Nat :=
  if byte = 0xED then 0x9F else if byte = 0xF4 then 0x8F else 0xBF

theorem leastSecond_le_iff {byte second : Nat} :
    leastSecond byte ≤ second ↔
      0x80 ≤ second ∧ (byte = 0xE0 → 0xA0 ≤ second) ∧ (byte = 0xF0 → 0x90 ≤ second) := by
  unfold leastSecond
  split
  · omega
  · split
    · omega
    · omega

theorem le_mostSecond_iff {byte second : Nat} :
    second ≤ mostSecond byte ↔
      second ≤ 0xBF ∧ (byte = 0xED → second ≤ 0x9F) ∧ (byte = 0xF4 → second ≤ 0x8F) := by
  unfold mostSecond
  split
  · omega
  · split
    · omega
    · omega

theorem ofByte_of_lt {byte : Nat} (hbyte : byte < 0x80) :
    ofByte byte = .whole (Char.ofNat byte) :=
  if_pos hbyte

theorem ofByte_two {byte : Nat} (hbyte : 0xC2 ≤ byte ∧ byte < 0xE0) :
    ofByte byte = .lead ⟨1, 0x80, 0xBF, byte - 0xC0⟩ := by
  unfold ofByte
  rw [if_neg (by omega), if_neg (by omega), if_pos hbyte.2]

theorem ofByte_three {byte : Nat} (hbyte : 0xE0 ≤ byte ∧ byte < 0xF0) :
    ofByte byte = .lead ⟨2, leastSecond byte, mostSecond byte, byte - 0xE0⟩ := by
  by_cases hfirst : byte = 0xE0
  · subst hfirst
    rfl
  by_cases hsurrogates : byte = 0xED
  · subst hsurrogates
    rfl
  have hlow : leastSecond byte = 0x80 := by
    rw [leastSecond, if_neg hfirst, if_neg (by omega)]
  have hhigh : mostSecond byte = 0xBF := by
    rw [mostSecond, if_neg hsurrogates, if_neg (by omega)]
  unfold ofByte
  rw [if_neg (by omega), if_neg (by omega), if_neg (by omega), if_neg hfirst,
    if_neg hsurrogates, if_pos hbyte.2, hlow, hhigh]

theorem ofByte_four {byte : Nat} (hbyte : 0xF0 ≤ byte ∧ byte < 0xF5) :
    ofByte byte = .lead ⟨3, leastSecond byte, mostSecond byte, byte - 0xF0⟩ := by
  have hcases : byte = 0xF0 ∨ byte = 0xF1 ∨ byte = 0xF2 ∨ byte = 0xF3 ∨ byte = 0xF4 := by omega
  rcases hcases with rfl | rfl | rfl | rfl | rfl <;> rfl

theorem ofByte_of_continuation {byte : Nat} (hbyte : 0x80 ≤ byte ∧ byte < 0xC2) :
    ofByte byte = .invalid := by
  unfold ofByte
  rw [if_neg (by omega), if_pos hbyte.2]

theorem ofByte_of_ge {byte : Nat} (hbyte : 0xF5 ≤ byte) : ofByte byte = .invalid := by
  unfold ofByte
  rw [if_neg (by omega), if_neg (by omega), if_neg (by omega), if_neg (by omega),
    if_neg (by omega), if_neg (by omega), if_neg (by omega), if_neg (by omega), if_neg (by omega)]

/-- The ranges of bytes that start characters of one, two, three and four bytes. -/
theorem range_cases (byte : Nat) :
    byte < 0x80 ∨ (0xC2 ≤ byte ∧ byte < 0xE0) ∨ (0xE0 ≤ byte ∧ byte < 0xF0) ∨
      (0xF0 ≤ byte ∧ byte < 0xF5) ∨ ofByte byte = .invalid := by
  by_cases hcontinuation : 0x80 ≤ byte ∧ byte < 0xC2
  · exact .inr (.inr (.inr (.inr (ofByte_of_continuation hcontinuation))))
  by_cases hbeyond : 0xF5 ≤ byte
  · exact .inr (.inr (.inr (.inr (ofByte_of_ge hbeyond))))
  omega

theorem lt_of_whole {byte : Nat} {c : Char} (hstart : ofByte byte = .whole c) : byte < 0x80 := by
  rcases range_cases byte with hone | htwo | hthree | hfour | hinvalid
  · exact hone
  · rw [ofByte_two htwo] at hstart
    cases hstart
  · rw [ofByte_three hthree] at hstart
    cases hstart
  · rw [ofByte_four hfour] at hstart
    cases hstart
  · rw [hinvalid] at hstart
    cases hstart

theorem lead_cases {byte : Nat} {character : PartialChar}
    (hstart : ofByte byte = .lead character) :
    ((0xC2 ≤ byte ∧ byte < 0xE0) ∧ character = ⟨1, 0x80, 0xBF, byte - 0xC0⟩) ∨
    ((0xE0 ≤ byte ∧ byte < 0xF0) ∧
      character = ⟨2, leastSecond byte, mostSecond byte, byte - 0xE0⟩) ∨
    ((0xF0 ≤ byte ∧ byte < 0xF5) ∧
      character = ⟨3, leastSecond byte, mostSecond byte, byte - 0xF0⟩) := by
  rcases range_cases byte with hone | htwo | hthree | hfour | hinvalid
  · rw [ofByte_of_lt hone] at hstart
    cases hstart
  · rw [ofByte_two htwo] at hstart
    cases hstart
    exact .inl ⟨htwo, rfl⟩
  · rw [ofByte_three hthree] at hstart
    cases hstart
    exact .inr (.inl ⟨hthree, rfl⟩)
  · rw [ofByte_four hfour] at hstart
    cases hstart
    exact .inr (.inr ⟨hfour, rfl⟩)
  · rw [hinvalid] at hstart
    cases hstart

end Start

/-- The table written out. -/
theorem isCharacter_iff {bytes : List UInt8} :
    IsCharacter bytes ↔
      (∃ first, bytes = [first] ∧ first.toNat < 0x80) ∨
      (∃ first second, bytes = [first, second] ∧ (0xC2 ≤ first.toNat ∧ first.toNat < 0xE0) ∧
        0x80 ≤ second.toNat ∧ second.toNat ≤ 0xBF) ∨
      (∃ first second third, bytes = [first, second, third] ∧
        (0xE0 ≤ first.toNat ∧ first.toNat < 0xF0) ∧
        (Start.leastSecond first.toNat ≤ second.toNat ∧
          second.toNat ≤ Start.mostSecond first.toNat) ∧
        0x80 ≤ third.toNat ∧ third.toNat ≤ 0xBF) ∨
      ∃ first second third fourth, bytes = [first, second, third, fourth] ∧
        (0xF0 ≤ first.toNat ∧ first.toNat < 0xF5) ∧
        (Start.leastSecond first.toNat ≤ second.toNat ∧
          second.toNat ≤ Start.mostSecond first.toNat) ∧
        (0x80 ≤ third.toNat ∧ third.toNat ≤ 0xBF) ∧ 0x80 ≤ fourth.toNat ∧
          fourth.toNat ≤ 0xBF := by
  constructor
  · rintro (@⟨first, c, hstart⟩ | @⟨first, character, rest, hstart, hrest⟩)
    · exact .inl ⟨first, rfl, Start.lt_of_whole hstart⟩
    · rcases Start.lead_cases hstart with ⟨hfirst, rfl⟩ | ⟨hfirst, rfl⟩ | ⟨hfirst, rfl⟩
      · obtain ⟨second, rfl, hsecond⟩ := PartialChar.completes_one_iff.mp hrest
        exact .inr (.inl ⟨first, second, rfl, hfirst, hsecond⟩)
      · obtain ⟨second, third, rfl, hothers⟩ := PartialChar.completes_two_iff.mp hrest
        exact .inr (.inr (.inl ⟨first, second, third, rfl, hfirst, hothers⟩))
      · obtain ⟨second, third, fourth, rfl, hothers⟩ := PartialChar.completes_three_iff.mp hrest
        exact .inr (.inr (.inr ⟨first, second, third, fourth, rfl, hfirst, hothers⟩))
  · rintro (⟨first, rfl, hone⟩ | ⟨first, second, rfl, hfirst, hsecond⟩ |
      ⟨first, second, third, rfl, hfirst, hothers⟩ |
      ⟨first, second, third, fourth, rfl, hfirst, hothers⟩)
    · exact .whole (Start.ofByte_of_lt hone)
    · exact .lead (Start.ofByte_two hfirst)
        (PartialChar.completes_one_iff.mpr ⟨second, rfl, hsecond⟩)
    · exact .lead (Start.ofByte_three hfirst)
        (PartialChar.completes_two_iff.mpr ⟨second, third, rfl, hothers⟩)
    · exact .lead (Start.ofByte_four hfirst)
        (PartialChar.completes_three_iff.mpr ⟨second, third, fourth, rfl, hothers⟩)

/-! ## The encodings of characters -/

theorem utf8EncodeChar_one {c : Char} (hmost : c.toNat < 0x80) :
    ∃ byte, String.utf8EncodeChar c = [byte] ∧ byte.toNat = c.toNat := by
  have hval : c.val.toNat = c.toNat := rfl
  refine ⟨UInt8.ofNat c.toNat, ?_, ?_⟩
  · rw [String.utf8EncodeChar, hval, if_pos (by omega)]
  · rw [UInt8.toNat_ofNat']
    omega

theorem utf8EncodeChar_two {c : Char} (hleast : 0x80 ≤ c.toNat) (hmost : c.toNat < 0x800) :
    ∃ first second, String.utf8EncodeChar c = [first, second] ∧
      first.toNat = 0xC0 + c.toNat / 64 ∧ second.toNat = 0x80 + c.toNat % 64 := by
  have hval : c.val.toNat = c.toNat := rfl
  refine ⟨UInt8.ofNat (c.toNat / 64 % 32 + 192), UInt8.ofNat (c.toNat % 64 + 128), ?_, ?_, ?_⟩
  · rw [String.utf8EncodeChar, hval, if_neg (by omega), if_pos (by omega)]
  · rw [UInt8.toNat_ofNat']
    omega
  · rw [UInt8.toNat_ofNat']
    omega

theorem utf8EncodeChar_three {c : Char} (hleast : 0x800 ≤ c.toNat) (hmost : c.toNat < 0x10000) :
    ∃ first second third, String.utf8EncodeChar c = [first, second, third] ∧
      first.toNat = 0xE0 + c.toNat / 4096 ∧ second.toNat = 0x80 + c.toNat / 64 % 64 ∧
      third.toNat = 0x80 + c.toNat % 64 := by
  have hval : c.val.toNat = c.toNat := rfl
  refine ⟨UInt8.ofNat (c.toNat / 4096 % 16 + 224), UInt8.ofNat (c.toNat / 64 % 64 + 128),
    UInt8.ofNat (c.toNat % 64 + 128), ?_, ?_, ?_, ?_⟩
  · rw [String.utf8EncodeChar, hval, if_neg (by omega), if_neg (by omega), if_pos (by omega)]
  · rw [UInt8.toNat_ofNat']
    omega
  · rw [UInt8.toNat_ofNat']
    omega
  · rw [UInt8.toNat_ofNat']
    omega

theorem utf8EncodeChar_four {c : Char} (hleast : 0x10000 ≤ c.toNat) :
    ∃ first second third fourth, String.utf8EncodeChar c = [first, second, third, fourth] ∧
      first.toNat = 0xF0 + c.toNat / 262144 ∧ second.toNat = 0x80 + c.toNat / 4096 % 64 ∧
      third.toNat = 0x80 + c.toNat / 64 % 64 ∧ fourth.toNat = 0x80 + c.toNat % 64 := by
  have hval : c.val.toNat = c.toNat := rfl
  have hvalid : c.toNat.isValidChar := c.valid
  refine ⟨UInt8.ofNat (c.toNat / 262144 % 8 + 240), UInt8.ofNat (c.toNat / 4096 % 64 + 128),
    UInt8.ofNat (c.toNat / 64 % 64 + 128), UInt8.ofNat (c.toNat % 64 + 128), ?_, ?_, ?_, ?_, ?_⟩
  · rw [String.utf8EncodeChar, hval, if_neg (by omega), if_neg (by omega), if_neg (by omega)]
  · rw [UInt8.toNat_ofNat']
    omega
  · rw [UInt8.toNat_ofNat']
    omega
  · rw [UInt8.toNat_ofNat']
    omega
  · rw [UInt8.toNat_ofNat']
    omega

/-- The encoding of a character is in the table. -/
theorem isCharacter_utf8EncodeChar (c : Char) : IsCharacter (String.utf8EncodeChar c) := by
  have hvalid : c.toNat.isValidChar := c.valid
  rw [isCharacter_iff]
  by_cases hone : c.toNat < 0x80
  · obtain ⟨first, hbytes, hfirst⟩ := utf8EncodeChar_one hone
    exact .inl ⟨first, hbytes, by omega⟩
  by_cases htwo : c.toNat < 0x800
  · obtain ⟨first, second, hbytes, hfirst, hsecond⟩ := utf8EncodeChar_two (by omega) htwo
    exact .inr (.inl ⟨first, second, hbytes, by omega, by omega⟩)
  by_cases hthree : c.toNat < 0x10000
  · obtain ⟨first, second, third, hbytes, hfirst, hsecond, hthird⟩ :=
      utf8EncodeChar_three (by omega) hthree
    refine .inr (.inr (.inl ⟨first, second, third, hbytes, by omega, ?_, by omega⟩))
    rw [Start.leastSecond_le_iff, Start.le_mostSecond_iff]
    omega
  · obtain ⟨first, second, third, fourth, hbytes, hfirst, hsecond, hthird, hfourth⟩ :=
      utf8EncodeChar_four (c := c) (by omega)
    refine .inr (.inr (.inr ⟨first, second, third, fourth, hbytes, by omega, ?_, by omega,
      by omega⟩))
    rw [Start.leastSecond_le_iff, Start.le_mostSecond_iff]
    omega

theorem toNat_charOfNat {value : Nat} (hvalid : value.isValidChar) :
    (Char.ofNat value).toNat = value := by
  rw [Char.ofNat, dif_pos hvalid]
  rfl

theorem exists_char (value : Nat) (hvalid : value.isValidChar) : ∃ c : Char, c.toNat = value :=
  ⟨Char.ofNat value, toNat_charOfNat hvalid⟩

/-- What is in the table is the encoding of some character. -/
theorem IsCharacter.exists_utf8EncodeChar {bytes : List UInt8} (hbytes : IsCharacter bytes) :
    ∃ c, String.utf8EncodeChar c = bytes := by
  rcases isCharacter_iff.mp hbytes with ⟨first, rfl, hfirst⟩ |
    ⟨first, second, rfl, hfirst, hsecond⟩ | ⟨first, second, third, rfl, hfirst, hsecond, hthird⟩ |
    ⟨first, second, third, fourth, rfl, hfirst, hsecond, hthird, hfourth⟩
  · obtain ⟨c, hc⟩ := exists_char first.toNat (by omega)
    obtain ⟨one, hencoded, hone⟩ := utf8EncodeChar_one (c := c) (by omega)
    refine ⟨c, ?_⟩
    rw [hencoded, UInt8.toNat_inj.mp (hone.trans hc)]
  · obtain ⟨c, hc⟩ := exists_char
      ((first.toNat - 0xC0) * 64 + (second.toNat - 0x80)) (by omega)
    obtain ⟨one, two, hencoded, hone, htwo⟩ := utf8EncodeChar_two (c := c) (by omega) (by omega)
    refine ⟨c, ?_⟩
    have hsameFirst : one = first := UInt8.toNat_inj.mp (by omega)
    have hsameSecond : two = second := UInt8.toNat_inj.mp (by omega)
    rw [hencoded, hsameFirst, hsameSecond]
  · rw [Start.leastSecond_le_iff, Start.le_mostSecond_iff] at hsecond
    obtain ⟨c, hc⟩ := exists_char
      ((first.toNat - 0xE0) * 4096 + (second.toNat - 0x80) * 64 + (third.toNat - 0x80))
      (by omega)
    obtain ⟨one, two, three, hencoded, hone, htwo, hthree⟩ :=
      utf8EncodeChar_three (c := c) (by omega) (by omega)
    refine ⟨c, ?_⟩
    have hsameFirst : one = first := UInt8.toNat_inj.mp (by omega)
    have hsameSecond : two = second := UInt8.toNat_inj.mp (by omega)
    have hsameThird : three = third := UInt8.toNat_inj.mp (by omega)
    rw [hencoded, hsameFirst, hsameSecond, hsameThird]
  · rw [Start.leastSecond_le_iff, Start.le_mostSecond_iff] at hsecond
    obtain ⟨c, hc⟩ := exists_char
      ((first.toNat - 0xF0) * 262144 + (second.toNat - 0x80) * 4096 +
        (third.toNat - 0x80) * 64 + (fourth.toNat - 0x80))
      (by omega)
    obtain ⟨one, two, three, four, hencoded, hone, htwo, hthree, hfour⟩ :=
      utf8EncodeChar_four (c := c) (by omega)
    refine ⟨c, ?_⟩
    have hsameFirst : one = first := UInt8.toNat_inj.mp (by omega)
    have hsameSecond : two = second := UInt8.toNat_inj.mp (by omega)
    have hsameThird : three = third := UInt8.toNat_inj.mp (by omega)
    have hsameFourth : four = fourth := UInt8.toNat_inj.mp (by omega)
    rw [hencoded, hsameFirst, hsameSecond, hsameThird, hsameFourth]

/-! ## The encodings of texts -/

theorem isUtf8_flatMap (chars : List Char) : IsUtf8 (chars.flatMap String.utf8EncodeChar) := by
  induction chars with
  | nil => exact .nil
  | cons c others ih =>
      rw [List.flatMap_cons]
      exact .append (isCharacter_utf8EncodeChar c) ih

theorem IsUtf8.exists_flatMap {bytes : List UInt8} (hbytes : IsUtf8 bytes) :
    ∃ chars : List Char, chars.flatMap String.utf8EncodeChar = bytes := by
  induction hbytes with
  | nil => exact ⟨[], rfl⟩
  | append hcharacter _ ih =>
      obtain ⟨c, rfl⟩ := hcharacter.exists_utf8EncodeChar
      obtain ⟨others, rfl⟩ := ih
      exact ⟨c :: others, List.flatMap_cons⟩

theorem data_toUTF8 (text : String) :
    text.toUTF8.data.toList = text.toList.flatMap String.utf8EncodeChar := by
  rw [String.toUTF8_eq_toByteArray, ← String.utf8Encode_toList, List.utf8Encode,
    List.toList_data_toByteArray]

theorem isUtf8_iff {content : ByteArray} :
    IsUtf8 content.data.toList ↔ ∃ text : String, content = text.toUTF8 := by
  constructor
  · intro hcontent
    obtain ⟨chars, hchars⟩ := hcontent.exists_flatMap
    refine ⟨String.ofList chars, ?_⟩
    have hsame : content.data.toList = (String.ofList chars).toUTF8.data.toList := by
      rw [data_toUTF8, String.toList_ofList, hchars]
    exact ByteArray.ext (Array.toList_inj.mp hsame)
  · rintro ⟨text, rfl⟩
    rw [data_toUTF8]
    exact isUtf8_flatMap text.toList

theorem isValidUTF8_iff {content : ByteArray} :
    content.IsValidUTF8 ↔ IsUtf8 content.data.toList := by
  rw [isUtf8_iff]
  constructor
  · intro hvalid
    exact ⟨String.fromUTF8 content hvalid, rfl⟩
  · rintro ⟨text, rfl⟩
    exact text.isValidUTF8

instance (bytes : List UInt8) : Decidable (IsUtf8 bytes) :=
  decidable_of_iff (ByteArray.IsValidUTF8 ⟨bytes.toArray⟩) isValidUTF8_iff

example :
    ¬ IsUtf8 [0xC0, 0x80] ∧ ¬ IsUtf8 [0xED, 0xA0, 0x80] ∧ ¬ IsUtf8 [0xF4, 0x90, 0x80, 0x80] ∧
      ¬ IsUtf8 [0xE2, 0x82] ∧ IsUtf8 [0xE2, 0x82, 0xAC, 0xF4, 0x8F, 0xBF, 0xBF] := by
  decide

end PostalRegions.Text
