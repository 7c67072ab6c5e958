/-!
# Texts in bytes

Text files come in UTF-8, with or without a byte order mark, or else in Latin-1, where each byte
is a character.  Texts from the network are always read as UTF-8, and what is not valid there
shows up as the replacement character.
-/

namespace PostalRegions.Text

def byteOrderMark : ByteArray :=
  ⟨#[0xEF, 0xBB, 0xBF]⟩

def withoutByteOrderMark (bytes : ByteArray) : ByteArray :=
  if (bytes.extract 0 3).data = byteOrderMark.data then bytes.extract 3 bytes.size else bytes

def ofLatin1 (bytes : ByteArray) : String :=
  String.ofList (bytes.data.toList.map fun byte => Char.ofNat byte.toNat)

/-- The text of a file: UTF-8 if that is what the bytes are, else Latin-1. -/
def decode (bytes : ByteArray) : String :=
  let content := withoutByteOrderMark bytes
  match String.fromUTF8? content with
  | some text => text
  | none => ofLatin1 content

/-! ## Reading UTF-8 with replacements -/

/-- A character whose first bytes were read: how many bytes are still to come, the range of the
next one, and the value so far. -/
structure PartialChar where
  left : Nat
  least : Nat
  most : Nat
  value : Nat

inductive Start where
  | whole (c : Char)
  | lead (character : PartialChar)
  | invalid

def Start.ofByte (byte : Nat) : Start :=
  if byte < 0x80 then .whole (Char.ofNat byte)
  else if byte < 0xC2 then .invalid
  else if byte < 0xE0 then .lead ⟨1, 0x80, 0xBF, byte - 0xC0⟩
  else if byte = 0xE0 then .lead ⟨2, 0xA0, 0xBF, 0⟩
  else if byte = 0xED then .lead ⟨2, 0x80, 0x9F, 0xD⟩
  else if byte < 0xF0 then .lead ⟨2, 0x80, 0xBF, byte - 0xE0⟩
  else if byte = 0xF0 then .lead ⟨3, 0x90, 0xBF, 0⟩
  else if byte < 0xF4 then .lead ⟨3, 0x80, 0xBF, byte - 0xF0⟩
  else if byte = 0xF4 then .lead ⟨3, 0x80, 0x8F, 4⟩
  else .invalid

def replacement : Char :=
  '\uFFFD'

/-- The characters of the bytes, given a character that was begun before them. -/
def decodeLossyFrom : Option PartialChar → List UInt8 → List Char
  | none, [] => []
  | some _, [] => [replacement]
  | begun, byte :: rest =>
    let fresh := match Start.ofByte byte.toNat with
      | .whole c => c :: decodeLossyFrom none rest
      | .lead character => decodeLossyFrom (some character) rest
      | .invalid => replacement :: decodeLossyFrom none rest
    match begun with
    | none => fresh
    | some character =>
      if character.least ≤ byte.toNat && byte.toNat ≤ character.most then
        let value := character.value * 64 + (byte.toNat - 0x80)
        if character.left ≤ 1 then Char.ofNat value :: decodeLossyFrom none rest
        else decodeLossyFrom (some ⟨character.left - 1, 0x80, 0xBF, value⟩) rest
      else replacement :: fresh

/-- The text of the bytes in UTF-8, with a replacement for each part that is not valid. -/
def decodeLossy (bytes : ByteArray) : String :=
  String.ofList (decodeLossyFrom none bytes.data.toList)

end PostalRegions.Text
