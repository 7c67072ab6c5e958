import PostalRegions.Text.CodeRange

/-!
# Blank characters

The characters of the White_Space property, and the trimming of a text by them.  Every field
that an operator or a source file supplies is trimmed by this rule.
-/

namespace PostalRegions.Text

/-- The code points of the White_Space property. -/
def blankRanges : List CodeRange :=
  [⟨0x09, 0x0D⟩, ⟨0x20, 0x20⟩, ⟨0x85, 0x85⟩, ⟨0xA0, 0xA0⟩, ⟨0x1680, 0x1680⟩,
   ⟨0x2000, 0x200A⟩, ⟨0x2028, 0x2029⟩, ⟨0x202F, 0x202F⟩, ⟨0x205F, 0x205F⟩, ⟨0x3000, 0x3000⟩]

def isBlank (c : Char) : Bool :=
  inRanges blankRanges c

def trimChars (chars : List Char) : List Char :=
  ((chars.dropWhile isBlank).reverse.dropWhile isBlank).reverse

def trim (text : String) : String :=
  String.ofList (trimChars text.toList)

/-- Whether a text consists of blank characters only. -/
def isAllBlank (chars : List Char) : Bool :=
  chars.all isBlank

theorem toList_trim (text : String) : (trim text).toList = trimChars text.toList := by
  simp [trim]

end PostalRegions.Text
