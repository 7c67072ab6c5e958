/-!
# Code page 437

The single-byte character set of archive entry names that are not marked as UTF-8.
-/

namespace PostalRegions.Archive

def codePage437Upper : List Char :=
  ("ÇüéâäàåçêëèïîìÄÅÉæÆôöòûùÿÖÜ¢£¥₧ƒáíóúñÑªº¿⌐¬½¼¡«»░▒▓│┤╡╢╖╕╣║╗╝╜╛┐" ++
    "└┴┬├─┼╞╟╚╔╩╦╠═╬╧╨╤╥╙╘╒╓╫╪┘┌█▄▌▐▀αßΓπΣσµτΦΘΩδ∞φε∩≡±≥≤⌠⌡÷≈°∙·√ⁿ²■\u00A0").toList

def codePage437Char (byte : UInt8) : Char :=
  if byte < 0x80 then Char.ofNat byte.toNat
  else codePage437Upper[byte.toNat - 0x80]?.getD '\uFFFD'

def ofCodePage437 (bytes : ByteArray) : String :=
  String.ofList (bytes.data.toList.map codePage437Char)

end PostalRegions.Archive
