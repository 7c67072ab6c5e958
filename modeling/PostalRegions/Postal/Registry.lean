import PostalRegions.Country
import PostalRegions.Postal.Key

/-!
# Postal formats by country

The postal code format of every country that the data covers, and the key of a code in a
country.  A code that does not have the shape of its country's codes is keyed by its letters
and digits alone.
-/

namespace PostalRegions

instance PostalPattern.append : Append PostalPattern := ⟨.both⟩

namespace PostalFormat

/-! ## Building blocks -/

def maybe (body : PostalPattern) : PostalPattern :=
  .times 0 1 body

def exactly (count : Nat) (body : PostalPattern) : PostalPattern :=
  .times count count body

def digits (count : Nat) : PostalPattern :=
  exactly count (.one .digit)

def blank : PostalPattern :=
  .one .blank

def hyphen : PostalPattern :=
  .one (.literal '-')

def capital : PostalPattern :=
  .one (.choice [.span 'A' 'Z'])

def capitalOrDigit : CharClass :=
  .choice [.span 'A' 'Z', .digit]

def routingLetters : List ClassItem :=
  [.single 'A', .span 'C' 'F', .single 'H', .single 'K', .single 'N', .single 'P', .single 'R',
   .single 'T', .span 'V' 'Y']

def routingLetter : CharClass :=
  .choice routingLetters

def eircodeChar : CharClass :=
  .choice (.span '0' '9' :: routingLetters)

def wordChars : Char → List Char → PostalPattern
  | first, [] => .one (.literal first)
  | first, second :: rest => .both (.one (.literal first)) (wordChars second rest)

/-- A fixed text; the empty text is written as no repetition of a hyphen. -/
def word (text : String) : PostalPattern :=
  match text.toList with
  | [] => .times 0 0 hyphen
  | first :: rest => wordChars first rest

def choices : PostalPattern → List PostalPattern → PostalPattern
  | first, [] => first
  | first, second :: rest => .either first (choices second rest)

/-- An optional country mark, with or without a hyphen behind it, that is no part of the key. -/
def marked (marks : List String) : PostalPattern :=
  match marks.map (fun mark => word mark ++ maybe hyphen) with
  | [] => .times 0 0 hyphen
  | first :: rest => maybe (.dropped (choices first rest))

/-! ## The formats -/

def registry : List (String × PostalFormat) :=
  [("AT", ⟨marked ["A"] ++ .kept (digits 4), "1010, A-1010", none⟩),
   ("BE", ⟨marked ["B"] ++ .kept (digits 4), "1000, B-1000", none⟩),
   ("BG", ⟨marked ["BG"] ++ .kept (digits 4), "1000, BG-1000", none⟩),
   ("CY", ⟨marked ["CY"] ++ .kept (digits 4), "1010, CY-1010", none⟩),
   ("CZ",
      ⟨marked ["CZ"] ++ .kept (digits 3) ++ maybe blank ++ .kept (digits 2),
        "110 00, 11000", none⟩),
   ("DE", ⟨marked ["D"] ++ .kept (digits 5), "10115, D-10115", none⟩),
   ("DK", ⟨marked ["DK"] ++ .kept (digits 4), "1050, DK-1050", none⟩),
   ("EE", ⟨marked ["EE"] ++ .kept (digits 5), "10111, EE-10111", none⟩),
   ("EL",
      ⟨marked ["GR"] ++ .kept (digits 3) ++ maybe blank ++ .kept (digits 2),
        "105 57, GR-10557", none⟩),
   ("ES", ⟨marked ["E"] ++ .kept (digits 5), "28001, E-28001", none⟩),
   ("FI", ⟨marked ["FI"] ++ .kept (digits 5), "00100, FI-00100", none⟩),
   ("FR", ⟨marked ["F"] ++ .kept (digits 5), "75001, F-75001", none⟩),
   ("HR", ⟨marked ["HR"] ++ .kept (digits 5), "10000, HR-10000", none⟩),
   ("HU", ⟨marked ["H"] ++ .kept (digits 4), "1011, H-1011", none⟩),
   ("IE",
      ⟨.kept (.either (.one routingLetter ++ digits 2) (word "D6W")) ++ maybe blank ++
        maybe (.kept (exactly 4 (.one eircodeChar))),
        "D02 X285, D02", some (.truncate 3)⟩),
   ("IT", ⟨marked ["I"] ++ .kept (digits 5), "00118, I-00118", none⟩),
   ("LT", ⟨marked ["LT"] ++ .kept (digits 5), "01100, LT-01100", none⟩),
   ("LU", ⟨marked ["L"] ++ .kept (digits 4), "1009, L-1009", none⟩),
   ("LV", ⟨marked ["LV"] ++ .kept (digits 4), "LV-1050, 1050", some (.prepend "LV")⟩),
   ("MT",
      ⟨.kept (exactly 3 capital) ++ maybe blank ++ .kept (.times 2 4 (.one .digit)),
        "VLT 1010, VLT1010", some .leadingLetters⟩),
   ("NL", ⟨.kept (digits 4) ++ maybe blank ++ .kept (exactly 2 capital), "1012 AB, 1012AB", none⟩),
   ("PL", ⟨.kept (digits 2) ++ maybe hyphen ++ .kept (digits 3), "00-950, 00950", none⟩),
   ("PT", ⟨.kept (digits 4) ++ maybe hyphen ++ .kept (digits 3), "1000-001, 1000001", none⟩),
   ("RO", ⟨.kept (digits 6), "010011", none⟩),
   ("SE",
      ⟨marked ["SE", "S"] ++ .kept (digits 3) ++ maybe blank ++ .kept (digits 2),
        "111 22, SE-11122", none⟩),
   ("SI", ⟨marked ["SI"] ++ .kept (digits 4), "1000, SI-1000", none⟩),
   ("SK",
      ⟨marked ["SK"] ++ .kept (digits 3) ++ maybe blank ++ .kept (digits 2),
        "811 01, SK-81101", none⟩),
   ("CH", ⟨marked ["CH"] ++ .kept (digits 4), "8001, CH-8001", none⟩),
   ("IS", ⟨marked ["IS"] ++ .kept (digits 3), "101, IS-101", none⟩),
   ("LI", ⟨marked ["FL", "LI"] ++ .kept (digits 4), "9490, FL-9490", none⟩),
   ("NO", ⟨marked ["NO", "N"] ++ .kept (digits 4), "0150, N-0150", none⟩),
   ("AL", ⟨.kept (digits 4), "1001", none⟩),
   ("BA", ⟨.kept (digits 5), "71000", none⟩),
   ("GE", ⟨.kept (digits 4), "0105", none⟩),
   ("ME", ⟨.kept (digits 5), "81000", none⟩),
   ("MD", ⟨marked ["MD"] ++ .kept (digits 4), "MD-2001, 2001", none⟩),
   ("MK", ⟨.kept (digits 4), "1000", none⟩),
   ("RS", ⟨.kept (digits 5), "11000", none⟩),
   ("TR", ⟨.kept (digits 5), "06100", none⟩),
   ("UA", ⟨.kept (digits 5), "01001", none⟩),
   ("XK", ⟨.kept (digits 5), "10000", none⟩),
   ("UK",
      ⟨.kept (.times 1 2 capital ++ .one .digit ++ maybe (.one capitalOrDigit)) ++ maybe blank ++
        .kept (.one .digit ++ exactly 2 capital),
        "SW1A 1AA, EC1A1BB", none⟩)]

def of? (country : Country) : Option PostalFormat :=
  registry.lookup country.code

end PostalFormat

/-- The key of a postal code in a country, as characters. -/
def postalKeyChars (country : Country) (raw : List Char) : List Char :=
  match (PostalFormat.of? country).bind (·.extract raw) with
  | some key => key
  | none => canonicalChars raw

def postalKey (country : Country) (raw : String) : String :=
  String.ofList (postalKeyChars country raw.toList)

end PostalRegions
