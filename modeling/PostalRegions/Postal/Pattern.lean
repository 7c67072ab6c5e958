import PostalRegions.Text.Blank
import PostalRegions.Text.DecimalDigit

/-!
# Postal code patterns

The shape of a national postal code as a small tree.  A pattern is matched at the start of a
text, without regard to letter case, and yields the characters of its kept parts; it is also
written out in the usual notation of regular expressions for people to read.  Every repetition
is bounded, so a text has finitely many readings, listed with the preferred one first.
-/

namespace PostalRegions

/-- The capital letter that a character stands for when letter case is disregarded.  The long s
and the Kelvin sign stand for `S` and `K`. -/
def foldLetter (c : Char) : Char :=
  if c = '\u017F' then 'S' else if c = '\u212A' then 'K' else c.toUpper

inductive ClassItem where
  | single (c : Char)
  | span (first last : Char)
  | digit
deriving DecidableEq, Repr

inductive CharClass where
  | literal (c : Char)
  | digit
  | blank
  | choice (items : List ClassItem)
deriving DecidableEq, Repr

/-- Whether an item covers a character; letters are written as capitals. -/
def ClassItem.accepts : ClassItem → Char → Bool
  | .single expected, c => foldLetter c = expected
  | .span first last, c => first ≤ foldLetter c && foldLetter c ≤ last
  | .digit, c => Text.isDecimalDigit c

def CharClass.accepts : CharClass → Char → Bool
  | .literal expected, c => foldLetter c = expected
  | .digit, c => Text.isDecimalDigit c
  | .blank, c => Text.isBlank c
  | .choice items, c => items.any (·.accepts c)

def ClassItem.written : ClassItem → String
  | .single c => c.toString
  | .span first last => first.toString ++ "-" ++ last.toString
  | .digit => "\\d"

def CharClass.written : CharClass → String
  | .literal c => c.toString
  | .digit => "\\d"
  | .blank => "\\s"
  | .choice items => "[" ++ String.join (items.map ClassItem.written) ++ "]"

inductive PostalPattern where
  | one (accepted : CharClass)
  | both (first second : PostalPattern)
  /-- The first shape if it leads to a reading, else the second. -/
  | either (first second : PostalPattern)
  /-- A shape as often as possible within bounds. -/
  | times (least most : Nat) (body : PostalPattern)
  /-- A shape whose characters are left out of the key. -/
  | dropped (body : PostalPattern)
  /-- A shape whose characters go into the key. -/
  | kept (body : PostalPattern)
deriving Repr

namespace PostalPattern

abbrev Reading := List Char × List Char

/-- The readings of a repeated step, the longest repetition first. -/
def repeated (step : List Char → List Reading) : Nat → Nat → List Char → List Reading
  | _, 0, text => [([], text)]
  | least, most + 1, text =>
    let longer := (step text).flatMap fun (taken, rest) =>
      (repeated step (least - 1) most rest).map fun (more, rest) => (taken ++ more, rest)
    if least = 0 then longer ++ [([], text)] else longer

/-- The readings of the start of a text, the preferred one first.  `keeping` tells whether the
characters read go into the key. -/
def readings : (keeping : Bool) → PostalPattern → List Char → List Reading
  | _, .one _, [] => []
  | keeping, .one accepted, c :: rest =>
    if accepted.accepts c then [(if keeping then [c] else [], rest)] else []
  | keeping, .both first second, text =>
    (readings keeping first text).flatMap fun (taken, rest) =>
      (readings keeping second rest).map fun (more, rest) => (taken ++ more, rest)
  | keeping, .either first second, text =>
    readings keeping first text ++ readings keeping second text
  | keeping, .times least most body, text =>
    repeated (readings keeping body) least most text
  | keeping, .dropped body, text => readings keeping body text
  | _, .kept body, text => readings true body text

def keptChars (pattern : PostalPattern) (text : List Char) : Option (List Char) :=
  (pattern.readings false text).head?.map Prod.fst

def writtenBounds (least most : Nat) : String :=
  if least = 0 ∧ most = 1 then "?"
  else if least = most then "\x7b" ++ toString least ++ "\x7d"
  else "\x7b" ++ toString least ++ "," ++ toString most ++ "\x7d"

def written : PostalPattern → String
  | .one accepted => accepted.written
  | .both first second => first.written ++ second.written
  | .either first second => first.written ++ "|" ++ second.written
  | .times least most body => body.written ++ writtenBounds least most
  | .dropped body => "(?:" ++ body.written ++ ")"
  | .kept body => "(" ++ body.written ++ ")"

end PostalPattern

end PostalRegions
