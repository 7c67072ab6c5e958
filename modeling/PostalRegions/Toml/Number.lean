import PostalRegions.Calendar.Rfc3339
import PostalRegions.Configuration.Document
import PostalRegions.Toml.Lexeme

/-!
# Numbers, dates and times in TOML

Digits may be grouped by low lines.  A whole number has 64 bits with a sign.  A decimal number
that is too large for a float is no value.  Dates and times are only recognized.
-/

namespace PostalRegions.Toml

/-! ## Digits -/

/-- The further digits of a number, each with at most one low line in front, and the rest. -/
def moreDigits (isDigit : Char → Bool) : List Char → List Char × List Char
  | '_' :: c :: rest =>
    if isDigit c then
      let (digits, rest) := moreDigits isDigit rest
      (c :: digits, rest)
    else ([], '_' :: c :: rest)
  | c :: rest =>
    if isDigit c then
      let (digits, rest) := moreDigits isDigit rest
      (c :: digits, rest)
    else ([], c :: rest)
  | [] => ([], [])

def digits? (isDigit : Char → Bool) : Reader (List Char)
  | c :: rest =>
    if isDigit c then
      let (digits, rest) := moreDigits isDigit rest
      some (c :: digits, rest)
    else none
  | [] => none

def valueOf (base : Nat) (digits : List Char) : Nat :=
  digits.foldl (fun value c => base * value + (hexDigit? c).getD 0) 0

def isDigitOf (base : Nat) (c : Char) : Bool :=
  match hexDigit? c with
  | some value => value < base
  | none => false

/-- Reads a sign, which may be missing; tells whether it is negative. -/
def sign : List Char → Bool × List Char
  | '-' :: rest => (true, rest)
  | '+' :: rest => (false, rest)
  | text => (false, text)

/-! ## Whole and decimal numbers -/

def integerBound : Nat :=
  Nat.pow 2 63

/-- The value of a whole number, if it has at most 64 bits. -/
def integer? (value : Int) : Option Document :=
  if -integerBound ≤ value ∧ value < integerBound then some (.integer value) else none

def based? (base : Nat) (text : List Char) : Option (Document × List Char) := do
  let (digits, rest) ← digits? (isDigitOf base) text
  let value ← integer? (valueOf base digits)
  return (value, rest)

/-- Reads the digits of a whole number: there is no zero in front. -/
def whole? : Reader (List Char)
  | '0' :: rest => some (['0'], rest)
  | text => digits? Char.isDigit text

def places? : Reader (Option (List Char))
  | '.' :: rest => (digits? Char.isDigit rest).map fun (digits, rest) => (some digits, rest)
  | text => some (none, text)

def exponent? : Reader (Option Int)
  | c :: rest =>
    if c = 'e' ∨ c = 'E' then
      let (negative, rest) := sign rest
      (digits? Char.isDigit rest).map fun (digits, rest) =>
        let value : Int := valueOf 10 digits
        (some (if negative then -value else value), rest)
    else some (none, c :: rest)
  | [] => some (none, [])

/-- The value of a decimal number, unless it is too large. -/
def decimal? (literal : DecimalLiteral) : Option Document :=
  if literal.overflowsFloat then (if literal.negative then some .notFinite else none)
  else some (.decimal literal)

def unsigned? (negative : Bool) (text : List Char) : Option (Document × List Char) := do
  let (whole, text) ← whole? text
  let (places, text) ← places? text
  let (exponent, text) ← exponent? text
  let value ←
    if places.isNone && exponent.isNone then
      let value : Int := valueOf 10 whole
      integer? (if negative then -value else value)
    else
      let places := places.getD []
      decimal? ⟨negative, valueOf 10 (whole ++ places), exponent.getD 0 - places.length⟩
  return (value, text)

def number? (text : List Char) : Option (Document × List Char) :=
  match text with
  | '0' :: 'x' :: rest => based? 16 rest
  | '0' :: 'o' :: rest => based? 8 rest
  | '0' :: 'b' :: rest => based? 2 rest
  | _ =>
    match sign text with
    | (_, 'i' :: 'n' :: 'f' :: rest) => some (.notFinite, rest)
    | (_, 'n' :: 'a' :: 'n' :: rest) => some (.notFinite, rest)
    | (negative, rest) => unsigned? negative rest

/-! ## Dates and times -/

def startsMoment (text : List Char) : Bool :=
  let digits := (text.take 4).takeWhile Char.isDigit
  match digits.length, text.drop digits.length with
  | 4, '-' :: _ => true
  | 2, ':' :: _ => true
  | _, _ => false

def skipOffset? : List Char → Option (List Char)
  | c :: rest =>
    if c = 'Z' ∨ c = 'z' then some rest
    else if c = '+' ∨ c = '-' then (Instant.offset? (c :: rest)).map Prod.snd
    else some (c :: rest)
  | [] => some []

/-- The text behind a time of day, if one stands behind a separator. -/
def skipTime? (text : List Char) : Option (List Char) :=
  match (Instant.separator? text).bind Instant.time? with
  | some (_, rest) => skipOffset? rest
  | none => some text

def moment? (text : List Char) : Option (Document × List Char) :=
  let rest :=
    match Instant.date? text with
    | some (_, rest) => skipTime? rest
    | none => (Instant.time? text).map Prod.snd
  rest.map fun rest => (.other, rest)

end PostalRegions.Toml
