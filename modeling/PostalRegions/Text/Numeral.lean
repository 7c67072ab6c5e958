/-!
# Whole numbers in text

Decimal digits of whole numbers.  The text of a count that fits into 64 bits may have a plus sign
in front; of two faults in it the one further left is reported.
-/

namespace PostalRegions.Text

/-- A whole number in decimal digits, with zeros on the left to fill a width. -/
def padded (width value : Nat) : List Char :=
  let digits := Nat.toDigits 10 value
  List.replicate (width - digits.length) '0' ++ digits

inductive NumeralError where
  | empty
  | invalidDigit
  | tooLarge
deriving DecidableEq, Repr

def NumeralError.message : NumeralError → String
  | .empty => "cannot parse integer from empty string"
  | .invalidDigit => "invalid digit found in string"
  | .tooLarge => "number too large to fit in target type"

def countBound : Nat :=
  Nat.pow 2 64

def digitsFrom (value : Nat) : List Char → Except NumeralError Nat
  | [] => .ok value
  | c :: rest =>
    if c.isDigit then
      let next := 10 * value + (c.toNat - '0'.toNat)
      if next < countBound then digitsFrom next rest else .error .tooLarge
    else .error .invalidDigit

def parseCount (text : String) : Except NumeralError Nat :=
  match text.toList with
  | [] => .error .empty
  | ['+'] => .error .invalidDigit
  | '+' :: digits => digitsFrom 0 digits
  | digits => digitsFrom 0 digits

end PostalRegions.Text
