import PostalRegions.Delimited.Dialect

/-!
# Records of delimited text

A record is a list of fields.  A field is quoted when it opens with the quote; inside it a quote
is written twice, and delimiters and line ends are ordinary characters.  What stands behind the
closing quote belongs to the field as it is.  A record ends at a line feed, at a carriage return
or at both, and empty lines are no records.
-/

namespace PostalRegions.Delimited

abbrev Record := List String

inductive Position where
  | recordStart
  | fieldStart
  /-- Inside a field, or behind its closing quote. -/
  | plain
  | quoted
  | quoteSeen
deriving DecidableEq, Repr

def endsRecord (c : Char) : Bool :=
  c == '\n' || c == '\r'

def finishField (reversed : List Char) : String :=
  String.ofList reversed.reverse

def finishRecord (reversed : List Char) (fields : List String) : Record :=
  (finishField reversed :: fields).reverse

namespace Dialect

/-- The records of a text, given where the reader stands, the characters of the current field and
the fields of the current record, both last first. -/
def recordsFrom (dialect : Dialect) : Position → List Char → List String → List Char → List Record
  | .recordStart, _, _, [] => []
  | _, reversed, fields, [] => [finishRecord reversed fields]
  | .quoted, reversed, fields, c :: rest =>
    if c = dialect.quote then recordsFrom dialect .quoteSeen reversed fields rest
    else recordsFrom dialect .quoted (c :: reversed) fields rest
  | position, reversed, fields, c :: rest =>
    if position = .recordStart && endsRecord c then recordsFrom dialect .recordStart [] [] rest
    else if (position = .recordStart || position = .fieldStart) && c = dialect.quote then
      recordsFrom dialect .quoted reversed fields rest
    else if position = .quoteSeen && c = dialect.quote then
      recordsFrom dialect .quoted (c :: reversed) fields rest
    else if c = dialect.delimiter then
      recordsFrom dialect .fieldStart [] (finishField reversed :: fields) rest
    else if endsRecord c then
      finishRecord reversed fields :: recordsFrom dialect .recordStart [] [] rest
    else recordsFrom dialect .plain (c :: reversed) fields rest

def withoutMark : List Char → List Char
  | '\uFEFF' :: rest => rest
  | text => text

def records (dialect : Dialect) (text : List Char) : List Record :=
  recordsFrom dialect .recordStart [] [] (withoutMark text)

end Dialect

structure Sheet where
  header : Record
  rows : List Record
deriving DecidableEq, Repr

/-- The table in a text of detected dialect; an empty text has an empty header. -/
def Sheet.read (text : String) : Sheet :=
  let chars := text.toList
  match (Dialect.detect chars).records chars with
  | [] => ⟨[], []⟩
  | header :: rows => ⟨header, rows⟩

/-- The field of a row in a column; a short row has empty fields at its end. -/
def fieldAt (row : Record) (column : Nat) : String :=
  row[column]?.getD ""

end PostalRegions.Delimited
