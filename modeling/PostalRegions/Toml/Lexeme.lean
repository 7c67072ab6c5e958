/-!
# Lexemes of TOML

Blanks, comments, line ends, strings and keys.  A reader takes its text off the front of a list of
characters and hands back the rest.
-/

namespace PostalRegions.Toml

abbrev Reader (α : Type) := List Char → Option (α × List Char)

def isSpace (c : Char) : Bool :=
  c == ' ' || c == '\t'

/-- Whether a character may stand in a comment: none that controls a device but the tab. -/
def isPrintable (c : Char) : Bool :=
  c == '\t' || (0x20 ≤ c.toNat && c.toNat != 0x7F)

def skipSpaces (text : List Char) : List Char :=
  text.dropWhile isSpace

def newline? : List Char → Option (List Char)
  | '\n' :: rest => some rest
  | '\r' :: '\n' :: rest => some rest
  | _ => none

/-- The text behind a comment, if one starts here. -/
def skipComment : List Char → List Char
  | '#' :: rest => rest.dropWhile isPrintable
  | text => text

/-- The text behind the rest of a line: blanks, a comment and the line end, which may be missing
at the end of the text. -/
def lineRest? (text : List Char) : Option (List Char) :=
  match skipComment (skipSpaces text) with
  | [] => some []
  | rest => newline? rest

/-- The text behind blanks, comments and line ends.  The first argument bounds the number of
lines. -/
def skipLines : Nat → List Char → List Char
  | 0, text => text
  | bound + 1, text =>
    let text := skipSpaces text
    match newline? (skipComment text) with
    | some rest => skipLines bound rest
    | none => text

def expect? (expected : Char) : List Char → Option (List Char)
  | c :: rest => if c = expected then some rest else none
  | [] => none

/-! ## Escapes -/

def hexDigit? (c : Char) : Option Nat :=
  if c.isDigit then some (c.toNat - '0'.toNat)
  else if 'a' ≤ c ∧ c ≤ 'f' then some (c.toNat - 'a'.toNat + 10)
  else if 'A' ≤ c ∧ c ≤ 'F' then some (c.toNat - 'A'.toNat + 10)
  else none

def hexNumber? : Nat → Nat → Reader Nat
  | 0, value, text => some (value, text)
  | count + 1, value, c :: rest =>
    (hexDigit? c).bind fun digit => hexNumber? count (16 * value + digit) rest
  | _ + 1, _, [] => none

def codePoint? (count : Nat) (text : List Char) : Option (Char × List Char) := do
  let (value, rest) ← hexNumber? count 0 text
  if value.isValidChar then some (Char.ofNat value, rest) else none

def escape? : Reader Char
  | 'b' :: rest => some ('\x08', rest)
  | 't' :: rest => some ('\t', rest)
  | 'n' :: rest => some ('\n', rest)
  | 'f' :: rest => some ('\x0c', rest)
  | 'r' :: rest => some ('\r', rest)
  | '"' :: rest => some ('"', rest)
  | '\\' :: rest => some ('\\', rest)
  | 'u' :: rest => codePoint? 4 rest
  | 'U' :: rest => codePoint? 8 rest
  | _ => none

/-! ## Strings -/

/-- Reads a string up to the quote that ends it, given the characters read so far, the last one
first.  The first argument bounds the number of characters. -/
def basicString? : Nat → List Char → Reader String
  | _, reversed, '"' :: rest => some (String.ofList reversed.reverse, rest)
  | bound + 1, reversed, '\\' :: rest =>
    (escape? rest).bind fun (c, rest) => basicString? bound (c :: reversed) rest
  | bound + 1, reversed, c :: rest =>
    if isPrintable c then basicString? bound (c :: reversed) rest else none
  | _, _, _ => none

def literalString? (text : List Char) : Option (String × List Char) :=
  let isPlain (c : Char) : Bool := isPrintable c && c != '\''
  (expect? '\'' (text.dropWhile isPlain)).map fun rest =>
    (String.ofList (text.takeWhile isPlain), rest)

/-- The text behind a backslash at the end of a line and the blanks and line ends after it. -/
def continued? (text : List Char) : Option (List Char) :=
  (newline? (skipSpaces text)).map fun rest =>
    rest.dropWhile fun c => isSpace c || c == '\n' || c == '\r'

/-- Reads a string of several lines up to the three quotes that end it, given the characters read
so far, the last one first.  Up to two quotes in front of the three belong to the string. -/
def longString? (quote : Char) : Nat → List Char → Reader String
  | 0, _, _ => none
  | bound + 1, reversed, text =>
    match text with
    | [] => none
    | c :: rest =>
      if c = quote then
        let count := (text.takeWhile (· == quote)).length
        if count < 3 then
          longString? quote bound (List.replicate count quote ++ reversed) (text.drop count)
        else if count ≤ 5 then
          some (String.ofList (List.replicate (count - 3) quote ++ reversed).reverse,
            text.drop count)
        else none
      else if c = '\\' ∧ quote = '"' then
        match continued? rest with
        | some rest => longString? quote bound reversed rest
        | none => (escape? rest).bind fun (c, rest) => longString? quote bound (c :: reversed) rest
      else
        match newline? text with
        | some rest => longString? quote bound ('\n' :: reversed) rest
        | none => if isPrintable c then longString? quote bound (c :: reversed) rest else none

/-- The text of a long string behind its opening quotes, without a line end right there. -/
def longStart (text : List Char) : List Char :=
  (newline? text).getD text

def string? (text : List Char) : Option (String × List Char) :=
  match text with
  | '"' :: '"' :: '"' :: rest => longString? '"' text.length [] (longStart rest)
  | '\'' :: '\'' :: '\'' :: rest => longString? '\'' text.length [] (longStart rest)
  | '"' :: rest => basicString? text.length [] rest
  | '\'' :: rest => literalString? rest
  | _ => none

/-! ## Keys -/

def isBareKeyChar (c : Char) : Bool :=
  c.isAlphanum || c == '_' || c == '-'

def keyPart? (text : List Char) : Option (String × List Char) :=
  match text with
  | '"' :: rest => basicString? text.length [] rest
  | '\'' :: rest => literalString? rest
  | _ =>
    let part := text.takeWhile isBareKeyChar
    if part.isEmpty then none else some (String.ofList part, text.dropWhile isBareKeyChar)

/-- Reads the parts of a key with points between them.  The first argument bounds their
number. -/
def keyParts? : Nat → Reader (List String)
  | 0, _ => none
  | bound + 1, text => do
    let (part, rest) ← keyPart? (skipSpaces text)
    match skipSpaces rest with
    | '.' :: rest =>
      let (others, rest) ← keyParts? bound rest
      some (part :: others, rest)
    | rest => some ([part], rest)

/-- The greatest number of parts of a key, and the greatest depth of nested values. -/
def maxDepth : Nat :=
  79

def key? : Reader (List String) :=
  keyParts? maxDepth

end PostalRegions.Toml
