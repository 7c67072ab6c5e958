import PostalRegions.Text.Blank
import PostalRegions.Text.Lines

/-!
# Dialects of delimited text

Which character separates the fields of a table, and which one quotes them.  The dialect is
guessed from the first lines: a delimiter qualifies when it stands equally often, and at least
once, on each of them.  When none qualifies, the first line alone decides.
-/

namespace PostalRegions.Delimited

structure Dialect where
  delimiter : Char
  quote : Char
deriving DecidableEq, Repr

/-- The delimiters a table may use; of equally frequent ones the earlier wins. -/
def delimiters : List Char :=
  [',', '\t', ';']

theorem mem_delimiters {c : Char} : c ∈ delimiters ↔ c = ',' ∨ c = '\t' ∨ c = ';' := by
  simp [delimiters]

def sampleSize : Nat :=
  10

def sampleLines (text : List Char) : List (List Char) :=
  ((Text.lines text).take sampleSize).filter fun line => !Text.isAllBlank line

/-- Whether a field that opens with an apostrophe starts inside the line, behind a delimiter. -/
def apostropheAfterDelimiter : List Char → Bool
  | first :: '\'' :: rest => delimiters.contains first || apostropheAfterDelimiter ('\'' :: rest)
  | _ :: rest => apostropheAfterDelimiter rest
  | [] => false

def opensWithApostrophe (line : List Char) : Bool :=
  line.head? == some '\'' || apostropheAfterDelimiter line

/-- The quote of the sampled lines: an apostrophe if one opens a field and there is no double
quote at all. -/
def sampleQuote (lines : List (List Char)) : Char :=
  if !(lines.any (·.contains '"')) && lines.any opensWithApostrophe then '\'' else '"'

def countUnquoted (delimiter quote : Char) : (quoted : Bool) → List Char → Nat
  | _, [] => 0
  | quoted, c :: rest =>
    if c = quote then countUnquoted delimiter quote (!quoted) rest
    else if c = delimiter && !quoted then countUnquoted delimiter quote quoted rest + 1
    else countUnquoted delimiter quote quoted rest

/-- How often a delimiter stands on each of the lines, if that is one positive number. -/
def commonCount (delimiter quote : Char) : List (List Char) → Option Nat
  | [] => none
  | first :: others =>
    let count := countUnquoted delimiter quote false first
    if count != 0 && others.all (fun line => countUnquoted delimiter quote false line == count)
    then some count
    else none

def betterDelimiter (quote : Char) (lines : List (List Char)) (best : Option (Char × Nat))
    (delimiter : Char) : Option (Char × Nat) :=
  match commonCount delimiter quote lines, best with
  | none, _ => best
  | some count, none => some (delimiter, count)
  | some count, some (chosen, most) =>
    if most < count then some (delimiter, count) else some (chosen, most)

namespace Dialect

def sniff (text : List Char) : Option Dialect :=
  let lines := sampleLines text
  let quote := sampleQuote lines
  (delimiters.foldl (betterDelimiter quote lines) none).map fun (delimiter, _) =>
    ⟨delimiter, quote⟩

def ofFirstLine (text : List Char) : Dialect :=
  let first := ((Text.lines text).head?).getD []
  if first.contains '\t' then ⟨'\t', '"'⟩
  else if first.contains ';' then ⟨';', '"'⟩
  else ⟨',', '"'⟩

def detect (text : List Char) : Dialect :=
  (sniff text).getD (ofFirstLine text)

end Dialect

end PostalRegions.Delimited
