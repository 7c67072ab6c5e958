import PostalRegions.Delimited.Column
import PostalRegions.Entry.Filing
import PostalRegions.Estimate.Label
import PostalRegions.Text.Encoding

/-!
# Sheets of estimates

An operator supplies estimates as a delimited table: a postal code, three region codes and a
confidence label on each row.  Of several rows with one key the last one counts.
-/

namespace PostalRegions

open Delimited

/-- The names of each column; the first one names the column in errors. -/
structure EstimateColumnNames where
  country : List String := ["COUNTRY_CODE"]
  postal : List String := ["POSTAL_CODE"]
  level3 : List String := ["ESTIMATED_LEVEL3", "ESTIMATED_NUTS3"]
  level2 : List String := ["ESTIMATED_LEVEL2", "ESTIMATED_NUTS2"]
  level1 : List String := ["ESTIMATED_LEVEL1", "ESTIMATED_NUTS1"]
  confidence : List String := ["CONFIDENCE"]

structure EstimateColumns where
  country : Nat
  postal : Nat
  level3 : Nat
  level2 : Nat
  level1 : Nat
  confidence : Nat
deriving DecidableEq, Repr

inductive EstimateError where
  | unreadable
  | missingColumn (name : String)
deriving DecidableEq, Repr

def EstimateError.missingColumnMessage (name : String) : String :=
  "estimate file has no " ++ name ++ " column"

def requiredColumn (names candidates : List String) : Except EstimateError Nat :=
  match findColumn? names candidates with
  | some column => .ok column
  | none => .error (.missingColumn (candidates.head?.getD ""))

def EstimateColumns.resolve (names : List String) : Except EstimateError EstimateColumns := do
  let wanted : EstimateColumnNames := {}
  let country ← requiredColumn names wanted.country
  let postal ← requiredColumn names wanted.postal
  let level3 ← requiredColumn names wanted.level3
  let level2 ← requiredColumn names wanted.level2
  let level1 ← requiredColumn names wanted.level1
  let confidence ← requiredColumn names wanted.confidence
  return ⟨country, postal, level3, level2, level1, confidence⟩

inductive EstimateReading (κ : Type) where
  | unknownLabel
  | invalid
  | valid (key : EntryKey) (estimate : Estimate κ)

namespace EstimateReading

variable {κ : Type}

def read (confidences : ConfidenceTable κ) (columns : EstimateColumns) (row : Record) :
    EstimateReading κ :=
  let field (column : Nat) : String := Text.trim (fieldAt row column)
  match ConfidenceLabel.parse? (field columns.confidence) with
  | none => .unknownLabel
  | some label =>
    match EntryKey.ofQuery? (field columns.country) (field columns.postal) with
    | none => .invalid
    | some key =>
      if key.code.isEmpty then .invalid
      else
        .valid key
          { level1 := field columns.level1
            level2 := field columns.level2
            level3 := field columns.level3
            confidences := confidences.forLabel label }

def filed? : EstimateReading κ → Option (EntryKey × Estimate κ)
  | .valid key estimate => some (key, estimate)
  | _ => none

def isUnknownLabel : EstimateReading κ → Bool
  | .unknownLabel => true
  | _ => false

def isInvalid : EstimateReading κ → Bool
  | .invalid => true
  | _ => false

end EstimateReading

/-- The estimates of a sheet, and how many rows were left out. -/
structure EstimateSheet (κ : Type) where
  estimates : EstimateTable κ
  unknownLabels : Nat
  invalidRows : Nat

namespace EstimateSheet

variable {κ : Type}

/-- The names by which the columns of a sheet are found: trimmed, with ASCII letters as
capitals. -/
def columnNames (sheet : Sheet) : List String :=
  sheet.header.map fun name => (Text.trim name).map Char.toUpper

def ofReadings (readings : List (EstimateReading κ)) : EstimateSheet κ :=
  { estimates := Std.ExtTreeMap.ofList (readings.filterMap EstimateReading.filed?)
    unknownLabels := readings.countP EstimateReading.isUnknownLabel
    invalidRows := readings.countP EstimateReading.isInvalid }

def read (confidences : ConfidenceTable κ) (text : String) :
    Except EstimateError (EstimateSheet κ) :=
  let sheet := Sheet.read text
  (EstimateColumns.resolve (columnNames sheet)).map fun columns =>
    ofReadings (sheet.rows.map (EstimateReading.read confidences columns))

/-- Reads a file of estimates, if it is there. -/
def ofFile (confidences : ConfidenceTable κ) (content : Option ByteArray) :
    Except EstimateError (EstimateSheet κ) :=
  match content with
  | none => .error .unreadable
  | some bytes => read confidences (Text.decode bytes)

end EstimateSheet

end PostalRegions
