import PostalRegions.Calendar.Rfc3339

/-!
# Snapshot metadata

What a snapshot tells about itself, stored as pairs of texts, and the check whether a snapshot
may be used in place of a fresh acquisition.
-/

namespace PostalRegions

inductive MetadataKey where
  | version
  | createdAt
  | exactCount
  | estimateCount
  | fingerprint
deriving DecidableEq, Repr

def MetadataKey.name : MetadataKey → String
  | .version => "dataset_version"
  | .createdAt => "created_at"
  | .exactCount => "exact_count"
  | .estimateCount => "estimate_count"
  | .fingerprint => "extra_sources_fingerprint"

structure Metadata where
  version : String
  createdAt : Instant
  exactCount : Nat
  estimateCount : Nat
  fingerprint : String
deriving DecidableEq, Repr

inductive MetadataFault where
  | missing
  | unreadableTime
  | unreadableCount (cause : Text.NumeralError)
deriving DecidableEq, Repr

def MetadataFault.message? : MetadataFault → Option String
  | .missing => some "missing"
  | .unreadableTime => none
  | .unreadableCount cause => some cause.message

structure MetadataError where
  key : MetadataKey
  fault : MetadataFault
deriving DecidableEq, Repr

namespace Metadata

def toPairs (metadata : Metadata) : List (String × String) :=
  [(MetadataKey.version.name, metadata.version),
   (MetadataKey.createdAt.name, metadata.createdAt.written),
   (MetadataKey.exactCount.name, toString metadata.exactCount),
   (MetadataKey.estimateCount.name, toString metadata.estimateCount),
   (MetadataKey.fingerprint.name, metadata.fingerprint)]

def textOf (pairs : List (String × String)) (key : MetadataKey) : Except MetadataError String :=
  match pairs.lookup key.name with
  | some text => .ok text
  | none => .error ⟨key, .missing⟩

def countOf (pairs : List (String × String)) (key : MetadataKey) : Except MetadataError Nat :=
  match textOf pairs key with
  | .ok text => (Text.parseCount text).mapError fun cause => ⟨key, .unreadableCount cause⟩
  | .error cause => .error cause

def timeOf (pairs : List (String × String)) (key : MetadataKey) : Except MetadataError Instant :=
  match textOf pairs key with
  | .ok text =>
    match Instant.parse? text with
    | some instant => .ok instant
    | none => .error ⟨key, .unreadableTime⟩
  | .error cause => .error cause

/-- The facts in their stored form.  An unreadable number of estimates counts as none, and a
missing fingerprint as that of no additional sources. -/
def ofPairs (pairs : List (String × String)) : Except MetadataError Metadata := do
  let createdAt ← timeOf pairs .createdAt
  let version ← textOf pairs .version
  let exactCount ← countOf pairs .exactCount
  return {
    version := version
    createdAt := createdAt
    exactCount := exactCount
    estimateCount := (countOf pairs .estimateCount).toOption.getD 0
    fingerprint := (pairs.lookup MetadataKey.fingerprint.name).getD "" }

end Metadata

/-! ## Reuse -/

structure Expectation where
  version : String
  /-- The age, in seconds, from which on a snapshot is too old. -/
  timeToLive : Nat
  fingerprint : String
deriving DecidableEq, Repr

inductive Invalidity where
  | versionMismatch (stored : String)
  | empty
  | expired (ageDays : Int)
  | fingerprintChanged
deriving DecidableEq, Repr

def Invalidity.message : Invalidity → String
  | .versionMismatch stored => "dataset version mismatch (stored " ++ stored ++ ")"
  | .empty => "snapshot has no exact entries"
  | .expired ageDays => "snapshot expired (" ++ toString ageDays ++ " days old)"
  | .fingerprintChanged => "extra sources configuration changed"

namespace Metadata

def invalidity? (metadata : Metadata) (expected : Expectation) (now : Instant) :
    Option Invalidity :=
  let age := now.since metadata.createdAt
  if metadata.version ≠ expected.version then some (.versionMismatch metadata.version)
  else if metadata.exactCount = 0 then some .empty
  else if (expected.timeToLive * nanosPerSecond : Nat) ≤ age then
    some (.expired (Instant.wholeDays age))
  else if metadata.fingerprint ≠ expected.fingerprint then some .fingerprintChanged
  else none

end Metadata

end PostalRegions
