import PostalRegions.Acquisition.Cache
import PostalRegions.Entry.Filing
import PostalRegions.Source.Fetcher

/-!
# The state of an acquisition

What an acquisition is asked to do, and what it has done so far.  Everything that it does to the
outside or to its table is entered in a journal.
-/

namespace PostalRegions

structure AcquisitionPlan where
  baseAddress : String
  version : String
  countries : List Country
  /-- Archives that override all others. -/
  extraAddresses : List String
  deadline : Option Nat

structure AcquisitionTask where
  plan : AcquisitionPlan
  fetcher : Fetcher
  cache : ArchiveCache
  wall : WallClock

structure AcquisitionReport where
  loadedCountries : CountrySet := ∅
  tablesParsed : Nat := 0
  tablesSkipped : Nat := 0
  rowsSkipped : Nat := 0
  sourcesSkipped : Nat := 0
  timedOut : Bool := false

inductive AcquisitionEvent where
  | requested (request : Request)
  /-- A cached copy was used. -/
  | reused (name : String)
  /-- A cached copy could not be used. -/
  | removed (name : String)
  | kept (name : String) (content : ByteArray)
  | merged (address : String) (country : Option Country) (mode : WriteMode) (content : ByteArray)
deriving DecidableEq

def AcquisitionEvent.request? : AcquisitionEvent → Option Request
  | .requested request => some request
  | _ => none

structure AcquisitionState (κ : Type) where
  /-- The time on the running clock, in milliseconds. -/
  clock : Nat
  journal : List AcquisitionEvent
  directory : DataDirectory κ
  table : ExactTable
  report : AcquisitionReport

namespace AcquisitionState

variable {κ : Type}

def start (directory : DataDirectory κ) (clock : Nat) : AcquisitionState κ :=
  ⟨clock, [], directory, ∅, {}⟩

def requests (state : AcquisitionState κ) : List Request :=
  state.journal.filterMap AcquisitionEvent.request?

def record (state : AcquisitionState κ) (event : AcquisitionEvent) : AcquisitionState κ :=
  { state with journal := state.journal ++ [event] }

def wait (state : AcquisitionState κ) (elapsed : Nat) : AcquisitionState κ :=
  { state with clock := state.clock + elapsed }

def skipSource (state : AcquisitionState κ) : AcquisitionState κ :=
  { state with
    report := { state.report with sourcesSkipped := state.report.sourcesSkipped + 1 } }

def loaded (state : AcquisitionState κ) (country : Country) : AcquisitionState κ :=
  { state with
    report := { state.report with
      loadedCountries := state.report.loadedCountries.insert country } }

/-- Tells whether the acquisition is cut short at this point, and notes it. -/
def checkDeadline (state : AcquisitionState κ) (plan : AcquisitionPlan) :
    AcquisitionState κ × Bool :=
  let reached : Bool :=
    match plan.deadline with
    | some deadline => deadline ≤ state.clock
    | none => false
  let timedOut := state.report.timedOut || reached
  ({ state with report := { state.report with timedOut := timedOut } }, timedOut)

end AcquisitionState

end PostalRegions
