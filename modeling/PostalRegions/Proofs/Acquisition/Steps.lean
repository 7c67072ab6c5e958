import Mathlib.Logic.Relation
import PostalRegions.Acquisition.Run
import PostalRegions.Proofs.Storage.Files

/-!
# The steps of an acquisition

The three passes differ in the addresses they go through and in where they stop, but whatever an
acquisition does is one of six steps.  A run is a sequence of such steps, so what every step
preserves holds at the end of a run.  Some facts need more than the steps tell: a move is what a
pass does next, with the mode of its pass and the look at the deadline before a request.
-/

namespace PostalRegions

namespace AcquisitionState

variable {κ : Type}

/-! ## What small changes leave alone -/

@[simp] theorem record_journal (state : AcquisitionState κ) (event : AcquisitionEvent) :
    (state.record event).journal = state.journal ++ [event] := rfl

@[simp] theorem record_directory (state : AcquisitionState κ) (event : AcquisitionEvent) :
    (state.record event).directory = state.directory := rfl

@[simp] theorem record_table (state : AcquisitionState κ) (event : AcquisitionEvent) :
    (state.record event).table = state.table := rfl

@[simp] theorem wait_journal (state : AcquisitionState κ) (elapsed : Nat) :
    (state.wait elapsed).journal = state.journal := rfl

@[simp] theorem wait_table (state : AcquisitionState κ) (elapsed : Nat) :
    (state.wait elapsed).table = state.table := rfl

theorem checkDeadline_of_open {state : AcquisitionState κ} {plan : AcquisitionPlan}
    (hopen : (state.checkDeadline plan).2 = false) : state.checkDeadline plan = (state, false) := by
  have hcheck : state.checkDeadline plan = ({ state with report := { state.report with
      timedOut := (state.checkDeadline plan).2 } }, (state.checkDeadline plan).2) := rfl
  have htimedOut : state.report.timedOut = false := (Bool.or_eq_false_iff.mp hopen).1
  rw [hcheck, hopen, ← htimedOut]

/-- Filing the rows of a table changes nothing but the exact table and the counts. -/
theorem mergeTable_frame (version : String) (country : Option Country) (mode : WriteMode)
    (state : AcquisitionState κ) (table : Archive.ArchiveTable) :
    (state.mergeTable version country mode table).journal = state.journal ∧
      (state.mergeTable version country mode table).directory = state.directory := by
  unfold mergeTable
  split
  · exact ⟨rfl, rfl⟩
  · exact ⟨rfl, rfl⟩

theorem mergeTables_frame (version : String) (country : Option Country) (mode : WriteMode)
    (state : AcquisitionState κ) (tables : List Archive.ArchiveTable) :
    (state.mergeTables version country mode tables).journal = state.journal ∧
      (state.mergeTables version country mode tables).directory = state.directory := by
  unfold mergeTables
  induction tables generalizing state with
  | nil => exact ⟨rfl, rfl⟩
  | cons table rest ih =>
      obtain ⟨hjournal, hdirectory⟩ := mergeTable_frame version country mode state table
      obtain ⟨hjournalRest, hdirectoryRest⟩ :=
        ih (state.mergeTable version country mode table)
      exact ⟨hjournalRest.trans hjournal, hdirectoryRest.trans hdirectory⟩

@[simp] theorem mergeTables_journal (version : String) (country : Option Country)
    (mode : WriteMode) (state : AcquisitionState κ) (tables : List Archive.ArchiveTable) :
    (state.mergeTables version country mode tables).journal = state.journal :=
  (mergeTables_frame version country mode state tables).1

@[simp] theorem mergeTables_directory (version : String) (country : Option Country)
    (mode : WriteMode) (state : AcquisitionState κ) (tables : List Archive.ArchiveTable) :
    (state.mergeTables version country mode tables).directory = state.directory :=
  (mergeTables_frame version country mode state tables).2

end AcquisitionState

/-! ## Journals -/

def AcquisitionEvent.isMerge : AcquisitionEvent → Bool
  | .merged _ _ _ _ => true
  | _ => false

/-- A journal goes on without a merge. -/
def GoesOn (journal next : List AcquisitionEvent) : Prop :=
  ∃ events, next = journal ++ events ∧ ∀ event ∈ events, event.isMerge = false

namespace GoesOn

theorem refl (journal : List AcquisitionEvent) : GoesOn journal journal :=
  ⟨[], by simp, by simp⟩

theorem concat (journal : List AcquisitionEvent) {event : AcquisitionEvent}
    (hevent : event.isMerge = false) : GoesOn journal (journal ++ [event]) :=
  ⟨[event], rfl, by simpa using hevent⟩

theorem requested (journal : List AcquisitionEvent) (request : Request) :
    GoesOn journal (journal ++ [.requested request]) :=
  concat journal rfl

theorem trans {journal middle next : List AcquisitionEvent} (hfirst : GoesOn journal middle)
    (hsecond : GoesOn middle next) : GoesOn journal next := by
  obtain ⟨events, rfl, hevents⟩ := hfirst
  obtain ⟨more, rfl, hmore⟩ := hsecond
  refine ⟨events ++ more, by simp, ?_⟩
  intro event hevent
  rcases List.mem_append.mp hevent with hearly | hlate
  · exact hevents event hearly
  · exact hmore event hlate

theorem isPrefix {journal next : List AcquisitionEvent} (hnext : GoesOn journal next) :
    journal <+: next := by
  obtain ⟨events, rfl, _⟩ := hnext
  exact List.prefix_append journal events

end GoesOn

namespace AcquisitionTask

variable {κ : Type}

/-! ## Downloading an archive -/

theorem keep_table (task : AcquisitionTask) (state : AcquisitionState κ) (address : String)
    (content : ByteArray) : (task.keep state address content).table = state.table := by
  unfold keep
  split
  · rfl
  · split <;> rfl

theorem keep_journal (task : AcquisitionTask) (state : AcquisitionState κ) (address : String)
    (content : ByteArray) : GoesOn state.journal (task.keep state address content).journal := by
  unfold keep
  split
  · exact GoesOn.refl state.journal
  · split
    · exact GoesOn.concat state.journal rfl
    · exact GoesOn.refl state.journal

theorem download_table (task : AcquisitionTask) (state : AcquisitionState κ)
    (address : String) : (task.download state address).1.table = state.table := by
  unfold download
  dsimp only
  split
  · rfl
  · rfl
  · split
    · rw [keep_table]
      rfl
    · rfl

theorem download_journal (task : AcquisitionTask) (state : AcquisitionState κ)
    (address : String) :
    GoesOn (state.journal ++ [.requested (.archive address)])
      (task.download state address).1.journal := by
  unfold download
  dsimp only
  split
  · exact GoesOn.refl _
  · exact GoesOn.refl _
  · split
    · exact task.keep_journal _ address _
    · exact GoesOn.refl _

/-- What was downloaded is an archive that was answered. -/
theorem answer_of_download {task : AcquisitionTask} {state : AcquisitionState κ}
    {address : String} {content : ByteArray}
    (hfound : (task.download state address).2 = some content) :
    (task.fetcher.archive state.requests address).answer = .ok (some content) ∧
      Archive.isReadable content = true := by
  unfold download at hfound
  dsimp only at hfound
  split at hfound
  · cases hfound
  · cases hfound
  · rename_i found hreply
    split at hfound
    · rename_i hreadable
      cases hfound
      exact ⟨hreply, hreadable⟩
    · cases hfound

/-! ## Steps -/

variable [DatabaseFormat κ]

inductive Step (task : AcquisitionTask) : AcquisitionState κ → AcquisitionState κ → Prop
  | checked (state : AcquisitionState κ) : Step task state (state.checkDeadline task.plan).1
  | listed (state : AcquisitionState κ) :
      Step task state
        ((state.record (.requested (.listing task.plan.baseAddress))).wait
          (task.fetcher.listing state.requests task.plan.baseAddress).elapsed)
  /-- It looks for an archive, and files nothing of it. -/
  | obtained (state : AcquisitionState κ) (address : String) :
      Step task state (task.obtain state address).1
  /-- It obtains an archive and files its tables. -/
  | merged (state : AcquisitionState κ) (address : String) (country : Option Country)
      (mode : WriteMode) (content : ByteArray) (tables : List Archive.ArchiveTable)
      (hobtained : (task.obtain state address).2 = some content)
      (htables : Archive.tables? content = some tables) :
      Step task state
        (((task.obtain state address).1.record (.merged address country mode content)).mergeTables
          task.plan.version country mode tables)
  | skipped (state : AcquisitionState κ) : Step task state state.skipSource
  | loaded (state : AcquisitionState κ) (country : Country) :
      Step task state (state.loaded country)

abbrev Reaches (task : AcquisitionTask) (state next : AcquisitionState κ) : Prop :=
  Relation.ReflTransGen task.Step state next

/-- What ingesting an archive can come to. -/
inductive IngestCourse (task : AcquisitionTask) (state : AcquisitionState κ) (address : String)
    (country : Option Country) (mode : WriteMode) : Prop
  | late (hlate : (state.checkDeadline task.plan).2 = true)
      (hresult : task.ingest state address country mode =
        ((state.checkDeadline task.plan).1, .deadline))
  | unavailable (hopen : (state.checkDeadline task.plan).2 = false)
      (hresult : task.ingest state address country mode =
        ((task.obtain (state.checkDeadline task.plan).1 address).1, .unavailable))
  | unreadable (hopen : (state.checkDeadline task.plan).2 = false)
      (hresult : task.ingest state address country mode =
        ((task.obtain (state.checkDeadline task.plan).1 address).1.skipSource, .unavailable))
  | merged (hopen : (state.checkDeadline task.plan).2 = false) (content : ByteArray)
      (tables : List Archive.ArchiveTable) (next : AcquisitionState κ)
      (hobtained : (task.obtain (state.checkDeadline task.plan).1 address).2 = some content)
      (htables : Archive.tables? content = some tables)
      (hnext : next = ((task.obtain (state.checkDeadline task.plan).1 address).1.record
        (.merged address country mode content)).mergeTables task.plan.version country mode tables)
      (hresult : task.ingest state address country mode =
        (next, .merged (next.table.size -
          (task.obtain (state.checkDeadline task.plan).1 address).1.table.size)))

theorem ingestCourse (task : AcquisitionTask) (state : AcquisitionState κ) (address : String)
    (country : Option Country) (mode : WriteMode) :
    task.IngestCourse state address country mode := by
  cases hcheck : state.checkDeadline task.plan with
  | mk checked late =>
      cases late with
      | true => exact .late (by rw [hcheck]) (by simp only [ingest, hcheck])
      | false =>
          cases hobtain : task.obtain checked address with
          | mk next found =>
              cases found with
              | none =>
                  exact .unavailable (by rw [hcheck]) (by simp only [ingest, hcheck, hobtain])
              | some content =>
                  cases htables : Archive.tables? content with
                  | none =>
                      exact .unreadable (by rw [hcheck])
                        (by simp only [ingest, hcheck, hobtain, htables])
                  | some tables =>
                      refine .merged (by rw [hcheck]) content tables _ (by rw [hcheck, hobtain])
                        htables rfl ?_
                      simp only [ingest, hcheck, hobtain, htables]

theorem reaches_ingest (task : AcquisitionTask) (state : AcquisitionState κ) (address : String)
    (country : Option Country) (mode : WriteMode) :
    task.Reaches state (task.ingest state address country mode).1 := by
  have hchecked : task.Reaches state (state.checkDeadline task.plan).1 :=
    Relation.ReflTransGen.single (.checked state)
  cases task.ingestCourse state address country mode with
  | late _ hresult =>
      rw [hresult]
      exact hchecked
  | unavailable _ hresult =>
      rw [hresult]
      exact hchecked.tail (.obtained _ address)
  | unreadable _ hresult =>
      rw [hresult]
      exact (hchecked.tail (.obtained _ address)).tail (.skipped _)
  | merged _ content tables next hobtained htables hnext hresult =>
      rw [hresult, hnext]
      exact hchecked.tail (.merged _ address country mode content tables hobtained htables)

/-! ## A run as a sequence of steps -/

/-- What a pass does next that files archives in a mode.  Nothing is asked of the network before a
look at the deadline. -/
inductive Move (task : AcquisitionTask) (mode : WriteMode) :
    AcquisitionState κ → AcquisitionState κ → Prop
  | checked (state : AcquisitionState κ) : Move task mode state (state.checkDeadline task.plan).1
  | listed (state : AcquisitionState κ) (hopen : (state.checkDeadline task.plan).2 = false) :
      Move task mode state
        (((state.checkDeadline task.plan).1.record
            (.requested (.listing task.plan.baseAddress))).wait
          (task.fetcher.listing (state.checkDeadline task.plan).1.requests
            task.plan.baseAddress).elapsed)
  | ingested (state : AcquisitionState κ) (address : String) (country : Option Country) :
      Move task mode state (task.ingest state address country mode).1
  | skipped (state : AcquisitionState κ) : Move task mode state state.skipSource
  | loaded (state : AcquisitionState κ) (country : Country) :
      Move task mode state (state.loaded country)

abbrev Moves (task : AcquisitionTask) (mode : WriteMode) (state next : AcquisitionState κ) : Prop :=
  Relation.ReflTransGen (task.Move mode) state next

theorem Moves.reaches {task : AcquisitionTask} {mode : WriteMode}
    {state next : AcquisitionState κ} (hmoves : task.Moves mode state next) :
    task.Reaches state next := by
  induction hmoves with
  | refl => exact .refl
  | tail _ hlast ih =>
      refine ih.trans ?_
      cases hlast with
      | checked => exact .single (.checked _)
      | listed => exact (Relation.ReflTransGen.single (.checked _)).tail (.listed _)
      | ingested address country => exact task.reaches_ingest _ address country mode
      | skipped => exact .single (.skipped _)
      | loaded country => exact .single (.loaded _ country)

theorem moves_ingest (task : AcquisitionTask) (state : AcquisitionState κ) (address : String)
    (country : Option Country) (mode : WriteMode) :
    task.Moves mode state (task.ingest state address country mode).1 :=
  .single (.ingested state address country)

theorem moves_noteLoaded (task : AcquisitionTask) (mode : WriteMode) (state : AcquisitionState κ)
    (country : Country) (added : Nat) : task.Moves mode state (noteLoaded state country added) := by
  unfold noteLoaded
  split
  · exact .refl
  · exact .single (.loaded state country)

theorem moves_ingestListed (task : AcquisitionTask) (addresses : List String)
    (state : AcquisitionState κ) :
    task.Moves .firstWins state (task.ingestListed addresses state) := by
  induction addresses generalizing state with
  | nil => exact .refl
  | cons address rest ih =>
      rw [ingestListed]
      split
      · exact ih state
      · rename_i country _
        have hingest := task.moves_ingest state address (some country) .firstWins
        split
        · rename_i next added hresult
          rw [hresult] at hingest
          exact (hingest.trans (task.moves_noteLoaded .firstWins next country added)).trans (ih _)
        · rename_i next hresult
          rw [hresult] at hingest
          exact hingest.trans (ih next)
        · rename_i next hresult
          rw [hresult] at hingest
          exact hingest

theorem moves_listedPass (task : AcquisitionTask) (state : AcquisitionState κ) :
    task.Moves .firstWins state (task.listedPass state) := by
  unfold listedPass
  split
  · rename_i checked hcheck
    have hchecked : task.Move .firstWins state (state.checkDeadline task.plan).1 := .checked state
    rw [hcheck] at hchecked
    exact .single hchecked
  · rename_i checked hcheck
    have hlisted : task.Move .firstWins state _ := .listed state (by rw [hcheck])
    rw [hcheck] at hlisted
    dsimp only
    split
    · exact .single hlisted
    · exact (Relation.ReflTransGen.single hlisted).trans (task.moves_ingestListed _ _)

theorem moves_ingestGuessed (task : AcquisitionTask) (country : Country)
    (addresses : List String) (state : AcquisitionState κ) :
    task.Moves .firstWins state (task.ingestGuessed country addresses state) := by
  induction addresses generalizing state with
  | nil => exact .refl
  | cons address rest ih =>
      rw [ingestGuessed]
      have hingest := task.moves_ingest state address (some country) .firstWins
      split
      · rename_i next added hresult
        rw [hresult] at hingest
        exact hingest.trans (task.moves_noteLoaded .firstWins next country added)
      · rename_i next hresult
        rw [hresult] at hingest
        exact hingest.trans (ih next)
      · rename_i next hresult
        rw [hresult] at hingest
        exact hingest

theorem moves_ingestCountries (task : AcquisitionTask) (countries : List Country)
    (state : AcquisitionState κ) :
    task.Moves .firstWins state (task.ingestCountries countries state) := by
  induction countries generalizing state with
  | nil => exact .refl
  | cons country rest ih =>
      rw [ingestCountries]
      have hguessed := task.moves_ingestGuessed country
        (guessedAddresses task.plan.baseAddress task.plan.version country) state
      split
      · exact hguessed
      · exact hguessed.trans (ih _)

theorem moves_guessedPass (task : AcquisitionTask) (state : AcquisitionState κ) :
    task.Moves .firstWins state (task.guessedPass state) :=
  task.moves_ingestCountries _ state

theorem moves_ingestExtra (task : AcquisitionTask) (addresses : List String)
    (state : AcquisitionState κ) :
    task.Moves .lastWins state (task.ingestExtra addresses state) := by
  induction addresses generalizing state with
  | nil => exact .refl
  | cons address rest ih =>
      rw [ingestExtra]
      split
      · exact (Relation.ReflTransGen.single (.skipped state)).trans (ih _)
      · have hingest := task.moves_ingest state address (countryOfArchive? address) .lastWins
        split
        · rename_i next hresult
          rw [hresult] at hingest
          exact hingest
        · rename_i next _ _ hresult
          rw [hresult] at hingest
          exact hingest.trans (ih next)

theorem moves_extraPass (task : AcquisitionTask) (state : AcquisitionState κ) :
    task.Moves .lastWins state (task.extraPass state) :=
  task.moves_ingestExtra _ state

theorem moves_unlessTimedOut {task : AcquisitionTask} {mode : WriteMode}
    {pass : AcquisitionState κ → AcquisitionState κ}
    (hpass : ∀ state, task.Moves mode state (pass state)) (state : AcquisitionState κ) :
    task.Moves mode state (unlessTimedOut pass state) := by
  unfold unlessTimedOut
  split
  · exact .refl
  · exact hpass state

/-- How far the passes over listed and guessed archives get. -/
def beforeExtra (task : AcquisitionTask) (directory : DataDirectory κ) (clock : Nat) :
    AcquisitionState κ :=
  unlessTimedOut task.guessedPass (task.listedPass (.start directory clock))

theorem moves_beforeExtra (task : AcquisitionTask) (directory : DataDirectory κ) (clock : Nat) :
    task.Moves .firstWins (.start directory clock) (task.beforeExtra directory clock) :=
  (task.moves_listedPass _).trans (moves_unlessTimedOut task.moves_guessedPass _)

theorem moves_run (task : AcquisitionTask) (directory : DataDirectory κ) (clock : Nat) :
    task.Moves .lastWins (task.beforeExtra directory clock) (task.run directory clock) :=
  moves_unlessTimedOut task.moves_extraPass _

theorem reaches_run (task : AcquisitionTask) (directory : DataDirectory κ) (clock : Nat) :
    task.Reaches (.start directory clock) (task.run directory clock) :=
  (task.moves_beforeExtra directory clock).reaches.trans (task.moves_run directory clock).reaches

theorem Reaches.preserves {task : AcquisitionTask} {property : AcquisitionState κ → Prop}
    (hstep : ∀ state next, task.Step state next → property state → property next)
    {state next : AcquisitionState κ} (hreaches : task.Reaches state next)
    (hstate : property state) : property next := by
  induction hreaches with
  | refl => exact hstate
  | tail _ hlast ih => exact hstep _ _ hlast ih

/-- What holds at the start and is preserved by every step holds after a run. -/
theorem run_induction {task : AcquisitionTask} {directory : DataDirectory κ} {clock : Nat}
    {property : AcquisitionState κ → Prop}
    (hstart : property (.start directory clock))
    (hstep : ∀ state next, task.Step state next → property state → property next) :
    property (task.run directory clock) :=
  Reaches.preserves hstep (task.reaches_run directory clock) hstart

/-! ## Obtaining an archive -/

theorem fromCache_table (task : AcquisitionTask) (state : AcquisitionState κ)
    (address : String) : (task.fromCache state address).1.table = state.table := by
  unfold fromCache
  split
  · rfl
  · split <;> rfl

theorem fromCache_journal (task : AcquisitionTask) (state : AcquisitionState κ)
    (address : String) : GoesOn state.journal (task.fromCache state address).1.journal := by
  unfold fromCache
  split
  · exact GoesOn.refl state.journal
  · split
    · exact GoesOn.concat state.journal rfl
    · exact GoesOn.concat state.journal rfl
    · exact GoesOn.refl state.journal

/-- An archive comes from the cache, or is downloaded after the cache had none. -/
theorem obtain_cases (task : AcquisitionTask) (state : AcquisitionState κ) (address : String) :
    (∃ content, (task.fromCache state address).2 = some content ∧
      task.obtain state address = ((task.fromCache state address).1, some content)) ∨
    ((task.fromCache state address).2 = none ∧
      task.obtain state address = task.download (task.fromCache state address).1 address) := by
  unfold obtain
  cases hcache : task.fromCache state address with
  | mk next found =>
      cases found with
      | some content => exact Or.inl ⟨content, rfl, rfl⟩
      | none => exact Or.inr ⟨rfl, rfl⟩

@[simp] theorem obtain_table (task : AcquisitionTask) (state : AcquisitionState κ)
    (address : String) : (task.obtain state address).1.table = state.table := by
  rcases task.obtain_cases state address with ⟨content, _, hobtain⟩ | ⟨_, hobtain⟩
  · rw [hobtain, fromCache_table]
  · rw [hobtain, download_table, fromCache_table]

theorem obtain_journal (task : AcquisitionTask) (state : AcquisitionState κ)
    (address : String) : GoesOn state.journal (task.obtain state address).1.journal := by
  have hcache := task.fromCache_journal state address
  rcases task.obtain_cases state address with ⟨content, _, hobtain⟩ | ⟨_, hobtain⟩
  · rw [hobtain]
    exact hcache
  · rw [hobtain]
    have hrequested := GoesOn.requested (task.fromCache state address).1.journal
      (.archive address)
    exact (hcache.trans hrequested).trans (task.download_journal _ address)

theorem ingest_of_open {task : AcquisitionTask} {state : AcquisitionState κ}
    (hopen : (state.checkDeadline task.plan).2 = false) (address : String)
    (country : Option Country) (mode : WriteMode) :
    task.ingest state address country mode =
      match task.obtain state address with
      | (state, none) => (state, .unavailable)
      | (state, some content) =>
        match Archive.tables? content with
        | none => (state.skipSource, .unavailable)
        | some tables =>
          let next := (state.record (.merged address country mode content)).mergeTables
            task.plan.version country mode tables
          (next, .merged (next.table.size - state.table.size)) := by
  have hcheck := AcquisitionState.checkDeadline_of_open hopen
  cases hobtain : task.obtain state address with
  | mk next found =>
      cases found with
      | none => simp only [ingest, hcheck, hobtain]
      | some content =>
          cases htables : Archive.tables? content with
          | none => simp only [ingest, hcheck, hobtain, htables]
          | some tables =>
              have htable : next.table = state.table := by
                simpa [hobtain] using task.obtain_table state address
              simp only [ingest, hcheck, hobtain, htables, htable]

theorem journal_prefix_of_reaches {task : AcquisitionTask} {state next : AcquisitionState κ}
    (hreaches : task.Reaches state next) : state.journal <+: next.journal := by
  induction hreaches with
  | refl => exact List.prefix_rfl
  | tail _ hlast ih =>
      refine ih.trans ?_
      cases hlast with
      | checked => exact List.prefix_rfl
      | listed => exact List.prefix_append _ _
      | obtained address => exact (task.obtain_journal _ address).isPrefix
      | merged address country mode content tables hobtained htables =>
          rw [AcquisitionState.mergeTables_journal]
          exact (task.obtain_journal _ address).isPrefix.trans (List.prefix_append _ _)
      | skipped => exact List.prefix_rfl
      | loaded => exact List.prefix_rfl

end AcquisitionTask

end PostalRegions
