import PostalRegions.Proofs.Acquisition.Deadline
import PostalRegions.Proofs.Acquisition.Files

/-!
# Visits to addresses

The passes over listed and over guessed archives do the same at each address: the archive that can
be had there is merged, and its country is noted if that added anything.  A visit asks the network
exactly if the cache has no copy to use, and merges exactly what can be had.  Apart from visits the
two passes only look at the clock and ask for the listing.
-/

namespace PostalRegions

namespace AcquisitionTask

variable {κ : Type} [DatabaseFormat κ]

/-! ## What can be had at an address -/

/-- The copy of an archive in the cache, if there is one that is neither too old nor damaged. -/
def cachedCopy? (task : AcquisitionTask) (state : AcquisitionState κ) (address : String) :
    Option ByteArray :=
  (archiveName? address).bind fun name =>
    match task.cache.find state.directory name (task.wall state.clock) with
    | .usable content => some content
    | _ => none

/-- The answer of the network to the next request, if it is an archive. -/
def fetchedArchive? (task : AcquisitionTask) (state : AcquisitionState κ) (address : String) :
    Option ByteArray :=
  (task.fetcher.archive state.requests address).answer.toOption.join.filter Archive.isReadable

def available? (task : AcquisitionTask) (state : AcquisitionState κ) (address : String) :
    Option ByteArray :=
  (task.cachedCopy? state address).or (task.fetchedArchive? state address)

theorem fromCache_snd (task : AcquisitionTask) (state : AcquisitionState κ) (address : String) :
    (task.fromCache state address).2 = task.cachedCopy? state address := by
  unfold fromCache cachedCopy?
  cases archiveName? address with
  | none => rfl
  | some name =>
      have hfind := task.cache.load_snd state.directory name (task.wall state.clock)
      cases hload : task.cache.load state.directory name (task.wall state.clock) with
      | mk directory copy =>
          rw [hload] at hfind
          simp only [Option.bind_some, ← hfind, hload]
          cases copy <;> rfl

omit [DatabaseFormat κ] in
theorem download_snd (task : AcquisitionTask) (state : AcquisitionState κ) (address : String) :
    (task.download state address).2 = task.fetchedArchive? state address := by
  unfold download fetchedArchive?
  dsimp only
  cases (task.fetcher.archive state.requests address).answer with
  | error cause => rfl
  | ok found =>
      cases found with
      | none => rfl
      | some content =>
          by_cases hreadable : Archive.isReadable content = true
          · simp [Except.toOption, Option.filter, hreadable]
          · simp [Except.toOption, Option.filter, hreadable]

omit [DatabaseFormat κ] in
theorem fetchedArchive?_congr {task : AcquisitionTask} {state next : AcquisitionState κ}
    (hrequests : next.requests = state.requests) (address : String) :
    task.fetchedArchive? next address = task.fetchedArchive? state address := by
  unfold fetchedArchive?
  rw [hrequests]

theorem obtain_snd (task : AcquisitionTask) (state : AcquisitionState κ) (address : String) :
    (task.obtain state address).2 = task.available? state address := by
  unfold available?
  rw [← task.fromCache_snd]
  rcases task.obtain_cases state address with ⟨content, hcached, hobtain⟩ | ⟨hnone, hobtain⟩
  · rw [hobtain, hcached]
    rfl
  · rw [hobtain, hnone, download_snd,
      fetchedArchive?_congr (task.idles_fromCache state address).requests]
    rfl

theorem isReadable_of_available? {task : AcquisitionTask} {state : AcquisitionState κ}
    {address : String} {content : ByteArray}
    (havailable : task.available? state address = some content) :
    Archive.isReadable content = true := by
  rcases Option.or_eq_some_iff.mp havailable with hcached | ⟨-, hfetched⟩
  · obtain ⟨name, -, hcopy⟩ := Option.bind_eq_some_iff.mp hcached
    unfold ArchiveCache.find at hcopy
    split at hcopy
    · rename_i found hfind
      split at hfind
      · cases hfind
      · split at hfind
        · cases hfind
        · split at hfind
          · cases hfind
            cases hcopy
            assumption
          · cases hfind
    · cases hcopy
  · exact (Option.filter_eq_some_iff.mp hfetched).2

/-! ## What is asked -/

omit [DatabaseFormat κ] in
theorem requests_download (task : AcquisitionTask) (state : AcquisitionState κ)
    (address : String) :
    (task.download state address).1.requests = state.requests ++ [.archive address] := by
  have hasked : ((state.record (.requested (.archive address))).wait
      (task.fetcher.archive state.requests address).elapsed).requests =
        state.requests ++ [.archive address] := by
    exact List.filterMap_append
  unfold download
  dsimp only
  split
  · exact hasked
  · exact hasked
  · split
    · exact (task.idles_keep _ address _).requests.trans hasked
    · exact hasked

theorem requests_obtain (task : AcquisitionTask) (state : AcquisitionState κ)
    (address : String) :
    (task.obtain state address).1.requests = state.requests ++
      if (task.cachedCopy? state address).isSome then [] else [.archive address] := by
  have hidle := (task.idles_fromCache state address).requests
  rw [← task.fromCache_snd]
  rcases task.obtain_cases state address with ⟨content, hcached, hobtain⟩ | ⟨hnone, hobtain⟩
  · simp [hobtain, hcached, hidle]
  · simp [hobtain, hnone, requests_download, hidle]

omit [DatabaseFormat κ] in
theorem merges_of_goesOn {state next : AcquisitionState κ}
    (hnext : GoesOn state.journal next.journal) : next.merges = state.merges := by
  obtain ⟨events, hjournal, hevents⟩ := hnext
  have hquiet : events.filter AcquisitionEvent.isMerge = [] := by
    apply List.filter_eq_nil_iff.mpr
    intro event hevent
    simp [hevents event hevent]
  rw [AcquisitionState.merges, hjournal, List.filter_append, hquiet, List.append_nil]
  rfl

/-! ## A visit -/

omit [DatabaseFormat κ] in
theorem noteLoaded_journal (state : AcquisitionState κ) (country : Country) (added : Nat) :
    (noteLoaded state country added).journal = state.journal := by
  unfold noteLoaded
  split
  · rfl
  · rfl

def visit (task : AcquisitionTask) (country : Country) (state : AcquisitionState κ)
    (address : String) : AcquisitionState κ :=
  match task.ingest state address (some country) .firstWins with
  | (next, .merged added) => noteLoaded next country added
  | (next, _) => next

/-- What a visit can come to. -/
inductive VisitCourse (task : AcquisitionTask) (country : Country) (state : AcquisitionState κ)
    (address : String) : Prop
  | late (hlate : (state.checkDeadline task.plan).2 = true)
      (houtcome : (task.ingest state address (some country) .firstWins).2 = .deadline)
      (hvisit : task.visit country state address = (state.checkDeadline task.plan).1)
  | missed (hnone : task.available? state address = none)
      (houtcome : (task.ingest state address (some country) .firstWins).2 = .unavailable)
      (hvisit : task.visit country state address = (task.obtain state address).1)
  | found (content : ByteArray) (tables : List Archive.ArchiveTable) (merged : AcquisitionState κ)
      (added : Nat) (hfound : task.available? state address = some content)
      (htables : Archive.tables? content = some tables)
      (hmerged : merged = ((task.obtain state address).1.record
        (.merged address (some country) .firstWins content)).mergeTables task.plan.version
          (some country) .firstWins tables)
      (hadded : added = merged.table.size - state.table.size)
      (houtcome : (task.ingest state address (some country) .firstWins).2 = .merged added)
      (hvisit : task.visit country state address = noteLoaded merged country added)

theorem visitCourse (task : AcquisitionTask) (country : Country) (state : AcquisitionState κ)
    (address : String) : task.VisitCourse country state address := by
  cases hcheck : (state.checkDeadline task.plan).2 with
  | true =>
      have hingest : task.ingest state address (some country) .firstWins =
          ((state.checkDeadline task.plan).1, .deadline) := by
        rw [ingest]
        split
        · rename_i checked hchecked
          rw [hchecked]
        · rename_i checked hchecked
          rw [hchecked] at hcheck
          cases hcheck
      exact .late hcheck (by rw [hingest]) (by rw [visit, hingest])
  | false =>
      have hingest := ingest_of_open hcheck address (some country) .firstWins
      have hobtained := task.obtain_snd state address
      cases hobtain : task.obtain state address with
      | mk next found =>
          rw [hobtain] at hingest hobtained
          cases found with
          | none =>
              exact .missed hobtained.symm (by rw [hingest]) (by rw [visit, hingest, hobtain])
          | some content =>
              have hreadable := isReadable_of_available? hobtained.symm
              rw [← Archive.tables?_isSome] at hreadable
              obtain ⟨tables, htables⟩ := Option.isSome_iff_exists.mp hreadable
              have htable : next.table = state.table := by
                simpa [hobtain] using task.obtain_table state address
              simp only [htables, htable] at hingest
              exact .found content tables _ _ hobtained.symm htables (by rw [hobtain]) rfl
                (by rw [hingest]) (by rw [visit, hingest])

theorem reaches_visit (task : AcquisitionTask) (country : Country) (state : AcquisitionState κ)
    (address : String) : task.Reaches state (task.visit country state address) := by
  have hingest := task.reaches_ingest state address (some country) .firstWins
  unfold visit
  split
  · rename_i next added hresult
    rw [hresult] at hingest
    exact hingest.trans (task.moves_noteLoaded .firstWins next country added).reaches
  · rename_i next outcome _ hresult
    rw [hresult] at hingest
    exact hingest

/-! ## The passes as visits -/

theorem ingestListed_cons {country : Country} {address : String}
    (hcountry : countryOfArchive? address = some country) (task : AcquisitionTask)
    (rest : List String) (state : AcquisitionState κ) :
    task.ingestListed (address :: rest) state =
      if (task.ingest state address (some country) .firstWins).2 = .deadline
      then task.visit country state address
      else task.ingestListed rest (task.visit country state address) := by
  rw [ingestListed, hcountry, visit]
  dsimp only
  cases task.ingest state address (some country) .firstWins with
  | mk next outcome => cases outcome <;> simp

theorem ingestGuessed_cons (task : AcquisitionTask) (country : Country) (address : String)
    (rest : List String) (state : AcquisitionState κ) :
    task.ingestGuessed country (address :: rest) state =
      if (task.ingest state address (some country) .firstWins).2 = .unavailable
      then task.ingestGuessed country rest (task.visit country state address)
      else task.visit country state address := by
  rw [ingestGuessed, visit]
  cases task.ingest state address (some country) .firstWins with
  | mk next outcome => cases outcome <;> simp

/-! ## The first two passes step by step -/

inductive VisitStep (task : AcquisitionTask) : AcquisitionState κ → AcquisitionState κ → Prop
  | checked (state : AcquisitionState κ) : VisitStep task state (state.checkDeadline task.plan).1
  | listed (state : AcquisitionState κ) :
      VisitStep task state
        ((state.record (.requested (.listing task.plan.baseAddress))).wait
          (task.fetcher.listing state.requests task.plan.baseAddress).elapsed)
  | visited (state : AcquisitionState κ) (country : Country) (address : String) :
      VisitStep task state (task.visit country state address)

abbrev VisitsTo (task : AcquisitionTask) (state next : AcquisitionState κ) : Prop :=
  Relation.ReflTransGen task.VisitStep state next

theorem visitsTo_visit (task : AcquisitionTask) (country : Country) (state : AcquisitionState κ)
    (address : String) : task.VisitsTo state (task.visit country state address) :=
  .single (.visited state country address)

theorem visitsTo_ingestListed (task : AcquisitionTask) (addresses : List String)
    (state : AcquisitionState κ) : task.VisitsTo state (task.ingestListed addresses state) := by
  induction addresses generalizing state with
  | nil => exact .refl
  | cons address rest ih =>
      cases hcountry : countryOfArchive? address with
      | none =>
          rw [ingestListed, hcountry]
          exact ih state
      | some country =>
          have hvisit := task.visitsTo_visit country state address
          rw [ingestListed_cons hcountry]
          split
          · exact hvisit
          · exact hvisit.trans (ih (task.visit country state address))

theorem visitsTo_listedPass (task : AcquisitionTask) (state : AcquisitionState κ) :
    task.VisitsTo state (task.listedPass state) := by
  have hchecked : task.VisitsTo state (state.checkDeadline task.plan).1 := .single (.checked state)
  unfold listedPass
  split
  · rename_i checked hcheck
    rw [hcheck] at hchecked
    exact hchecked
  · rename_i checked hcheck
    rw [hcheck] at hchecked
    have hlisted := hchecked.tail (.listed checked)
    dsimp only
    split
    · exact hlisted
    · exact hlisted.trans (task.visitsTo_ingestListed _ _)

theorem visitsTo_ingestGuessed (task : AcquisitionTask) (country : Country)
    (addresses : List String) (state : AcquisitionState κ) :
    task.VisitsTo state (task.ingestGuessed country addresses state) := by
  induction addresses generalizing state with
  | nil => exact .refl
  | cons address rest ih =>
      have hvisit := task.visitsTo_visit country state address
      rw [ingestGuessed_cons]
      split
      · exact hvisit.trans (ih (task.visit country state address))
      · exact hvisit

theorem visitsTo_ingestCountries (task : AcquisitionTask) (countries : List Country)
    (state : AcquisitionState κ) : task.VisitsTo state (task.ingestCountries countries state) := by
  induction countries generalizing state with
  | nil => exact .refl
  | cons country rest ih =>
      have hguessed := task.visitsTo_ingestGuessed country
        (guessedAddresses task.plan.baseAddress task.plan.version country) state
      rw [ingestCountries]
      split
      · exact hguessed
      · exact hguessed.trans (ih _)

theorem visitsTo_beforeExtra (task : AcquisitionTask) (directory : DataDirectory κ)
    (clock : Nat) : task.VisitsTo (.start directory clock) (task.beforeExtra directory clock) := by
  have hlisted := task.visitsTo_listedPass (.start directory clock)
  unfold beforeExtra unlessTimedOut
  split
  · exact hlisted
  · exact hlisted.trans (task.visitsTo_ingestCountries _ _)

theorem VisitsTo.preserves {task : AcquisitionTask} {state next : AcquisitionState κ}
    {property : AcquisitionState κ → Prop}
    (hstep : ∀ state next, task.VisitStep state next → property state → property next)
    (hvisits : task.VisitsTo state next) (hstate : property state) : property next := by
  induction hvisits with
  | refl => exact hstate
  | tail _ hlast ih => exact hstep _ _ hlast ih

/-- The configured countries that are not loaded, as often as they are configured. -/
def missingCountries (task : AcquisitionTask) (state : AcquisitionState κ) : List Country :=
  task.plan.countries.filter fun country => !state.report.loadedCountries.contains country

omit [DatabaseFormat κ] in
theorem mem_missingCountries {task : AcquisitionTask} {state : AcquisitionState κ}
    {country : Country} : country ∈ task.missingCountries state ↔
      country ∈ task.plan.countries ∧ country ∉ state.report.loadedCountries := by
  rw [missingCountries, List.mem_filter, Std.ExtTreeSet.mem_iff_contains]
  simp only [Bool.not_eq_true', Bool.not_eq_true]

end AcquisitionTask

end PostalRegions
