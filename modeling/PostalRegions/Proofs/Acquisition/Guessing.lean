import PostalRegions.Confidence.Rational
import PostalRegions.Proofs.Acquisition.Visits
import PostalRegions.Snapshot.Pages

/-!
# Guessing addresses

For each configured country that the listed archives did not load, the guessed addresses are visited
in their order up to the first one at which an archive can be had, or all of them if there is none.
The pass over guessed archives is made of these searches, one for each time that such a country is
configured, and of nothing else.
-/

namespace PostalRegions

namespace AcquisitionTask

variable {κ : Type} [DatabaseFormat κ] {task : AcquisitionTask} {country : Country}
  {state next : AcquisitionState κ}
  {address : String} {addresses visited : List String}

theorem isLate_of_step (hstep : task.Step state next) (hlate : state.report.timedOut = true) :
    next.report.timedOut = true := by
  cases hstep with
  | checked =>
      change (state.report.timedOut || _) = true
      rw [hlate, Bool.true_or]
  | listed => exact hlate
  | obtained address => rw [(asks_obtain _ state address).timedOut_eq, hlate]
  | merged address country mode content tables hobtained htables =>
      rw [(Idles.mergeTables ..).timedOut]
      exact (asks_obtain _ state address).timedOut_eq.trans hlate
  | skipped => exact hlate
  | loaded => exact hlate

/-- Once the deadline is noted, it stays noted. -/
theorem isOpen_of_reaches_isOpen (hreaches : task.Reaches state next)
    (hopen : next.report.timedOut = false) : state.report.timedOut = false := by
  rw [← Bool.not_eq_true]
  intro hlate
  rw [Reaches.preserves (fun _ _ => isLate_of_step) hreaches hlate] at hopen
  cases hopen

/-! ## What a visit leaves in the journal -/

/-- The network is asked for the archive exactly if the cache has no copy to use, and what can be
had is merged for the country. -/
structure Ingests (task : AcquisitionTask) (country : Country) (state : AcquisitionState κ)
    (address : String) : Prop where
  requests : (task.visit country state address).requests = state.requests ++
    if (task.cachedCopy? state address).isSome then [] else [.archive address]
  merges : (task.visit country state address).merges = state.merges ++
    ((task.available? state address).map fun content =>
      .merged address (some country) .firstWins content).toList

theorem ingests_of_missed (hnone : task.available? state address = none)
    (hvisit : task.visit country state address = (task.obtain state address).1) :
    task.Ingests country state address := by
  constructor
  · rw [hvisit, requests_obtain]
  · rw [hvisit, hnone, merges_of_goesOn (task.obtain_journal state address)]
    simp

theorem ingests_of_found {content : ByteArray}
    (hfound : task.available? state address = some content)
    (hjournal : (task.visit country state address).journal =
      (task.obtain state address).1.journal ++
        [.merged address (some country) .firstWins content]) :
    task.Ingests country state address := by
  have hrequests := task.requests_obtain state address
  have hmerges := merges_of_goesOn (task.obtain_journal state address)
  unfold AcquisitionState.requests at hrequests
  unfold AcquisitionState.merges at hmerges
  constructor
  · rw [AcquisitionState.requests, hjournal, List.filterMap_append, hrequests]
    simp [AcquisitionState.requests, AcquisitionEvent.request?]
  · rw [AcquisitionState.merges, hjournal, List.filter_append, hmerges, hfound]
    simp [AcquisitionState.merges, AcquisitionEvent.isMerge]

/-! ## One search -/

def visitAll (task : AcquisitionTask) (country : Country) (state : AcquisitionState κ)
    (addresses : List String) : AcquisitionState κ :=
  addresses.foldl (task.visit country) state

/-- A search for the archive of a country visits some of the addresses: the first ones, up to one at
which an archive can be had, or all of them. -/
structure StopsAtFirst (task : AcquisitionTask) (country : Country)
    (addresses visited : List String) (state : AcquisitionState κ) : Prop where
  initial : visited <+: addresses
  ingests : ∀ before address after, visited = before ++ address :: after →
    task.Ingests country (task.visitAll country state before) address
  missed : ∀ before address after, visited = before ++ address :: after → after ≠ [] →
    task.available? (task.visitAll country state before) address = none
  found : visited ≠ addresses → ∃ before address, visited = before ++ [address] ∧
    (task.available? (task.visitAll country state before) address).isSome = true

namespace StopsAtFirst

theorem nil (state : AcquisitionState κ) : task.StopsAtFirst country [] [] state := by
  constructor <;> simp

theorem stop (rest : List String) (hingests : task.Ingests country state address)
    (hfound : (task.available? state address).isSome = true) :
    task.StopsAtFirst country (address :: rest) [address] state := by
  have hsplit {before after : List String} {other : String}
      (hvisited : [address] = before ++ other :: after) :
      before = [] ∧ other = address ∧ after = [] := by
    simpa [eq_comm] using List.singleton_eq_append_iff.mp hvisited
  constructor
  · exact ⟨rest, rfl⟩
  · intro before other after hvisited
    obtain ⟨rfl, rfl, rfl⟩ := hsplit hvisited
    exact hingests
  · intro before other after hvisited hafter
    exact absurd (hsplit hvisited).2.2 hafter
  · intro _
    exact ⟨[], address, rfl, hfound⟩

theorem cons (hingests : task.Ingests country state address)
    (hnone : task.available? state address = none)
    (hrest : task.StopsAtFirst country addresses visited (task.visit country state address)) :
    task.StopsAtFirst country (address :: addresses) (address :: visited) state := by
  constructor
  · exact List.cons_prefix_cons.mpr ⟨rfl, hrest.initial⟩
  · intro before other after hvisited
    rcases List.cons_eq_append_iff.mp hvisited with ⟨rfl, hother⟩ | ⟨earlier, rfl, hother⟩
    · cases hother
      exact hingests
    · exact hrest.ingests earlier other after hother
  · intro before other after hvisited hafter
    rcases List.cons_eq_append_iff.mp hvisited with ⟨rfl, hother⟩ | ⟨earlier, rfl, hother⟩
    · cases hother
      exact hnone
    · exact hrest.missed earlier other after hother hafter
  · intro hfewer
    have hrestFewer : visited ≠ addresses := by
      rintro rfl
      exact hfewer rfl
    obtain ⟨before, other, rfl, hfound⟩ := hrest.found hrestFewer
    exact ⟨address :: before, other, rfl, hfound⟩

end StopsAtFirst

theorem exists_stopsAtFirst
    (hopen : (task.ingestGuessed country addresses state).report.timedOut = false) :
    ∃ visited, task.StopsAtFirst country addresses visited state ∧
      task.ingestGuessed country addresses state = task.visitAll country state visited := by
  induction addresses generalizing state with
  | nil => exact ⟨[], .nil state, rfl⟩
  | cons address rest ih =>
      rw [ingestGuessed_cons] at hopen ⊢
      cases task.visitCourse country state address with
      | late hlate houtcome hvisit =>
          rw [if_neg (by simp [houtcome]), hvisit] at hopen
          exact absurd (hlate.symm.trans hopen) (by simp)
      | missed hnone houtcome hvisit =>
          rw [if_pos houtcome] at hopen ⊢
          obtain ⟨visited, hstops, hvisits⟩ := ih hopen
          exact ⟨address :: visited, .cons (ingests_of_missed hnone hvisit) hnone hstops, hvisits⟩
      | found content tables merged added hfound htables hmerged hadded houtcome hvisit =>
          rw [if_neg (by simp [houtcome])]
          have hingests : task.Ingests country state address := by
            apply ingests_of_found hfound
            rw [hvisit, noteLoaded_journal, hmerged, AcquisitionState.mergeTables_journal,
              AcquisitionState.record_journal]
          exact ⟨[address], .stop rest hingests (by simp [hfound]), rfl⟩

/-! ## The searches of a run -/

def visitSearches (task : AcquisitionTask) (state : AcquisitionState κ)
    (searches : List (Country × List String)) : AcquisitionState κ :=
  searches.foldl (fun state search => task.visitAll search.1 state search.2) state

/-- A list of searches, each for a country and with the visited addresses, that an acquisition makes
from a state on, each in the state that the ones before it led to. -/
structure Searches (task : AcquisitionTask) (countries : List Country)
    (searches : List (Country × List String)) (state : AcquisitionState κ) : Prop where
  countries_eq : searches.map Prod.fst = countries
  stopsAtFirst : ∀ before country visited after, searches = before ++ (country, visited) :: after →
    task.StopsAtFirst country
      (guessedAddresses task.plan.baseAddress task.plan.version country) visited
      (task.visitSearches state before)

theorem Searches.cons {countries : List Country} {searches : List (Country × List String)}
    (hstops : task.StopsAtFirst country
      (guessedAddresses task.plan.baseAddress task.plan.version country) visited state)
    (hrest : task.Searches countries searches (task.visitAll country state visited)) :
    task.Searches (country :: countries) ((country, visited) :: searches) state := by
  constructor
  · rw [List.map_cons, hrest.countries_eq]
  · intro before other otherVisited after hsearches
    rcases List.cons_eq_append_iff.mp hsearches with ⟨rfl, hother⟩ | ⟨earlier, rfl, hother⟩
    · cases hother
      exact hstops
    · exact hrest.stopsAtFirst earlier other otherVisited after hother

theorem exists_searches {countries : List Country}
    (hopen : (task.ingestCountries countries state).report.timedOut = false) :
    ∃ searches, task.Searches countries searches state ∧
      task.ingestCountries countries state = task.visitSearches state searches := by
  induction countries generalizing state with
  | nil => exact ⟨[], ⟨rfl, by simp⟩, rfl⟩
  | cons country rest ih =>
      rw [ingestCountries] at hopen ⊢
      split at hopen
      · rename_i hlate
        rw [hlate] at hopen
        cases hopen
      · rename_i hnotLate
        have hguessed : (task.ingestGuessed country
            (guessedAddresses task.plan.baseAddress task.plan.version country)
            state).report.timedOut = false := by
          simpa using hnotLate
        obtain ⟨visited, hstops, hvisits⟩ := exists_stopsAtFirst hguessed
        rw [if_neg hnotLate]
        rw [hvisits] at hopen ⊢
        obtain ⟨searches, hsearches, hstate⟩ := ih hopen
        exact ⟨(country, visited) :: searches, .cons hstops hsearches, hstate⟩

/-- If the deadline does not cut off the guessed archives, an acquisition does after the listed
archives just the searches for the configured countries that these did not load. -/
theorem searches_missingCountries (task : AcquisitionTask) (directory : DataDirectory κ)
    (clock : Nat) (hopen : (task.beforeExtra directory clock).report.timedOut = false) :
    ∃ searches,
      task.Searches (task.missingCountries (task.listedPass (.start directory clock))) searches
        (task.listedPass (.start directory clock)) ∧
      task.beforeExtra directory clock =
        task.visitSearches (task.listedPass (.start directory clock)) searches ∧
      ∀ search ∈ searches,
        search.1 ∉ (task.listedPass (.start directory clock)).report.loadedCountries := by
  have hlisted := isOpen_of_reaches_isOpen
    (moves_unlessTimedOut task.moves_guessedPass _).reaches hopen
  have hguessed : task.beforeExtra directory clock =
      task.ingestCountries (task.missingCountries (task.listedPass (.start directory clock)))
        (task.listedPass (.start directory clock)) :=
    unlessTimedOut_of_isOpen hlisted
  rw [hguessed] at hopen ⊢
  obtain ⟨searches, hsearches, hstate⟩ := exists_searches hopen
  refine ⟨searches, hsearches, hstate, ?_⟩
  intro search hsearch
  have hmissing : search.1 ∈ searches.map Prod.fst := List.mem_map_of_mem hsearch
  rw [hsearches.countries_eq] at hmissing
  exact (mem_missingCountries.mp hmissing).2

/-- An acquisition for Greece, which is configured twice.  Its first archive does not exist, the
second one is damaged, and the third one can be had. -/
def twiceConfigured : AcquisitionTask where
  plan := ⟨"https://host", "2024", [.greece, .greece], [], none⟩
  fetcher :=
    { archive := fun _ address =>
        ⟨.ok (if address = "https://host/pc2025_EL_NUTS-2024_v1.0.zip" then none
          else if address = "https://host/pc2025_EL_NUTS-2024_v2.0.zip" then some ⟨#[]⟩
          else some (Archive.ofTable ⟨"empty.csv", ""⟩)), 0⟩
      listing := fun _ _ => ⟨.error .network, 0⟩ }
  cache := ⟨"archives", 1⟩
  wall := fun _ => ⟨0, 0⟩

/-- The second search finds the third archive in the cache. -/
theorem twiceConfigured_searches :
    (twiceConfigured.beforeExtra (.empty : DataDirectory Rat) 0).requests =
        [.listing "https://host", .archive "https://host/pc2025_EL_NUTS-2024_v1.0.zip",
          .archive "https://host/pc2025_EL_NUTS-2024_v2.0.zip",
          .archive "https://host/pc2025_EL_NUTS-2024_v3.0.zip",
          .archive "https://host/pc2025_EL_NUTS-2024_v1.0.zip",
          .archive "https://host/pc2025_EL_NUTS-2024_v2.0.zip"] ∧
      ∃ searches,
        twiceConfigured.Searches [.greece, .greece] searches
          (twiceConfigured.listedPass (.start (.empty : DataDirectory Rat) 0)) ∧
        twiceConfigured.beforeExtra (.empty : DataDirectory Rat) 0 =
          twiceConfigured.visitSearches
            (twiceConfigured.listedPass (.start (.empty : DataDirectory Rat) 0)) searches := by
  have hrun :
      (twiceConfigured.beforeExtra (.empty : DataDirectory Rat) 0).report.timedOut = false ∧
        twiceConfigured.missingCountries
          (twiceConfigured.listedPass (.start (.empty : DataDirectory Rat) 0)) =
            [.greece, .greece] ∧
        (twiceConfigured.beforeExtra (.empty : DataDirectory Rat) 0).requests =
          [.listing "https://host", .archive "https://host/pc2025_EL_NUTS-2024_v1.0.zip",
            .archive "https://host/pc2025_EL_NUTS-2024_v2.0.zip",
            .archive "https://host/pc2025_EL_NUTS-2024_v3.0.zip",
            .archive "https://host/pc2025_EL_NUTS-2024_v1.0.zip",
            .archive "https://host/pc2025_EL_NUTS-2024_v2.0.zip"] := by
    decide +kernel
  obtain ⟨hopen, hmissing, hrequests⟩ := hrun
  obtain ⟨searches, hsearches, hstate, -⟩ :=
    twiceConfigured.searches_missingCountries (.empty : DataDirectory Rat) 0 hopen
  rw [hmissing] at hsearches
  exact ⟨hrequests, searches, hsearches, hstate⟩

end AcquisitionTask

end PostalRegions
