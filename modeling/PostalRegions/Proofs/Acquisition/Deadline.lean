import PostalRegions.Proofs.Acquisition.Clock
import PostalRegions.Proofs.Acquisition.Filing

/-!
# What a deadline changes

A deadline cuts an acquisition short and changes nothing else.  Beside the acquisition with the
deadline stands the same one without it: they do the same until the first one comes to a look at
the clock that is too late, and there the first one stops.
-/

namespace PostalRegions

/-! ## Nothing is asked after the deadline -/

namespace AcquisitionTask

variable {κ : Type}

/-- The clock tells the time of the requests, and each was made before the deadline. -/
structure InTime (task : AcquisitionTask) (clock deadline : Nat) (state : AcquisitionState κ) :
    Prop where
  tellsTime : task.TellsTime clock state
  before_deadline : ∀ earlier request, earlier ++ [request] <+: state.requests →
    task.fetcher.clockAfter clock earlier < deadline

variable {task : AcquisitionTask} {mode : WriteMode} {clock deadline : Nat}
  {state next : AcquisitionState κ}

theorem InTime.asks (hstate : task.InTime clock deadline state)
    (hasks : Asks task.fetcher state next) (hopen : state.clock < deadline) :
    task.InTime clock deadline next := by
  refine ⟨hstate.tellsTime.asks hasks, ?_⟩
  cases hasks with
  | nothing hidle =>
      rw [hidle.requests]
      exact hstate.before_deadline
  | request last hrequests _ _ =>
      intro earlier request hprefix
      rw [hrequests, List.prefix_concat_iff] at hprefix
      -- Only the last request is new, and it was made at the time that the clock showed.
      rcases hprefix with hlast | hearlier
      · obtain ⟨rfl, _⟩ := List.append_inj' hlast rfl
        rw [← hstate.tellsTime]
        exact hopen
      · exact hstate.before_deadline earlier request hearlier

theorem InTime.asks_open (hdeadline : task.plan.deadline = some deadline)
    (hstate : task.InTime clock deadline state)
    (hopen : (state.checkDeadline task.plan).2 = false)
    (hasks : Asks task.fetcher (state.checkDeadline task.plan).1 next) :
    task.InTime clock deadline next := by
  have hchecked : task.InTime clock deadline (state.checkDeadline task.plan).1 :=
    ⟨hstate.tellsTime, hstate.before_deadline⟩
  simp only [AcquisitionState.checkDeadline, hdeadline, Bool.or_eq_false_iff,
    decide_eq_false_iff_not] at hopen
  exact hchecked.asks hasks (Nat.lt_of_not_le hopen.2)

variable [DatabaseFormat κ]

theorem inTime_of_move (hdeadline : task.plan.deadline = some deadline)
    (hmove : task.Move mode state next) (hstate : task.InTime clock deadline state) :
    task.InTime clock deadline next := by
  cases hmove with
  | checked => exact ⟨hstate.tellsTime, hstate.before_deadline⟩
  | listed hopen => exact hstate.asks_open hdeadline hopen (.requested task.fetcher _ _)
  | ingested address country =>
      have hobtained := task.asks_obtain (state.checkDeadline task.plan).1 address
      cases task.ingestCourse state address country mode with
      | late _ hresult =>
          rw [hresult]
          exact ⟨hstate.tellsTime, hstate.before_deadline⟩
      | unavailable hopen hresult =>
          rw [hresult]
          exact hstate.asks_open hdeadline hopen hobtained
      | unreadable hopen hresult =>
          rw [hresult]
          exact hstate.asks_open hdeadline hopen (hobtained.before ⟨rfl, rfl, rfl⟩)
      | merged hopen content tables merged _ _ hnext hresult =>
          have hmerged : Asks task.fetcher (state.checkDeadline task.plan).1 merged := by
            rw [hnext]
            exact hobtained.before ((Idles.record rfl _).trans (.mergeTables ..))
          rw [hresult]
          exact hstate.asks_open hdeadline hopen hmerged
  | skipped => exact ⟨hstate.tellsTime, hstate.before_deadline⟩
  | loaded => exact ⟨hstate.tellsTime, hstate.before_deadline⟩

theorem inTime_of_moves (hdeadline : task.plan.deadline = some deadline)
    (hmoves : task.Moves mode state next) (hstate : task.InTime clock deadline state) :
    task.InTime clock deadline next := by
  induction hmoves with
  | refl => exact hstate
  | tail _ hlast ih => exact inTime_of_move hdeadline hlast ih

theorem inTime_run (task : AcquisitionTask) (hdeadline : task.plan.deadline = some deadline)
    (directory : DataDirectory κ) (clock : Nat) :
    task.InTime clock deadline (task.run directory clock) := by
  have hstart : task.InTime clock deadline (AcquisitionState.start directory clock) := by
    refine ⟨rfl, ?_⟩
    intro earlier request hprefix
    have hnone := List.prefix_nil.mp hprefix
    simp at hnone
  exact inTime_of_moves hdeadline (task.moves_run directory clock)
    (inTime_of_moves hdeadline (task.moves_beforeExtra directory clock) hstart)

/-! ## Whether there is any time -/

variable {directory : DataDirectory κ}

/-- Whatever begins at its deadline acquires nothing. -/
theorem table_run_of_late
    (hlate : ((AcquisitionState.start directory clock).checkDeadline task.plan).2 = true) :
    (task.run directory clock).table = ∅ := by
  have hlisted : task.listedPass (.start directory clock) =
      ((AcquisitionState.start directory clock).checkDeadline task.plan).1 := by
    unfold listedPass
    split
    · rename_i hcheck
      rw [hcheck]
    · rename_i hcheck
      rw [hcheck] at hlate
      cases hlate
  have hcut (pass : AcquisitionState κ → AcquisitionState κ) :
      unlessTimedOut pass ((AcquisitionState.start directory clock).checkDeadline task.plan).1 =
        ((AcquisitionState.start directory clock).checkDeadline task.plan).1 :=
    if_pos hlate
  unfold run
  dsimp only
  rw [hlisted, hcut, hcut]
  rfl

/-- Whatever begins before its deadline asks for the listing. -/
theorem requests_run_ne_nil
    (hopen : ((AcquisitionState.start directory clock).checkDeadline task.plan).2 = false) :
    (task.run directory clock).requests ≠ [] := by
  have hasked : .listing task.plan.baseAddress ∈
      (task.listedPass (.start directory clock)).requests := by
    have hrecorded : .listing task.plan.baseAddress ∈
        (((AcquisitionState.start directory clock).record
          (.requested (.listing task.plan.baseAddress))).wait
            (task.fetcher.listing [] task.plan.baseAddress).elapsed).requests :=
      List.mem_singleton_self _
    unfold listedPass
    rw [AcquisitionState.checkDeadline_of_open hopen]
    dsimp only
    split
    · exact hrecorded
    · rename_i page _
      have hpass := journal_prefix_of_reaches (task.moves_ingestListed
        (archiveLinks page task.plan.baseAddress)
        (((AcquisitionState.start directory clock).record
          (.requested (.listing task.plan.baseAddress))).wait
            (task.fetcher.listing [] task.plan.baseAddress).elapsed)).reaches
      exact (hpass.filterMap AcquisitionEvent.request?).subset hrecorded
  have hlater : (task.listedPass (.start directory clock)).journal <+:
      (task.run directory clock).journal :=
    journal_prefix_of_reaches ((moves_unlessTimedOut task.moves_guessedPass _).reaches.trans
      (task.moves_run directory clock).reaches)
  exact List.ne_nil_of_mem ((hlater.filterMap AcquisitionEvent.request?).subset hasked)

/-! ## The acquisition without a deadline -/

def endingAt (task : AcquisitionTask) (deadline : Nat) : AcquisitionTask :=
  { task with plan := { task.plan with deadline := some deadline } }

def unhurried (task : AcquisitionTask) : AcquisitionTask :=
  { task with plan := { task.plan with deadline := none } }

theorem isOpen_of_step (hstep : task.unhurried.Step state next)
    (hopen : state.report.timedOut = false) : next.report.timedOut = false := by
  cases hstep with
  | checked =>
      change (state.report.timedOut || false) = false
      rw [hopen]
      rfl
  | listed => exact hopen
  | obtained address => rw [(asks_obtain _ state address).timedOut_eq, hopen]
  | merged address country mode content tables hobtained htables =>
      rw [(Idles.mergeTables ..).timedOut]
      change (task.unhurried.obtain state address).1.report.timedOut = false
      rw [(asks_obtain _ state address).timedOut_eq, hopen]
  | skipped => exact hopen
  | loaded => exact hopen

theorem isOpen_of_reaches (hreaches : task.unhurried.Reaches state next)
    (hopen : state.report.timedOut = false) : next.report.timedOut = false := by
  have hstep : ∀ state next : AcquisitionState κ, task.unhurried.Step state next →
      state.report.timedOut = false → next.report.timedOut = false :=
    fun _ _ => isOpen_of_step
  exact Reaches.preserves hstep hreaches hopen

end AcquisitionTask

/-! ## Side by side -/

namespace AcquisitionState

variable {κ : Type}

/-- The state with the note that the deadline was reached. -/
def cutShort (state : AcquisitionState κ) : AcquisitionState κ :=
  { state with report := { state.report with timedOut := true } }

theorem checkDeadline_of_none {state : AcquisitionState κ} {plan : AcquisitionPlan}
    (hnone : plan.deadline = none) (hopen : state.report.timedOut = false) :
    state.checkDeadline plan = (state, false) := by
  obtain ⟨clock, journal, directory, table, report⟩ := state
  obtain ⟨loaded, parsed, skipped, rows, sources, timedOut⟩ := report
  change timedOut = false at hopen
  subst timedOut
  simp [checkDeadline, hnone]

theorem checkDeadline_unhurried {state : AcquisitionState κ}
    (hopen : state.report.timedOut = false) (task : AcquisitionTask) :
    state.checkDeadline task.unhurried.plan = (state, false) :=
  checkDeadline_of_none rfl hopen

theorem checkDeadline_endingAt {state : AcquisitionState κ}
    (hopen : state.report.timedOut = false) (task : AcquisitionTask) (deadline : Nat) :
    state.checkDeadline (task.endingAt deadline).plan =
      if deadline ≤ state.clock then (state.cutShort, true) else (state, false) := by
  obtain ⟨clock, journal, directory, table, report⟩ := state
  obtain ⟨loaded, parsed, skipped, rows, sources, timedOut⟩ := report
  change timedOut = false at hopen
  subst timedOut
  split
  · rename_i hlate
    change deadline ≤ clock at hlate
    simp [checkDeadline, AcquisitionTask.endingAt, cutShort, hlate]
  · rename_i hearly
    change ¬ deadline ≤ clock at hearly
    simp [checkDeadline, AcquisitionTask.endingAt, hearly]

end AcquisitionState

namespace AcquisitionTask

variable {κ : Type} [DatabaseFormat κ] {task : AcquisitionTask} {deadline : Nat}
  {state : AcquisitionState κ}

theorem ingest_unhurried_ne_deadline (hopen : state.report.timedOut = false) (address : String)
    (country : Option Country) (mode : WriteMode) :
    (task.unhurried.ingest state address country mode).2 ≠ .deadline := by
  cases task.unhurried.ingestCourse state address country mode with
  | late hlate _ =>
      rw [AcquisitionState.checkDeadline_unhurried hopen] at hlate
      cases hlate
  | unavailable _ hresult =>
      rw [hresult]
      exact nofun
  | unreadable _ hresult =>
      rw [hresult]
      exact nofun
  | merged _ content tables next _ _ _ hresult =>
      rw [hresult]
      exact nofun

/-- With the deadline an archive comes too late, or it is ingested as without it. -/
theorem ingest_endingAt (task : AcquisitionTask) (deadline : Nat)
    (hopen : state.report.timedOut = false) (address : String) (country : Option Country)
    (mode : WriteMode) :
    (task.endingAt deadline).ingest state address country mode = (state.cutShort, .deadline) ∨
      ∃ next outcome,
        (task.endingAt deadline).ingest state address country mode = (next, outcome) ∧
        task.unhurried.ingest state address country mode = (next, outcome) ∧
        outcome ≠ .deadline ∧ task.unhurried.Reaches state next ∧
        next.report.timedOut = false := by
  by_cases hlate : deadline ≤ state.clock
  · left
    rw [ingest, AcquisitionState.checkDeadline_endingAt hopen, if_pos hlate]
  · right
    have hsame : (task.endingAt deadline).ingest state address country mode =
        task.unhurried.ingest state address country mode := by
      rw [ingest, ingest, AcquisitionState.checkDeadline_endingAt hopen, if_neg hlate,
        AcquisitionState.checkDeadline_unhurried hopen]
      rfl
    have hreaches := task.unhurried.reaches_ingest state address country mode
    exact ⟨_, _, hsame, rfl, ingest_unhurried_ne_deadline hopen address country mode, hreaches,
      isOpen_of_reaches hreaches hopen⟩

omit [DatabaseFormat κ] in
theorem unlessTimedOut_of_isOpen {pass : AcquisitionState κ → AcquisitionState κ}
    (hopen : state.report.timedOut = false) : unlessTimedOut pass state = pass state :=
  if_neg (by simp [hopen])

omit [DatabaseFormat κ] in
theorem unlessTimedOut_cutShort (pass : AcquisitionState κ → AcquisitionState κ)
    (state : AcquisitionState κ) : unlessTimedOut pass state.cutShort = state.cutShort :=
  if_pos rfl

/-- What two acquisitions come to that begin alike, with a deadline and without one: the first has
done the same as the second, or was cut short where the second went on. -/
inductive KeepsUp (task : AcquisitionTask) (start limited unlimited : AcquisitionState κ) : Prop
  | abreast (hsame : limited = unlimited) (hreached : task.unhurried.Reaches start unlimited)
  | cut (moment : AcquisitionState κ) (hcut : limited = moment.cutShort)
      (hstart : task.unhurried.Reaches start moment)
      (hreached : task.unhurried.Reaches moment unlimited)

namespace KeepsUp

variable {start middle limited unlimited : AcquisitionState κ}

theorem reaches (hkeeps : task.KeepsUp start limited unlimited) :
    task.unhurried.Reaches start unlimited := by
  cases hkeeps with
  | abreast _ hreached => exact hreached
  | cut _ _ hstart hreached => exact hstart.trans hreached

theorem of_reaches (hreaches : task.unhurried.Reaches start middle)
    (hkeeps : task.KeepsUp middle limited unlimited) :
    task.KeepsUp start limited unlimited := by
  cases hkeeps with
  | abreast hsame hreached => exact .abreast hsame (hreaches.trans hreached)
  | cut moment hcut hstart hreached => exact .cut moment hcut (hreaches.trans hstart) hreached

theorem unlessTimedOut {pass longPass : AcquisitionState κ → AcquisitionState κ}
    (hopen : start.report.timedOut = false) (hkeeps : task.KeepsUp start limited unlimited)
    (hpass : ∀ state : AcquisitionState κ, state.report.timedOut = false →
      task.KeepsUp state (pass state) (longPass state)) :
    task.KeepsUp start (AcquisitionTask.unlessTimedOut pass limited)
      (AcquisitionTask.unlessTimedOut longPass unlimited) := by
  have hunlimited := isOpen_of_reaches hkeeps.reaches hopen
  have hnext := hpass unlimited hunlimited
  rw [unlessTimedOut_of_isOpen hunlimited]
  cases hkeeps with
  | abreast hsame hreached =>
      rw [hsame, unlessTimedOut_of_isOpen hunlimited]
      exact .of_reaches hreached hnext
  | cut moment hcut hstart hreached =>
      -- What was cut short makes no further pass, while the other one goes on.
      refine .cut moment ?_ hstart (hreached.trans hnext.reaches)
      rw [hcut, unlessTimedOut_cutShort]

end KeepsUp

theorem keepsUp_ingestListed (addresses : List String) (hopen : state.report.timedOut = false) :
    task.KeepsUp state ((task.endingAt deadline).ingestListed addresses state)
      (task.unhurried.ingestListed addresses state) := by
  induction addresses generalizing state with
  | nil => exact .abreast rfl .refl
  | cons address rest ih =>
      have hunlimited := (task.unhurried.moves_ingestListed (address :: rest) state).reaches
      cases hcountry : countryOfArchive? address with
      | none =>
          simp only [ingestListed, hcountry]
          exact ih hopen
      | some country =>
          rcases task.ingest_endingAt deadline hopen address
              (some country) .firstWins with
            hlate | ⟨next, outcome, hlimited, hfree, hgoesOn, hreaches, hnext⟩
          · refine .cut state ?_ .refl hunlimited
            simp only [ingestListed, hcountry, hlate]
          · simp only [ingestListed, hcountry, hlimited, hfree]
            cases outcome with
            | merged added =>
                have hnoted := hreaches.trans
                  (task.unhurried.moves_noteLoaded .firstWins next country added).reaches
                exact .of_reaches hnoted (ih (isOpen_of_reaches hnoted hopen))
            | unavailable => exact .of_reaches hreaches (ih hnext)
            | deadline => exact absurd rfl hgoesOn

theorem keepsUp_listedPass (hopen : state.report.timedOut = false) :
    task.KeepsUp state ((task.endingAt deadline).listedPass state)
      (task.unhurried.listedPass state) := by
  have hunlimited := (task.unhurried.moves_listedPass state).reaches
  by_cases hlate : deadline ≤ state.clock
  · refine .cut state ?_ .refl hunlimited
    rw [listedPass, AcquisitionState.checkDeadline_endingAt hopen, if_pos hlate]
  · rw [listedPass, AcquisitionState.checkDeadline_endingAt hopen, if_neg hlate]
    rw [listedPass, AcquisitionState.checkDeadline_unhurried hopen] at hunlimited ⊢
    cases hanswer : (task.fetcher.listing state.requests task.plan.baseAddress).answer with
    | error cause =>
        simp only [endingAt, unhurried, hanswer] at hunlimited ⊢
        exact .abreast rfl hunlimited
    | ok page =>
        have hlisted : task.unhurried.Reaches state _ := .single (.listed state)
        simp only [endingAt, unhurried, hanswer]
        exact .of_reaches hlisted (keepsUp_ingestListed _ (isOpen_of_reaches hlisted hopen))

theorem keepsUp_ingestGuessed (country : Country) (addresses : List String)
    (hopen : state.report.timedOut = false) :
    task.KeepsUp state ((task.endingAt deadline).ingestGuessed country addresses state)
      (task.unhurried.ingestGuessed country addresses state) := by
  induction addresses generalizing state with
  | nil => exact .abreast rfl .refl
  | cons address rest ih =>
      have hunlimited :=
        (task.unhurried.moves_ingestGuessed country (address :: rest) state).reaches
      rcases task.ingest_endingAt deadline hopen address
          (some country) .firstWins with
        hlate | ⟨next, outcome, hlimited, hfree, hgoesOn, hreaches, hnext⟩
      · refine .cut state ?_ .refl hunlimited
        simp only [ingestGuessed, hlate]
      · simp only [ingestGuessed, hlimited, hfree]
        cases outcome with
        | merged added =>
            exact .abreast rfl (hreaches.trans
              (task.unhurried.moves_noteLoaded .firstWins next country added).reaches)
        | unavailable => exact .of_reaches hreaches (ih hnext)
        | deadline => exact absurd rfl hgoesOn

theorem keepsUp_ingestCountries (countries : List Country)
    (hopen : state.report.timedOut = false) :
    task.KeepsUp state ((task.endingAt deadline).ingestCountries countries state)
      (task.unhurried.ingestCountries countries state) := by
  induction countries generalizing state with
  | nil => exact .abreast rfl .refl
  | cons country rest ih =>
      exact (keepsUp_ingestGuessed country _ hopen).unlessTimedOut hopen fun _ hnext => ih hnext

theorem keepsUp_guessedPass (hopen : state.report.timedOut = false) :
    task.KeepsUp state ((task.endingAt deadline).guessedPass state)
      (task.unhurried.guessedPass state) :=
  keepsUp_ingestCountries _ hopen

theorem keepsUp_ingestExtra (addresses : List String) (hopen : state.report.timedOut = false) :
    task.KeepsUp state ((task.endingAt deadline).ingestExtra addresses state)
      (task.unhurried.ingestExtra addresses state) := by
  induction addresses generalizing state with
  | nil => exact .abreast rfl .refl
  | cons address rest ih =>
      have hunlimited := (task.unhurried.moves_ingestExtra (address :: rest) state).reaches
      cases hrejection : rejection? address with
      | some cause =>
          have hskipped : task.unhurried.Reaches state state.skipSource := .single (.skipped state)
          simp only [ingestExtra, hrejection]
          exact .of_reaches hskipped (ih (isOpen_of_reaches hskipped hopen))
      | none =>
          rcases task.ingest_endingAt deadline hopen address
              (countryOfArchive? address) .lastWins with
            hlate | ⟨next, outcome, hlimited, hfree, hgoesOn, hreaches, hnext⟩
          · refine .cut state ?_ .refl hunlimited
            simp only [ingestExtra, hrejection, hlate]
          · simp only [ingestExtra, hrejection, hlimited, hfree]
            cases outcome with
            | merged added => exact .of_reaches hreaches (ih hnext)
            | unavailable => exact .of_reaches hreaches (ih hnext)
            | deadline => exact absurd rfl hgoesOn

theorem keepsUp_extraPass (hopen : state.report.timedOut = false) :
    task.KeepsUp state ((task.endingAt deadline).extraPass state)
      (task.unhurried.extraPass state) :=
  keepsUp_ingestExtra _ hopen

theorem keepsUp_run (task : AcquisitionTask) (deadline : Nat) (directory : DataDirectory κ)
    (clock : Nat) :
    task.KeepsUp (.start directory clock) ((task.endingAt deadline).run directory clock)
      (task.unhurried.run directory clock) := by
  have hopen : (AcquisitionState.start directory clock).report.timedOut = false := rfl
  refine KeepsUp.unlessTimedOut hopen ?_ fun _ => keepsUp_extraPass
  refine KeepsUp.unlessTimedOut hopen ?_ fun _ => keepsUp_guessedPass
  exact keepsUp_listedPass hopen

/-- A run that was not cut short is the run without a deadline. -/
theorem run_eq_unhurried (task : AcquisitionTask) {directory : DataDirectory κ} {clock : Nat}
    (hopen : (task.run directory clock).report.timedOut = false) :
    task.run directory clock = task.unhurried.run directory clock := by
  obtain ⟨⟨baseAddress, version, countries, extraAddresses, deadline⟩, fetcher, cache, wall⟩ := task
  cases deadline with
  | none => rfl
  | some deadline =>
      cases keepsUp_run ⟨⟨baseAddress, version, countries, extraAddresses, some deadline⟩, fetcher,
          cache, wall⟩ deadline directory clock with
      | abreast hsame _ => exact hsame
      | cut moment hcut _ _ =>
          have hlate : (AcquisitionState.cutShort moment).report.timedOut = false := hcut ▸ hopen
          cases hlate

end AcquisitionTask

/-! ## What is left of the run -/

/-- The merges of a state, in their order. -/
def AcquisitionState.merges {κ : Type} (state : AcquisitionState κ) : List AcquisitionEvent :=
  state.journal.filter AcquisitionEvent.isMerge

theorem ExactTable.replay_filter_isMerge {version : String} {table : ExactTable}
    (journal : List AcquisitionEvent) :
    table.replay version (journal.filter AcquisitionEvent.isMerge) =
      table.replay version journal := by
  induction journal generalizing table with
  | nil => rfl
  | cons event rest ih =>
      cases event with
      | merged address country mode content => exact ih
      | requested request => exact ih
      | reused name => exact ih
      | removed name => exact ih
      | kept name content => exact ih

namespace AcquisitionTask

variable {κ : Type} [DatabaseFormat κ]

omit [DatabaseFormat κ] in
theorem FilesJournal.table_eq {task : AcquisitionTask} {state : AcquisitionState κ}
    (hfiled : task.FilesJournal state) :
    state.table = ExactTable.replay task.plan.version ∅ state.merges :=
  hfiled.trans (ExactTable.replay_filter_isMerge state.journal).symm

/-- A moment that a run goes through. -/
def Passes (task : AcquisitionTask) (directory : DataDirectory κ) (clock : Nat)
    (moment : AcquisitionState κ) : Prop :=
  task.Reaches (.start directory clock) moment ∧ task.Reaches moment (task.run directory clock)

structure OnlyCutsShort (task : AcquisitionTask) (directory : DataDirectory κ)
    (clock deadline : Nat) : Prop where
  /-- Whatever is asked of the network is asked before the deadline. -/
  asked_before_deadline : ∀ earlier request,
    earlier ++ [request] <+: ((task.endingAt deadline).run directory clock).requests →
      task.fetcher.clockAfter clock earlier < deadline
  requests_prefix :
    ((task.endingAt deadline).run directory clock).requests <+:
      (task.unhurried.run directory clock).requests
  run_eq : ((task.endingAt deadline).run directory clock).report.timedOut = false →
    (task.endingAt deadline).run directory clock = task.unhurried.run directory clock
  /-- A run that is cut short stops at a moment of the run without a deadline. -/
  passed : ((task.endingAt deadline).run directory clock).report.timedOut = true →
    ∃ moment, task.unhurried.Passes directory clock moment ∧
      (task.endingAt deadline).run directory clock = moment.cutShort
  /-- Its table is the one that the run without a deadline has after the same archives. -/
  table_eq : ((task.endingAt deadline).run directory clock).report.timedOut = true →
    ∀ moment, task.unhurried.Passes directory clock moment →
      moment.merges = ((task.endingAt deadline).run directory clock).merges →
        ((task.endingAt deadline).run directory clock).table = moment.table

/-- A deadline cuts an acquisition short and changes nothing else. -/
theorem onlyCutsShort (task : AcquisitionTask) (directory : DataDirectory κ)
    (clock deadline : Nat) : task.OnlyCutsShort directory clock deadline := by
  have hkeeps := task.keepsUp_run deadline directory clock
  have hopen : (task.unhurried.run directory clock).report.timedOut = false :=
    isOpen_of_reaches hkeeps.reaches rfl
  refine ⟨?_, ?_, ?_, ?_, ?_⟩
  · exact ((task.endingAt deadline).inTime_run rfl directory clock).before_deadline
  · cases hkeeps with
    | abreast hsame _ => exact hsame ▸ List.prefix_rfl
    | cut moment hcut _ hreached =>
        rw [hcut]
        exact (journal_prefix_of_reaches hreached).filterMap AcquisitionEvent.request?
  · intro hcomplete
    cases hkeeps with
    | abreast hsame _ => exact hsame
    | cut moment hcut _ _ =>
        rw [hcut] at hcomplete
        cases hcomplete
  · intro hcutShort
    cases hkeeps with
    | abreast hsame _ =>
        rw [hsame, hopen] at hcutShort
        cases hcutShort
    | cut moment hcut hstart hreached => exact ⟨moment, ⟨hstart, hreached⟩, hcut⟩
  · intro _ moment hpassed hmerges
    have hlimited : (task.endingAt deadline).FilesJournal _ :=
      filesJournal_of_reaches ((task.endingAt deadline).reaches_run directory clock)
    have hmoment : task.unhurried.FilesJournal moment := filesJournal_of_reaches hpassed.1
    rw [hlimited.table_eq, hmoment.table_eq, hmerges]
    rfl

end AcquisitionTask

end PostalRegions
