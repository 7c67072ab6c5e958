import PostalRegions.Configuration.Loading
import PostalRegions.Proofs.Dataset.Restart
import PostalRegions.Proofs.Dataset.Soundness
import PostalRegions.Proofs.Estimate.Reading
import PostalRegions.Proofs.Lookup.Confidences

/-!
# The confidences that a dataset serves

Settings that pass their checks have confidences in the unit range.  Estimates take them from
there, travel through snapshot files and back, and are published next to votes whose confidences
are bounded by the caps.  So whatever a published generation answers is founded, unless it is an
estimate that was read in a snapshot file which was not stored here: its confidences are not
checked.
-/

namespace PostalRegions

/-! ## Settings -/

theorem ConfidenceTable.inUnitRange_forLabel {confidences : ConfidenceTable Rat}
    (hrange : confidences.inUnitRange = true) (label : ConfidenceLabel) :
    (confidences.forLabel label).inUnitRange = true := by
  have hall := List.all_eq_true.mp hrange
  cases label with
  | high => exact hall confidences.high (by simp)
  | medium => exact hall confidences.medium (by simp)
  | low => exact hall confidences.low (by simp)

namespace Settings

/-- Settings without a fault have their caps and the confidences of labels in the unit range. -/
theorem inUnitRange_of_fault? {κ : Type} [Confidence κ] {settings : Settings κ}
    (hfault : settings.fault? = none) :
    settings.policy.caps.inUnitRange = true ∧ settings.confidenceTable.inUnitRange = true := by
  unfold fault? at hfault
  simp only [ite_eq_iff, reduceCtorEq, and_false, false_or, and_true] at hfault
  obtain ⟨_, _, hcaps, _, _, _, htable⟩ := hfault
  exact ⟨by simpa using hcaps, by simpa using htable⟩

end Settings

/-! ## Estimates -/

/-- Estimates have confidences in the unit range, but for those that were borrowed. -/
def EstimateTable.InRangeOr (borrowed : EntryKey → Estimate Rat → Prop)
    (estimates : EstimateTable Rat) : Prop :=
  ∀ key estimate, estimates[key]? = some estimate →
    estimate.confidences.inUnitRange = true ∨ borrowed key estimate

namespace EstimateTable

variable {estimates : EstimateTable Rat} {borrowed later : EntryKey → Estimate Rat → Prop}

theorem InRangeOr.empty : InRangeOr borrowed ∅ := by
  intro key estimate hestimate
  simp at hestimate

theorem InRangeOr.mono (hestimates : estimates.InRangeOr borrowed)
    (hlater : ∀ key estimate, borrowed key estimate → later key estimate) :
    estimates.InRangeOr later :=
  fun key estimate hestimate =>
    (hestimates key estimate hestimate).imp_right (hlater key estimate)

theorem InRangeOr.without (hestimates : estimates.InRangeOr borrowed) (exact : ExactTable) :
    (estimates.without exact).InRangeOr borrowed := by
  intro key estimate hestimate
  rw [getElem?_without] at hestimate
  split at hestimate
  · cases hestimate
  · exact hestimates key estimate hestimate

theorem inRangeOr_of_ofFile {confidences : ConfidenceTable Rat} {content : Option ByteArray}
    {sheet : EstimateSheet Rat} (hrange : confidences.inUnitRange = true)
    (hfile : EstimateSheet.ofFile confidences content = .ok sheet) :
    sheet.estimates.InRangeOr borrowed := by
  intro key estimate hestimate
  obtain ⟨columns, row, hrow⟩ := EstimateSheet.exists_fileRow_of_ofFile hfile hestimate
  obtain ⟨label, _, rfl⟩ := EstimateReading.fileRow_eq_some_iff.mp hrow
  exact Or.inl (ConfidenceTable.inUnitRange_forLabel hrange label)

end EstimateTable

/-! ## Snapshot files -/

/-- A snapshot file was written with such estimates. -/
def Content.HasInRangeOr (borrowed : EntryKey → Estimate Rat → Prop) : Content Rat → Prop
  | .plain _ => True
  | .database stored => ∃ snapshot metadata,
      stored = .ofSnapshot snapshot metadata ∧ snapshot.estimates.InRangeOr borrowed

abbrev DataDirectory.HasInRangeOr (borrowed : EntryKey → Estimate Rat → Prop)
    (directory : DataDirectory Rat) : Prop :=
  directory.EveryFile fun _ content => content.HasInRangeOr borrowed

variable {directory : DataDirectory Rat} {borrowed later : EntryKey → Estimate Rat → Prop}

theorem DataDirectory.HasInRangeOr.mono (hdirectory : directory.HasInRangeOr borrowed)
    (hlater : ∀ key estimate, borrowed key estimate → later key estimate) :
    directory.HasInRangeOr later := by
  intro place content modified hfile
  have hcontent := hdirectory place content modified hfile
  cases content with
  | plain bytes => trivial
  | database stored =>
      obtain ⟨snapshot, metadata, hstored, hestimates⟩ := hcontent
      exact ⟨snapshot, metadata, hstored, hestimates.mono hlater⟩

section

variable [DatabaseFormat Rat]

theorem SnapshotStore.inRangeOr_of_loadEstimates (hdirectory : directory.HasInRangeOr borrowed)
    {path : String} (hstored : ¬ directory.IsForeign path) {estimates : EstimateTable Rat}
    (hload : loadEstimates directory path = .ok estimates) : estimates.InRangeOr borrowed := by
  obtain ⟨database, _, hopen, _, _⟩ := loadEstimates_eq_ok_iff.mp hload
  obtain ⟨modified, hfile⟩ := (stored_or_foreign hopen).resolve_right hstored
  obtain ⟨snapshot, metadata, rfl, hestimates⟩ := hdirectory.of_file? hfile
  rw [loadEstimates_of_file? hfile] at hload
  cases hload
  exact hestimates

/-! ## Rebuilds and imports -/

namespace Settings

variable {settings : Settings Rat}

/-- Estimates that are read in a snapshot file which was not stored here are borrowed. -/
def Lends (settings : Settings Rat) (directory : DataDirectory Rat) (key : EntryKey)
    (estimate : Estimate Rat) : Prop :=
  directory.IsForeign settings.snapshotPath ∧ settings.operatorEstimates? directory = none ∧
    ∃ found, SnapshotStore.loadEstimates directory settings.snapshotPath = .ok found ∧
      found[key]? = some estimate

theorem inRangeOr_estimates (hfault : settings.fault? = none)
    (hdirectory : directory.HasInRangeOr borrowed)
    (hlends : ∀ key estimate, settings.Lends directory key estimate → borrowed key estimate) :
    (settings.estimates directory).InRangeOr borrowed := by
  unfold estimates
  split
  · rename_i found hoperator
    obtain ⟨bytes, sheet, _, hsheet, _, rfl⟩ := operatorEstimates?_eq_some_iff.mp hoperator
    exact EstimateTable.inRangeOr_of_ofFile (inUnitRange_of_fault? hfault).2 hsheet
  · rename_i hoperator
    cases hload : SnapshotStore.loadEstimates directory settings.snapshotPath with
    | error cause => exact EstimateTable.InRangeOr.empty
    | ok stored =>
        by_cases hforeign : directory.IsForeign settings.snapshotPath
        · intro key estimate hestimate
          exact Or.inr (hlends key estimate ⟨hforeign, hoperator, stored, hload, hestimate⟩)
        · exact SnapshotStore.inRangeOr_of_loadEstimates hdirectory hforeign hload

theorem hasInRangeOr_rebuild (hfault : settings.fault? = none) (fetcher : Fetcher)
    (hdirectory : directory.HasInRangeOr borrowed) (clock : Nat) (wall : WallClock)
    (hlends : ∀ key estimate,
      settings.Lends (settings.exactData fetcher directory clock wall).1 key estimate →
        borrowed key estimate) :
    (settings.rebuild fetcher directory clock wall).generation.tables.estimates.InRangeOr
        borrowed ∧
      (settings.rebuild fetcher directory clock wall).directory.HasInRangeOr borrowed := by
  have hread := everyFile_exactData (fun _ _ => trivial) hdirectory settings fetcher clock wall
  have hestimates := (inRangeOr_estimates hfault hread hlends).without
    (settings.exactData fetcher directory clock wall).2.table
  obtain ⟨ended, journal, now, hrebuild⟩ :=
    settings.exists_rebuild_eq_publish fetcher directory clock wall
  rw [hrebuild]
  refine ⟨hestimates, everyFile_publish hread rfl ?_ ended journal⟩
  intro here
  exact ⟨_, _, rfl, hestimates⟩

theorem rebuild_policy (settings : Settings Rat) (fetcher : Fetcher)
    (directory : DataDirectory Rat) (clock : Nat) (wall : WallClock) :
    (settings.rebuild fetcher directory clock wall).generation.tables.policy = settings.policy := by
  unfold rebuild
  split
  · rfl
  · rfl

end Settings

theorem hasInRangeOr_importEstimates {confidences : ConfidenceTable Rat}
    (hrange : confidences.inUnitRange = true) (hdirectory : directory.HasInRangeOr borrowed)
    (path : String) (content : Option ByteArray) (now : Instant) :
    DataDirectory.HasInRangeOr borrowed
      (importEstimates directory path confidences content now).1 := by
  apply everyFile_importEstimates hdirectory
  intro next sheet snapshot facts _ hreads here
  refine ⟨snapshot, _, rfl, ?_⟩
  rw [hreads.kept]
  exact (EstimateTable.inRangeOr_of_ofFile hrange hreads.file).without snapshot.exact

/-! ## Histories -/

/-- A rebuild or an import under settings that pass their checks. -/
def DataStep.IsConfigured : DataStep Rat → Prop
  | .rebuild settings _ _ _ => settings.fault? = none
  | .importEstimates _ confidences _ _ =>
      ∃ settings : Settings Rat, settings.fault? = none ∧ settings.confidenceTable = confidences
  | .supply _ _ _ => True
  | .withdraw _ => True

namespace DataHistory

/-- In one of the steps, an estimate was read in a snapshot file that was not stored here. -/
def Borrows (steps : List (DataStep Rat)) (key : EntryKey) (estimate : Estimate Rat) : Prop :=
  ∃ earlier settings fetcher clock wall,
    earlier ++ [.rebuild settings fetcher clock wall] <+: steps ∧
      settings.Lends (settings.exactData fetcher (ofSteps earlier).directory clock wall).1 key
        estimate

theorem Borrows.of_prefix {earlier steps : List (DataStep Rat)} {key : EntryKey}
    {estimate : Estimate Rat} (hborrows : Borrows earlier key estimate)
    (hwithin : earlier <+: steps) : Borrows steps key estimate := by
  obtain ⟨before, settings, fetcher, clock, wall, hstep, hlends⟩ := hborrows
  exact ⟨before, settings, fetcher, clock, wall, hstep.trans hwithin, hlends⟩

theorem hasInRangeOr_ofSteps {steps : List (DataStep Rat)}
    (hsteps : ∀ step ∈ steps, step.IsConfigured) :
    (ofSteps steps).directory.HasInRangeOr (Borrows steps) := by
  induction steps using List.reverseRecOn with
  | nil => exact Storage.Directory.everyFile_empty
  | append_singleton earlier step ih =>
      have hearlier := (ih fun other hother => hsteps other (List.mem_append_left _ hother)).mono
        fun _ _ hborrows => hborrows.of_prefix (List.prefix_append earlier [step])
      have hstep := hsteps step (by simp)
      rw [ofSteps_concat]
      cases step with
      | supply path bytes now =>
          have hplain :
              Content.HasInRangeOr (Borrows (earlier ++ [.supply path bytes now])) (.plain bytes) :=
            trivial
          exact SnapshotStore.everyFile_place hearlier (fun _ => hplain) path now
      | withdraw path => exact hearlier.remove path
      | rebuild settings fetcher clock wall =>
          exact (Settings.hasInRangeOr_rebuild hstep fetcher hearlier clock wall fun _ _ hlends =>
            ⟨earlier, settings, fetcher, clock, wall, List.prefix_rfl, hlends⟩).2
      | importEstimates path confidences content now =>
          obtain ⟨settings, hfault, rfl⟩ := hstep
          exact hasInRangeOr_importEstimates (Settings.inUnitRange_of_fault? hfault).2 hearlier
            path content now

/-- One of the steps is a rebuild with these settings, and publishes this generation. -/
def PublishedBy (steps : List (DataStep Rat)) (settings : Settings Rat)
    (generation : Generation Rat) : Prop :=
  ∃ earlier fetcher clock wall,
    earlier ++ [.rebuild settings fetcher clock wall] <+: steps ∧
      (settings.rebuild fetcher (ofSteps earlier).directory clock wall).generation = generation

theorem exists_publishedBy {steps : List (DataStep Rat)} {generation : Generation Rat}
    (hpublished : generation ∈ (ofSteps steps).published) :
    ∃ settings, PublishedBy steps settings generation := by
  induction steps using List.reverseRecOn with
  | nil => cases hpublished
  | append_singleton steps step ih =>
      rw [ofSteps_concat] at hpublished
      have hearlier (hmem : generation ∈ (ofSteps steps).published) :
          ∃ settings, PublishedBy (steps ++ [step]) settings generation := by
        obtain ⟨settings, earlier, fetcher, clock, wall, hwithin, hgeneration⟩ := ih hmem
        exact ⟨settings, earlier, fetcher, clock, wall, hwithin.trans (List.prefix_append _ _),
          hgeneration⟩
      cases step with
      | supply path bytes now => exact hearlier hpublished
      | withdraw path => exact hearlier hpublished
      | importEstimates path confidences content now => exact hearlier hpublished
      | rebuild settings fetcher clock wall =>
          rcases List.mem_append.mp hpublished with hmem | hlast
          · exact hearlier hmem
          · exact ⟨settings, steps, fetcher, clock, wall, List.prefix_rfl,
              (List.mem_singleton.mp hlast).symm⟩

theorem inRangeOr_of_publishedBy {steps : List (DataStep Rat)}
    (hsteps : ∀ step ∈ steps, step.IsConfigured) {settings : Settings Rat}
    {generation : Generation Rat} (hby : PublishedBy steps settings generation) :
    generation.tables.policy = settings.policy ∧
      generation.tables.policy.caps.inUnitRange = true ∧
      generation.tables.estimates.InRangeOr (Borrows steps) := by
  obtain ⟨earlier, fetcher, clock, wall, hwithin, rfl⟩ := hby
  have hmember {step : DataStep Rat} (hstep : step ∈ earlier ++
      [.rebuild settings fetcher clock wall]) : step.IsConfigured :=
    hsteps step (hwithin.subset hstep)
  have hfault : settings.fault? = none :=
    hmember (List.mem_append_right _ (List.mem_singleton_self _))
  have hearlier : (ofSteps earlier).directory.HasInRangeOr (Borrows steps) :=
    (hasInRangeOr_ofSteps fun _ hstep => hmember (List.mem_append_left _ hstep)).mono
      fun _ _ hborrows => hborrows.of_prefix ((List.prefix_append _ _).trans hwithin)
  have hpolicy := settings.rebuild_policy fetcher (ofSteps earlier).directory clock wall
  refine ⟨hpolicy, ?_, ?_⟩
  · rw [hpolicy]
    exact (Settings.inUnitRange_of_fault? hfault).1
  · exact (Settings.hasInRangeOr_rebuild hfault fetcher hearlier clock wall
      fun _ _ hlends => ⟨earlier, settings, fetcher, clock, wall, hwithin, hlends⟩).1

/-- Whatever a generation answers that has been published so far, the first one included, has
confidences in the unit range; an exact answer is certain, and an approximation reaches the
configured floor and takes each of its codes from a neighbour.  The one exception are estimates
that were read in a snapshot file which was not stored here. -/
theorem isFounded_or_borrowed_of_lookup {steps : List (DataStep Rat)}
    (hsteps : ∀ step ∈ steps, step.IsConfigured) {generation : Generation Rat}
    (hpublished : generation ∈ .initial :: (ofSteps steps).published)
    {country postalCode : String} {answer : RegionMatch Rat}
    (hanswer : generation.lookup country postalCode = some answer) :
    ∃ settings key, PublishedBy steps settings generation ∧
      EntryKey.ofQuery? country postalCode = some key ∧
      (answer.IsFounded generation.tables settings.policy.floor key ∨
        ∃ estimate, answer = .ofEstimate estimate ∧ Borrows steps key estimate) := by
  obtain ⟨key, hquery, hfind⟩ := Option.bind_eq_some_iff.mp hanswer
  rcases List.mem_cons.mp hpublished with rfl | hmem
  · -- Before the first rebuild the tables are empty, and there is no answer.
    have hnone : (Generation.initial : Generation Rat).tables.find? key = none :=
      LookupTables.find?_ofTables_empty .standard key
    rw [hnone] at hfind
    cases hfind
  · obtain ⟨settings, hby⟩ := exists_publishedBy hmem
    refine ⟨settings, key, hby, hquery, ?_⟩
    rw [or_iff_not_imp_right]
    intro hown
    obtain ⟨hpolicy, hcaps, hestimates⟩ := inRangeOr_of_publishedBy hsteps hby
    rw [← hpolicy]
    apply LookupTables.isFounded_of_find? hcaps hfind
    intro estimate hestimate hanswer
    exact (hestimates key estimate hestimate).resolve_right
      fun hborrows => hown ⟨estimate, hanswer, hborrows⟩

end DataHistory

end

namespace DataHistory

/-- One estimate is imported into the snapshot of a rebuild, which the next day's rebuild takes as
it is. -/
def importingSteps : List (DataStep Rat) :=
  [.rebuild ScheduledRebuild.ordinaryRebuild.settings ScheduledRebuild.ordinaryRebuild.fetcher 0
      ScheduledRebuild.ordinaryRebuild.wall,
    .importEstimates ScheduledRebuild.ordinaryRebuild.settings.snapshotPath .standard
      (some ("COUNTRY_CODE,POSTAL_CODE,ESTIMATED_LEVEL3,ESTIMATED_LEVEL2,ESTIMATED_LEVEL1," ++
        "CONFIDENCE\nAT,1011,AT130,AT13,AT1,high\n").toUTF8)
      ScheduledRebuild.restartedRebuild.begunAt,
    .rebuild ScheduledRebuild.ordinaryRebuild.settings ScheduledRebuild.restartedRebuild.fetcher 0
      ScheduledRebuild.restartedRebuild.wall]

/-- None of the rebuilds finds a snapshot file that was not stored here. -/
theorem importingSteps_not_borrowed (key : EntryKey) (estimate : Estimate Rat) :
    ¬ Borrows importingSteps key estimate := by
  have hfirst : (ScheduledRebuild.ordinaryRebuild.settings.exactData
      ScheduledRebuild.ordinaryRebuild.fetcher .empty 0
        ScheduledRebuild.ordinaryRebuild.wall).1.file?
          ScheduledRebuild.ordinaryRebuild.settings.snapshotPath = none :=
    Option.isNone_iff_eq_none.mp (by decide +kernel)
  have hlast : ((ScheduledRebuild.ordinaryRebuild.settings.exactData
      ScheduledRebuild.restartedRebuild.fetcher (ofSteps (importingSteps.take 2)).directory 0
        ScheduledRebuild.restartedRebuild.wall).1.databaseAt? (Storage.destination
          ScheduledRebuild.ordinaryRebuild.settings.snapshotPath)).isSome = true := by
    decide +kernel
  rintro ⟨earlier, settings, fetcher, clock, wall, hwithin, ⟨bytes, modified, hfile⟩, _⟩
  rcases earlier with _ | ⟨first, _ | ⟨second, _ | ⟨third, rest⟩⟩⟩
  · simp only [importingSteps, List.nil_append, List.cons_prefix_cons, DataStep.rebuild.injEq]
      at hwithin
    obtain ⟨⟨rfl, rfl, rfl, rfl⟩, _⟩ := hwithin
    cases hfirst.symm.trans hfile
  · simp [importingSteps] at hwithin
  · simp only [importingSteps, List.cons_append, List.nil_append, List.cons_prefix_cons,
      DataStep.rebuild.injEq] at hwithin
    obtain ⟨rfl, rfl, ⟨rfl, rfl, rfl, rfl⟩, _⟩ := hwithin
    have hplain := Storage.Directory.fileAt?_destination_of_file? hfile
    unfold DataDirectory.databaseAt? at hlast
    rw [importingSteps, List.take_succ_cons, List.take_succ_cons, List.take_zero, hplain] at hlast
    cases hlast
  · have hlength := hwithin.length_le
    simp only [importingSteps, List.length_append, List.length_cons, List.length_nil] at hlength
    omega

/-- A generation that answers queries from each of its three sources. -/
theorem importingSteps_isFounded :
    ∃ generation ∈ .initial :: (ofSteps importingSteps).published,
      ∀ query ∈ [("1010", MatchKind.exact), ("1011", .estimated), ("1012", .approximate)],
        ∃ answer settings key, generation.lookup "AT" query.1 = some answer ∧
          answer.kind = query.2 ∧ PublishedBy importingSteps settings generation ∧
          answer.IsFounded generation.tables settings.policy.floor key := by
  have hsteps : ∀ step ∈ importingSteps, step.IsConfigured := by
    have hfault : (ScheduledRebuild.ordinaryRebuild.settings).fault? = none := by decide +kernel
    intro step hstep
    simp only [importingSteps, List.mem_cons, List.not_mem_nil, or_false] at hstep
    rcases hstep with rfl | rfl | rfl
    · exact hfault
    · exact ⟨ScheduledRebuild.ordinaryRebuild.settings, hfault, rfl⟩
    · exact hfault
  have hkinds :
      ∀ query ∈ [("1010", MatchKind.exact), ("1011", .estimated), ("1012", .approximate)],
        ((ofSteps importingSteps).published.getLast?.bind (·.lookup "AT" query.1)).map
          RegionMatch.kind = some query.2 := by
    decide +kernel
  have hlast : (ofSteps importingSteps).published.getLast? ≠ none := by decide +kernel
  obtain ⟨generation, hgeneration⟩ := Option.ne_none_iff_exists'.mp hlast
  have hmember : generation ∈ .initial :: (ofSteps importingSteps).published :=
    List.mem_cons_of_mem _ (List.mem_of_getLast? hgeneration)
  refine ⟨generation, hmember, ?_⟩
  intro query hquery
  have hkind := hkinds query hquery
  rw [hgeneration, Option.bind_some] at hkind
  obtain ⟨answer, hanswer, hkind⟩ := Option.map_eq_some_iff.mp hkind
  obtain ⟨settings, key, hby, _, hfounded⟩ :=
    isFounded_or_borrowed_of_lookup hsteps hmember hanswer
  refine ⟨answer, settings, key, hanswer, hkind, hby, hfounded.resolve_right ?_⟩
  rintro ⟨estimate, _, hborrows⟩
  exact importingSteps_not_borrowed key estimate hborrows

end DataHistory

end PostalRegions
