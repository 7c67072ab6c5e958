import PostalRegions.Proofs.Calendar.Rfc3339
import PostalRegions.Proofs.Snapshot.Reading

/-!
# Facts as pairs of texts

The facts about a snapshot are read back from their pairs in whatever order the pairs are listed.
Only two things get lost in texts: a moment whose year does not have four digits, and a count that
does not fit into 64 bits.
-/

namespace PostalRegions.Metadata

variable {pairs others : List (String × String)}

theorem lookup_eq_some_iff_mem (hkeys : (pairs.map Prod.fst).Nodup) {key value : String} :
    pairs.lookup key = some value ↔ (key, value) ∈ pairs := by
  induction pairs with
  | nil => simp
  | cons pair rest ih =>
      obtain ⟨first, text⟩ := pair
      rw [List.map_cons, List.nodup_cons] at hkeys
      rw [List.lookup_cons, List.mem_cons, Prod.mk.injEq]
      by_cases hfirst : key = first
      · subst hfirst
        have hrest : (key, value) ∉ rest := fun hmem =>
          hkeys.1 (List.mem_map.mpr ⟨_, hmem, rfl⟩)
        simp [hrest, eq_comm]
      · simp [beq_eq_false_iff_ne.mpr hfirst, ih hkeys.2, hfirst]

theorem lookup_of_perm (hperm : pairs.Perm others) (hkeys : (others.map Prod.fst).Nodup)
    (key : String) : pairs.lookup key = others.lookup key := by
  refine Option.ext fun value => ?_
  rw [lookup_eq_some_iff_mem ((hperm.map Prod.fst).nodup_iff.mpr hkeys),
    lookup_eq_some_iff_mem hkeys, hperm.mem_iff]

theorem nodup_keys_toPairs (metadata : Metadata) : (metadata.toPairs.map Prod.fst).Nodup := by
  change ([MetadataKey.version, .createdAt, .exactCount, .estimateCount, .fingerprint].map
    MetadataKey.name).Nodup
  decide

/-- The facts depend on nothing but the texts that are found under their keys. -/
theorem ofPairs_congr
    (hlookup : ∀ key : MetadataKey, pairs.lookup key.name = others.lookup key.name) :
    ofPairs pairs = ofPairs others := by
  have htext (key : MetadataKey) : textOf pairs key = textOf others key := by
    unfold textOf
    rw [hlookup]
  unfold ofPairs timeOf countOf
  simp only [htext, hlookup]

/-- The facts are read back from their pairs, however these are ordered, exactly if the moment of
creation has a year of four digits and both counts fit into 64 bits. -/
theorem ofPairs_eq_ok_iff_of_perm {metadata : Metadata} (hproper : metadata.createdAt.IsProper)
    (hpairs : pairs.Perm metadata.toPairs) :
    ofPairs pairs = .ok metadata ↔
      metadata.createdAt.HasFourDigitYear ∧ metadata.exactCount < Text.countBound ∧
        metadata.estimateCount < Text.countBound := by
  rw [ofPairs_congr fun key => lookup_of_perm hpairs metadata.nodup_keys_toPairs key.name,
    ofPairs_toPairs_eq_ok_iff]
  simp only [Instant.parse?_written_iff hproper, eq_readBack_iff]
  constructor
  · rintro ⟨created, ⟨hyear, _⟩, hexact, _, hestimates⟩
    exact ⟨hyear, hexact, hestimates⟩
  · rintro ⟨hyear, hexact, hestimates⟩
    exact ⟨metadata.createdAt, ⟨hyear, rfl⟩, hexact, rfl, hestimates⟩

/-- Facts at the ends of what can be read back: the last nanosecond of the year 9999, and the
greatest and the least count. -/
def extremeFacts : Metadata where
  version := "2024, draft\n"
  createdAt := ⟨daysBeforeYear 10000 * secondsPerDay - 1, 999999999⟩
  exactCount := Text.countBound - 1
  estimateCount := 0
  fingerprint := ""

theorem ofPairs_extremeFacts :
    extremeFacts.createdAt.written = "9999-12-31T23:59:59.999999999+00:00" ∧
      extremeFacts.createdAt.IsProper ∧
      extremeFacts.toPairs.reverse.Perm extremeFacts.toPairs ∧
      ofPairs extremeFacts.toPairs.reverse = .ok extremeFacts := by
  have hproper : extremeFacts.createdAt.IsProper := by decide +kernel
  have hperm := List.reverse_perm extremeFacts.toPairs
  exact ⟨by decide +kernel, hproper, hperm,
    (ofPairs_eq_ok_iff_of_perm hproper hperm).mpr (by decide +kernel)⟩

end PostalRegions.Metadata
