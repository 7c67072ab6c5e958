import PostalRegions.Confidence.Rational
import PostalRegions.Lookup.Tables
import PostalRegions.Proofs.Acquisition.Filing
import PostalRegions.Proofs.Postal.Spelling
import PostalRegions.Snapshot.Pages

/-!
# Finding the rows of an acquisition

A row is filed under the country that its sheet or its archive names, and a query is answered
under the country that the data provider uses in its place.  The two agree for all countries but
one: rows that name Greece by `GR` are filed apart from the rows that name it by `EL`, and only
the latter are found.
-/

namespace PostalRegions

/-! ## Countries of the provider -/

namespace Country

theorem provider_of_ne {country : Country} (hcountry : country.code ≠ "GR") :
    country.provider = country := by
  unfold provider
  rw [if_neg hcountry]

theorem provider_of_eq {country : Country} (hcountry : country.code = "GR") :
    country.provider = greece := by
  unfold provider
  rw [if_pos hcountry]

end Country

/-! ## Exact answers -/

variable {κ : Type} [Confidence κ]

namespace LookupTables

theorem find?_kind_eq_exact_iff {tables : LookupTables κ} {key : EntryKey} :
    (tables.find? key).map RegionMatch.kind = some .exact ↔ key ∈ tables.exact := by
  rw [Std.ExtTreeMap.mem_iff_isSome_getElem?, Option.isSome_iff_exists]
  constructor
  · intro hkind
    obtain ⟨answer, hfind, hexact⟩ := Option.map_eq_some_iff.mp hkind
    rcases find?_cases hfind with ⟨region, hregion, rfl⟩ | ⟨_, _, rfl⟩ | ⟨_, _, _, _, rfl⟩
    · exact ⟨region, hregion⟩
    · cases hexact
    · cases hexact
  · rintro ⟨region, hregion⟩
    unfold find?
    rw [hregion]
    rfl

end LookupTables

/-- A merged row is found under its own country and postal code, unless it is filed under `GR`
and no row is filed under the same code of `EL`. -/
theorem lookup_kind_eq_exact_iff [DatabaseFormat κ] (task : AcquisitionTask)
    (directory : DataDirectory κ) (clock : Nat) (estimates : EstimateTable κ)
    (policy : ApproximationPolicy κ) {row : SourceRow}
    (hrow : row ∈ mergedRows task.plan.version (task.run directory clock).journal)
    (hkey : row.key.code ≠ "") :
    ((LookupTables.ofTables (task.run directory clock).table estimates policy).lookup
        row.country.code row.postalCode).map RegionMatch.kind = some .exact ↔
      row.country.code ≠ "GR" ∨
        EntryKey.ofPostalCode Country.greece row.postalCode ∈
          (task.run directory clock).table := by
  have hquery : EntryKey.ofQuery? row.country.code row.postalCode =
      some (EntryKey.ofPostalCode row.country.provider row.postalCode) := by
    unfold EntryKey.ofQuery?
    rw [Country.parseLoose_code]
    rfl
  unfold LookupTables.lookup
  rw [hquery, Option.bind_some, LookupTables.find?_kind_eq_exact_iff]
  change EntryKey.ofPostalCode row.country.provider row.postalCode ∈
    (task.run directory clock).table ↔ _
  by_cases hcountry : row.country.code = "GR"
  · rw [Country.provider_of_eq hcountry]
    simp [hcountry]
  · have hfiled : row.key ∈ (task.run directory clock).table :=
      (task.filesMerged_run directory clock row.key).mpr ⟨row, hrow, rfl, hkey⟩
    rw [Country.provider_of_ne hcountry]
    exact iff_of_true hfiled (Or.inl hcountry)

/-- An acquisition of one archive, in which a row names its country by `GR`. -/
def greekTask : AcquisitionTask where
  plan := ⟨"https://host/", "2024", [], ["https://host/gr.zip"], none⟩
  fetcher :=
    { archive := fun _ _ =>
        ⟨.ok (some (Archive.ofTable ⟨"gr.csv", "CODE,NUTS3,CC\n10557,EL303,GR\n"⟩)), 0⟩
      listing := fun _ _ => ⟨.error .network, 0⟩ }
  cache := ⟨"archives", 1⟩
  wall := fun _ => ⟨0, 0⟩

def greekRow : SourceRow :=
  ⟨⟨"GR", by decide⟩, "10557", ⟨"EL303", by decide⟩⟩

theorem greekRow_merged_and_not_found :
    greekRow ∈ mergedRows "2024" (greekTask.run (.empty : DataDirectory Rat) 0).journal ∧
      ((LookupTables.ofTables (greekTask.run (.empty : DataDirectory Rat) 0).table
        (∅ : EstimateTable Rat) .standard).lookup "GR" "10557").map RegionMatch.kind ≠
          some .exact := by
  have hrun : greekRow ∈ mergedRows "2024" (greekTask.run (.empty : DataDirectory Rat) 0).journal ∧
      ¬ (greekRow.country.code ≠ "GR" ∨
        EntryKey.ofPostalCode Country.greece greekRow.postalCode ∈
          (greekTask.run (.empty : DataDirectory Rat) 0).table) := by
    decide +kernel
  have hiff := lookup_kind_eq_exact_iff greekTask (.empty : DataDirectory Rat) 0 ∅ .standard
    hrun.1 (by decide +kernel)
  exact ⟨hrun.1, fun hfound => hrun.2 (hiff.mp hfound)⟩

end PostalRegions
