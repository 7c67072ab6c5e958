import Mathlib.Data.List.Induction
import PostalRegions.Entry.Table

/-!
# Tables made of lists of entries

A table that is made of a list of entries has the last entry under each key.
-/

namespace PostalRegions.Table

variable {β : Type} {entries : List (EntryKey × β)} {key : EntryKey} {value : β}

theorem ofList_concat (entries : List (EntryKey × β)) (key : EntryKey) (value : β) :
    (Std.ExtTreeMap.ofList (entries ++ [(key, value)]) : Table β) =
      (Std.ExtTreeMap.ofList entries : Table β).insert key value := by
  simp only [Std.ExtTreeMap.ofList_eq_insertMany_empty, Std.ExtTreeMap.insertMany_append,
    Std.ExtTreeMap.insertMany_list_singleton]

theorem getElem?_ofList (entries : List (EntryKey × β)) (key : EntryKey) :
    (Std.ExtTreeMap.ofList entries : Table β)[key]? = entries.reverse.lookup key := by
  induction entries using List.reverseRecOn with
  | nil => simp
  | append_singleton earlier entry ih =>
      obtain ⟨other, value⟩ := entry
      rw [ofList_concat, Std.ExtTreeMap.getElem?_insert, List.reverse_concat, List.lookup_cons, ih]
      by_cases hkey : key = other
      · subst hkey
        simp
      · have hcompare : compare other key ≠ .eq :=
          fun hequal => hkey (Std.compare_eq_iff_eq.mp hequal).symm
        have hbeq : (key == other) = false := by simpa using hkey
        rw [if_neg hcompare, hbeq]

theorem getElem?_ofList_eq_some_iff :
    (Std.ExtTreeMap.ofList entries : Table β)[key]? = some value ↔
      ∃ earlier later, entries = earlier ++ (key, value) :: later ∧
        ∀ entry ∈ later, entry.1 ≠ key := by
  rw [getElem?_ofList, List.lookup_eq_some_iff]
  have hother (entry : EntryKey × β) : (key != entry.1) = true ↔ entry.1 ≠ key := by
    rw [bne_iff_ne, ne_comm]
  simp only [hother]
  constructor
  · rintro ⟨later, earlier, hentries, hlater⟩
    refine ⟨earlier.reverse, later.reverse, ?_, ?_⟩
    · simpa using congrArg List.reverse hentries
    · intro entry hentry
      exact hlater entry (List.mem_reverse.mp hentry)
  · rintro ⟨earlier, later, rfl, hlater⟩
    refine ⟨later.reverse, earlier.reverse, by simp, ?_⟩
    intro entry hentry
    exact hlater entry (List.mem_reverse.mp hentry)

/-- A table of what some rows file has, under each key, what the last row files that files
something under it. -/
theorem getElem?_ofList_filterMap_eq_some_iff {ρ : Type} {rows : List ρ}
    {file : ρ → Option (EntryKey × β)} :
    (Std.ExtTreeMap.ofList (rows.filterMap file) : Table β)[key]? = some value ↔
      ∃ earlier row later, rows = earlier ++ row :: later ∧ file row = some (key, value) ∧
        ∀ other ∈ later, ∀ another, file other ≠ some (key, another) := by
  rw [getElem?_ofList_eq_some_iff]
  constructor
  · rintro ⟨earlier, later, hentries, hlater⟩
    obtain ⟨before, rest, rfl, _, hrest⟩ := List.filterMap_eq_append_iff.mp hentries
    obtain ⟨between, row, after, rfl, _, hrow, rfl⟩ := List.filterMap_eq_cons_iff.mp hrest
    refine ⟨before ++ between, row, after, by simp, hrow, ?_⟩
    intro other hother another hfile
    exact hlater _ (List.mem_filterMap.mpr ⟨other, hother, hfile⟩) rfl
  · rintro ⟨earlier, row, later, rfl, hrow, hlater⟩
    refine ⟨earlier.filterMap file, later.filterMap file, by simp [hrow], ?_⟩
    rintro ⟨found, another⟩ hentry rfl
    obtain ⟨other, hother, hfile⟩ := List.mem_filterMap.mp hentry
    exact hlater other hother another hfile

/-- Under the key of a row that is filed there is something. -/
theorem exists_getElem?_ofList_filterMap {ρ : Type} {rows : List ρ}
    {file : ρ → Option (EntryKey × β)} {row : ρ} (hrow : row ∈ rows)
    (hfile : file row = some (key, value)) :
    ∃ last, (Std.ExtTreeMap.ofList (rows.filterMap file) : Table β)[key]? = some last := by
  have hentry : (key, value) ∈ rows.filterMap file := List.mem_filterMap.mpr ⟨row, hrow, hfile⟩
  have hmem : key ∈ (Std.ExtTreeMap.ofList (rows.filterMap file) : Table β) := by
    rw [Std.ExtTreeMap.mem_ofList, List.contains_iff_mem]
    exact List.mem_map.mpr ⟨_, hentry, rfl⟩
  exact Option.isSome_iff_exists.mp (Std.ExtTreeMap.mem_iff_isSome_getElem?.mp hmem)

end PostalRegions.Table
