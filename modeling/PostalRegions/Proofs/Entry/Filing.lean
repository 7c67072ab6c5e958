import Mathlib.Data.List.Basic
import PostalRegions.Entry.Filing

/-!
# Filing entries one after the other

An exact table grows by filings, each with its own mode.  What a key has in the end is told by the
whole history of its filings: the latest one that replaces others, and if there is none, the first
one.  The answers to the filings tell which keys were new, and there are as many such answers as
entries.
-/

namespace PostalRegions

/-! ## One filing -/

/-- The region that counts, of one that is there before and others that are filed in a mode. -/
def WriteMode.settle (mode : WriteMode) (present : Option RegionCode) (filed : List RegionCode) :
    Option RegionCode :=
  match mode with
  | .firstWins => present.or filed.head?
  | .lastWins => filed.getLast?.or present

theorem WriteMode.settle_nil (mode : WriteMode) (present : Option RegionCode) :
    mode.settle present [] = present := by
  cases mode with
  | firstWins => exact Option.or_none
  | lastWins => rfl

theorem WriteMode.settle_append (mode : WriteMode) (present : Option RegionCode)
    (filed more : List RegionCode) :
    mode.settle present (filed ++ more) = mode.settle (mode.settle present filed) more := by
  cases mode with
  | firstWins =>
      simp only [settle]
      rw [List.head?_append, Option.or_assoc]
  | lastWins =>
      simp only [settle]
      rw [List.getLast?_append, Option.or_assoc]

namespace ExactTable

variable {mode : WriteMode} {table : ExactTable} {key other : EntryKey} {region : RegionCode}

theorem mem_put : other ∈ table.put key region mode ↔ key = other ∨ other ∈ table := by
  rw [Std.ExtTreeMap.mem_iff_contains, contains_put, Std.ExtTreeMap.mem_iff_contains]
  simp

theorem getElem?_put :
    (table.put key region mode)[other]? =
      if key = other then mode.settle table[other]? [region] else table[other]? := by
  by_cases hkey : key = other
  · subst other
    rw [if_pos rfl]
    cases mode with
    | firstWins =>
        simp only [put, WriteMode.settle, Std.ExtTreeMap.getElem?_insertIfNew]
        cases hfound : table[key]? with
        | none =>
            have habsent : key ∉ table := by
              rw [Std.ExtTreeMap.mem_iff_isSome_getElem?, hfound]
              simp
            simp [habsent]
        | some present =>
            have hpresent : key ∈ table := by
              rw [Std.ExtTreeMap.mem_iff_isSome_getElem?, hfound]
              rfl
            simp [hpresent]
    | lastWins => simp [put, WriteMode.settle]
  · have hcompare : compare key other ≠ .eq := fun h => hkey (Std.compare_eq_iff_eq.mp h)
    rw [if_neg hkey]
    cases mode with
    | firstWins =>
        rw [put, Std.ExtTreeMap.getElem?_insertIfNew, if_neg fun h => hcompare h.1]
    | lastWins => rw [put, Std.ExtTreeMap.getElem?_insert, if_neg hcompare]

theorem size_put (table : ExactTable) (key : EntryKey) (region : RegionCode) (mode : WriteMode) :
    (table.put key region mode).size = if key ∈ table then table.size else table.size + 1 := by
  cases mode with
  | firstWins => exact Std.ExtTreeMap.size_insertIfNew
  | lastWins => exact Std.ExtTreeMap.size_insert

theorem put_of_absent (habsent : table[key]? = none) :
    table.put key region mode = table.insert key region := by
  apply Std.ExtTreeMap.ext_getElem?
  intro other
  rw [getElem?_put, Std.ExtTreeMap.getElem?_insert]
  by_cases hkey : key = other
  · subst other
    cases mode <;> simp [habsent, WriteMode.settle]
  · have hcompare : compare key other ≠ .eq := fun h => hkey (Std.compare_eq_iff_eq.mp h)
    rw [if_neg hkey, if_neg hcompare]

theorem put_firstWins_of_present {present : RegionCode} (hpresent : table[key]? = some present) :
    table.put key region .firstWins = table := by
  apply Std.ExtTreeMap.ext_getElem?
  intro other
  rw [getElem?_put]
  by_cases hkey : key = other
  · subst other
    simp [hpresent, WriteMode.settle]
  · rw [if_neg hkey]

/-- Filing puts the entry into the table, and the answer is about the table before. -/
theorem file_eq (table : ExactTable) (key : EntryKey) (region : RegionCode) (mode : WriteMode) :
    table.file key region mode = (table.put key region mode, !table.contains key) := by
  unfold file
  rw [Std.ExtTreeMap.contains_eq_isSome_getElem?]
  cases hfound : table[key]? with
  | none =>
      rw [put_of_absent hfound]
      rfl
  | some present =>
      cases mode with
      | firstWins =>
          rw [put_firstWins_of_present hfound]
          rfl
      | lastWins => rfl

end ExactTable

/-! ## A history of filings -/

structure Filing where
  key : EntryKey
  region : RegionCode
  mode : WriteMode
deriving DecidableEq

namespace Filing

def first? (key : EntryKey) (filings : List Filing) : Option Filing :=
  filings.find? fun filing => filing.key = key

/-- The latest filing under a key that replaces others. -/
def latest? (key : EntryKey) (filings : List Filing) : Option Filing :=
  (filings.filter fun filing => filing.key = key ∧ filing.mode = .lastWins).getLast?

end Filing

namespace ExactTable

/-- The table after all filings, and the answers to them. -/
def fileAll (table : ExactTable) : List Filing → ExactTable × List Bool
  | [] => (table, [])
  | filing :: rest =>
      let (next, isNew) := table.file filing.key filing.region filing.mode
      let (last, answers) := next.fileAll rest
      (last, isNew :: answers)

theorem fileAll_cons (table : ExactTable) (filing : Filing) (rest : List Filing) :
    table.fileAll (filing :: rest) =
      (((table.put filing.key filing.region filing.mode).fileAll rest).1,
        (!table.contains filing.key) ::
          ((table.put filing.key filing.region filing.mode).fileAll rest).2) := by
  simp only [fileAll, file_eq]

/-- What replaces others goes before what was there, and this before the first filing. -/
theorem getElem?_fileAll (table : ExactTable) (filings : List Filing) (key : EntryKey) :
    (table.fileAll filings).1[key]? =
      ((Filing.latest? key filings).map Filing.region).or
        (table[key]?.or ((Filing.first? key filings).map Filing.region)) := by
  induction filings generalizing table with
  | nil => simp [fileAll, Filing.latest?, Filing.first?]
  | cons filing rest ih =>
      rw [fileAll_cons, ih, getElem?_put]
      by_cases hkey : filing.key = key
      · have hfirst : Filing.first? key (filing :: rest) = some filing := by
          simp [Filing.first?, hkey]
        rw [if_pos hkey, hfirst]
        cases hmode : filing.mode with
        | firstWins =>
            have hlatest : Filing.latest? key (filing :: rest) = Filing.latest? key rest := by
              simp [Filing.latest?, hmode]
            rw [hlatest]
            cases table[key]? <;> simp [WriteMode.settle]
        | lastWins =>
            have hlatest : Filing.latest? key (filing :: rest) =
                (Filing.latest? key rest).or (some filing) := by
              simp only [Filing.latest?]
              rw [List.filter_cons_of_pos (by simp [hkey, hmode]), List.getLast?_cons]
              cases List.getLast? _ <;> rfl
            rw [hlatest]
            cases Filing.latest? key rest <;> simp [WriteMode.settle]
      · have hfirst : Filing.first? key (filing :: rest) = Filing.first? key rest := by
          simp [Filing.first?, hkey]
        have hlatest : Filing.latest? key (filing :: rest) = Filing.latest? key rest := by
          simp [Filing.latest?, hkey]
        rw [if_neg hkey, hfirst, hlatest]

/-- A filing is answered by whether its key was neither there nor filed before. -/
theorem answers_fileAll (table : ExactTable) (filings : List Filing) (place : Nat) :
    (table.fileAll filings).2[place]? = filings[place]?.map fun filing =>
      decide (filing.key ∉ table ∧ ∀ earlier ∈ filings.take place, earlier.key ≠ filing.key) := by
  induction filings generalizing table place with
  | nil => simp [fileAll]
  | cons first rest ih =>
      rw [fileAll_cons]
      cases place with
      | zero => simp [← Std.ExtTreeMap.contains_iff_mem]
      | succ place =>
          rw [List.getElem?_cons_succ, List.getElem?_cons_succ, ih]
          congr 1
          funext filing
          simp [mem_put, and_assoc, Bool.and_left_comm]

theorem size_fileAll (table : ExactTable) (filings : List Filing) :
    (table.fileAll filings).1.size = table.size + (table.fileAll filings).2.count true := by
  induction filings generalizing table with
  | nil => simp [fileAll]
  | cons filing rest ih =>
      rw [fileAll_cons, List.count_cons]
      simp only [ih, size_put, Std.ExtTreeMap.mem_iff_contains]
      cases table.contains filing.key with
      | false =>
          simp
          omega
      | true => simp

/-- Filings into an empty table leave under each key the region of the latest one that replaces
others, and if there is none, that of the first one.  A filing is answered by whether it is the
first one under its key, and the table has as many entries as there are such answers. -/
theorem fileAll_empty (filings : List Filing) :
    (∀ key, ((∅ : ExactTable).fileAll filings).1[key]? =
      ((Filing.latest? key filings).or (Filing.first? key filings)).map Filing.region) ∧
    (∀ place, ((∅ : ExactTable).fileAll filings).2[place]? = filings[place]?.map fun filing =>
      decide (∀ earlier ∈ filings.take place, earlier.key ≠ filing.key)) ∧
    ((∅ : ExactTable).fileAll filings).1.size =
      ((∅ : ExactTable).fileAll filings).2.count true := by
  refine ⟨?_, ?_, ?_⟩
  · intro key
    rw [getElem?_fileAll]
    cases Filing.latest? key filings <;> simp
  · intro place
    rw [answers_fileAll]
    simp
  · rw [size_fileAll]
    simp

end ExactTable

end PostalRegions
