import Mathlib.Data.List.Sort
import PostalRegions.Lookup.PrefixIndex

/-!
# Neighbours without an index

The neighbours of a key are the entries of its country whose keys go on after the longest possible
beginning of the key.  The prefix index finds exactly these, in the order of their keys, whatever
the order was in which the entries of the table were put into it.
-/

namespace PostalRegions

/-! ## Leading parts of keys -/

namespace EntryKey

@[simp] theorem toList_leading (key : EntryKey) (length : Nat) :
    (key.leading length).code.toList = key.code.toList.take length := by
  simp [leading]

/-- Another key of the same country goes on after the first so many characters of a key. -/
def GoesOnAfter (other key : EntryKey) (length : Nat) : Prop :=
  other.country = key.country ∧ length < other.length ∧
    key.code.toList.take length <+: other.code.toList

instance (other key : EntryKey) (length : Nat) : Decidable (other.GoesOnAfter key length) :=
  inferInstanceAs (Decidable (_ ∧ _ ∧ _))

theorem ext {one other : EntryKey} (hcountry : one.country = other.country)
    (hcode : one.code.toList = other.code.toList) : one = other := by
  cases one
  cases other
  simp_all [String.toList_inj]

theorem leading_mem_properPrefixes {key other : EntryKey} {length : Nat} (hpositive : 0 < length)
    (hlength : length ≤ key.length) :
    key.leading length ∈ other.properPrefixes ↔ other.GoesOnAfter key length := by
  unfold properPrefixes GoesOnAfter
  simp only [List.mem_map, List.mem_range]
  constructor
  · rintro ⟨dropped, hdropped, hsame⟩
    have hcountry : other.country = key.country := by
      simpa [leading] using congrArg EntryKey.country hsame
    have htake : other.code.toList.take (dropped + 1) = key.code.toList.take length := by
      rw [← toList_leading, hsame, toList_leading]
    have hlengths := congrArg List.length htake
    rw [List.length_take, List.length_take] at hlengths
    have hexact : dropped + 1 = length := by
      unfold EntryKey.length at hdropped hlength
      omega
    refine ⟨hcountry, by omega, ?_⟩
    rw [← htake]
    exact List.take_prefix _ _
  · rintro ⟨hcountry, hlonger, hprefix⟩
    refine ⟨length - 1, by omega, ?_⟩
    rw [Nat.sub_add_cancel hpositive]
    refine ext hcountry ?_
    rw [toList_leading, toList_leading, List.prefix_iff_eq_take.mp hprefix, List.length_take]
    congr 1
    unfold EntryKey.length at hlength
    omega

theorem nodup_properPrefixes (key : EntryKey) : key.properPrefixes.Nodup := by
  refine List.Nodup.map_on ?_ List.nodup_range
  intro one hone other hother hsame
  have hlengths := congrArg (fun key : EntryKey => key.code.toList.length) hsame
  simp only [toList_leading, List.length_take] at hlengths
  rw [List.mem_range] at hone hother
  unfold EntryKey.length at hone hother
  omega

end EntryKey

/-! ## What the index holds -/

namespace PrefixIndex

theorem getElem?_addVote {index : PrefixIndex} {leading key : EntryKey} {region : RegionCode} :
    (index.addVote leading region)[key]? =
      if leading = key then some (region :: index[key]?.getD []) else index[key]? := by
  rw [addVote, Std.ExtTreeMap.getElem?_alter]
  by_cases hkey : leading = key
  · subst key
    simp
  · have hcompare : compare leading key ≠ .eq := fun h => hkey (Std.compare_eq_iff_eq.mp h)
    rw [if_neg hcompare, if_neg hkey]

theorem getElem?_addEntry {index : PrefixIndex} {entry : EntryKey × RegionCode}
    {key : EntryKey} :
    (addEntry entry index)[key]? =
      if key ∈ entry.1.properPrefixes then some (entry.2 :: index[key]?.getD [])
      else index[key]? := by
  have hvotes : ∀ (prefixes : List EntryKey) (index : PrefixIndex), prefixes.Nodup →
      (prefixes.foldl (fun index leading => addVote index leading entry.2) index)[key]? =
        if key ∈ prefixes then some (entry.2 :: index[key]?.getD []) else index[key]? := by
    intro prefixes
    induction prefixes with
    | nil => simp
    | cons leading rest ih =>
        intro index hnodup
        obtain ⟨hnew, hrest⟩ := List.nodup_cons.mp hnodup
        rw [List.foldl_cons, ih _ hrest, getElem?_addVote]
        by_cases hkey : leading = key
        · subst key
          simp [hnew]
        · have hother : key ≠ leading := fun h => hkey h.symm
          simp [hkey, hother]
  exact hvotes _ index entry.1.nodup_properPrefixes

/-- The regions of the entries that are selected by a leading part of their keys. -/
def votesUnder (key : EntryKey) (entries : List (EntryKey × RegionCode)) : List RegionCode :=
  (entries.filter fun entry => key ∈ entry.1.properPrefixes).map Prod.snd

/-- Under a key the index has the votes, if there are any. -/
theorem getElem?_foldr_addEntry {entries : List (EntryKey × RegionCode)} {key : EntryKey} :
    (entries.foldr addEntry (∅ : PrefixIndex))[key]? =
      if votesUnder key entries = [] then none else some (votesUnder key entries) := by
  induction entries with
  | nil => simp [votesUnder]
  | cons entry rest ih =>
      rw [List.foldr_cons, getElem?_addEntry, ih]
      by_cases hentry : key ∈ entry.1.properPrefixes
      · have hvotes : votesUnder key (entry :: rest) = entry.2 :: votesUnder key rest := by
          simp [votesUnder, hentry]
        rw [if_pos hentry, hvotes]
        by_cases hrest : votesUnder key rest = []
        · simp [hrest]
        · simp [hrest]
      · have hvotes : votesUnder key (entry :: rest) = votesUnder key rest := by
          simp [votesUnder, hentry]
        rw [if_neg hentry, hvotes]

end PrefixIndex

/-! ## A plain scan -/

namespace ExactTable

/-- The entries whose keys go on after the first so many characters of a key, in their order. -/
def goingOn (exact : ExactTable) (key : EntryKey) (length : Nat) :
    List (EntryKey × RegionCode) :=
  exact.toList.filter fun entry => entry.1.GoesOnAfter key length

/-- The greatest length, up to the whole key, after which an entry goes on. -/
def sharedLength? (exact : ExactTable) (key : EntryKey) : Option Nat :=
  ((List.range' 1 key.length).filter fun length => exact.goingOn key length ≠ []).max?

end ExactTable

namespace PrefixIndex

theorem votesUnder_leading {exact : ExactTable} {key : EntryKey} {length : Nat}
    (hpositive : 0 < length) (hlength : length ≤ key.length) :
    votesUnder (key.leading length) exact.toList =
      (exact.goingOn key length).map Prod.snd := by
  unfold votesUnder ExactTable.goingOn
  simp only [EntryKey.leading_mem_properPrefixes hpositive hlength]

theorem getElem?_ofTable {exact : ExactTable} {key : EntryKey} {length : Nat}
    (hpositive : 0 < length) (hlength : length ≤ key.length) :
    (ofTable exact)[key.leading length]? =
      if exact.goingOn key length = [] then none
      else some ((exact.goingOn key length).map Prod.snd) := by
  rw [ofTable, getElem?_foldr_addEntry, votesUnder_leading hpositive hlength]
  simp only [List.map_eq_nil_iff]

theorem neighboursFrom_ofTable (exact : ExactTable) (key : EntryKey) {limit : Nat}
    (hlimit : limit ≤ key.length) :
    (ofTable exact).neighboursFrom key limit =
      ((List.range' 1 limit).filter fun length => exact.goingOn key length ≠ []).max?.map
        fun length => ⟨length, (exact.goingOn key length).map Prod.snd⟩ := by
  induction limit with
  | zero => rfl
  | succ shorter ih =>
      rw [neighboursFrom, getElem?_ofTable (Nat.succ_pos shorter) hlimit, List.range'_1_concat,
        List.filter_append, Nat.add_comm 1 shorter]
      by_cases hnone : exact.goingOn key (shorter + 1) = []
      · simp only [hnone, if_true]
        rw [ih (by omega)]
        simp [hnone]
      · have hgreatest : ((List.range' 1 shorter).filter
              (fun length => exact.goingOn key length ≠ []) ++ [shorter + 1]).max? =
            some (shorter + 1) := by
          rw [List.max?_eq_some_iff]
          refine ⟨by simp, ?_⟩
          intro length hlength
          rcases List.mem_append.mp hlength with hless | hlast
          · have hrange := List.mem_range'_1.mp (List.mem_filter.mp hless).1
            omega
          · rw [List.mem_singleton.mp hlast]
        have hlast : [shorter + 1].filter (fun length => exact.goingOn key length ≠ []) =
            [shorter + 1] := by simp [hnone]
        rw [if_neg hnone, hlast, hgreatest]
        rfl

theorem neighbours?_ofTable (exact : ExactTable) (key : EntryKey) :
    (ofTable exact).neighbours? key =
      (exact.sharedLength? key).map fun length =>
        ⟨length, (exact.goingOn key length).map Prod.snd⟩ :=
  neighboursFrom_ofTable exact key (Nat.le_refl _)

/-! ## Any order of the entries -/

/-- The index of the entries of a table that are listed in any order. -/
def ofListing (listing : List (EntryKey × RegionCode)) : PrefixIndex :=
  (listing.mergeSort fun one other => (compare one.1 other.1).isLE).foldr addEntry ∅

theorem ofListing_eq {exact : ExactTable} {listing : List (EntryKey × RegionCode)}
    (hlisting : listing.Perm exact.toList) : ofListing listing = ofTable exact := by
  let ordered (one other : EntryKey × RegionCode) : Bool := (compare one.1 other.1).isLE
  have htransitive : ∀ one middle other, ordered one middle → ordered middle other →
      ordered one other :=
    fun _ _ _ => Std.TransCmp.isLE_trans
  have htotal : ∀ one other, ordered one other || ordered other one := by
    intro one other
    cases hordered : ordered one other with
    | true => rfl
    | false =>
        have hless : compare other.1 one.1 = .lt :=
          Std.OrientedCmp.lt_of_not_isLE (by simpa [ordered] using hordered)
        simp [ordered, hless]
  have hsame : listing.mergeSort ordered = exact.toList := by
    refine List.Perm.eq_of_pairwise ?_ (List.pairwise_mergeSort htransitive htotal listing) ?_
      ((listing.mergeSort_perm ordered).trans hlisting)
    · -- Two entries in the same place have one key, and a table has one entry under a key.
      rintro ⟨key, region⟩ ⟨other, otherRegion⟩ hone hother hbefore hafter
      have hkey : key = other :=
        Std.compare_eq_iff_eq.mp (Std.OrientedCmp.isLE_antisymm hbefore hafter)
      have hlisted := ((listing.mergeSort_perm ordered).trans hlisting).mem_iff.mp hone
      rw [Std.ExtTreeMap.mem_toList_iff_getElem?_eq_some] at hlisted hother
      rw [hkey, hother] at hlisted
      rw [hkey, Option.some.inj hlisted]
    · refine Std.ExtTreeMap.ordered_keys_toList.imp ?_
      intro one other hless
      simp [ordered, hless]
  change (listing.mergeSort ordered).foldr addEntry ∅ = exact.toList.foldr addEntry ∅
  rw [hsame]

end PrefixIndex

end PostalRegions
