import PostalRegions.Country

/-!
# Entry keys

An entry is filed under its country and the key of its postal code.  Keys are ordered by country,
then by code, and this is the order in which every table lists its entries.
-/

namespace PostalRegions

structure EntryKey where
  country : Country
  code : String
deriving DecidableEq

namespace EntryKey

instance : Ord EntryKey := ⟨compareLex (compareOn country) (compareOn code)⟩

instance : Std.TransOrd EntryKey :=
  inferInstanceAs (Std.TransCmp (compareLex (compareOn country) (compareOn code)))

instance : Std.LawfulEqOrd EntryKey where
  eq_of_compare {first second} hcompare := by
    change (compare first.country second.country).then (compare first.code second.code) = .eq
      at hcompare
    rw [Ordering.then_eq_eq] at hcompare
    have hcountry := Std.LawfulEqOrd.eq_of_compare hcompare.1
    have hcode := Std.LawfulEqOrd.eq_of_compare hcompare.2
    cases first
    cases second
    simp_all

def leading (key : EntryKey) (length : Nat) : EntryKey :=
  ⟨key.country, String.ofList (key.code.toList.take length)⟩

def length (key : EntryKey) : Nat :=
  key.code.toList.length

/-- The leading parts of the code that are neither empty nor the whole code, the shortest
first. -/
def properPrefixes (key : EntryKey) : List EntryKey :=
  (List.range (key.length - 1)).map fun dropped => key.leading (dropped + 1)

end EntryKey

end PostalRegions
