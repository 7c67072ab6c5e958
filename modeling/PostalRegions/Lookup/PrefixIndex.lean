import PostalRegions.Entry.Table

/-!
# The prefix index

Under each proper prefix of the keys of an exact table the index lists the regions of the
entries that the prefix selects, in the order of their keys.
-/

namespace PostalRegions

abbrev PrefixIndex := Table (List RegionCode)

structure Neighbours where
  matched : Nat
  votes : List RegionCode
deriving DecidableEq

namespace PrefixIndex

def addVote (index : PrefixIndex) (leading : EntryKey) (region : RegionCode) : PrefixIndex :=
  index.alter leading fun votes => some (region :: votes.getD [])

def addEntry (entry : EntryKey × RegionCode) (index : PrefixIndex) : PrefixIndex :=
  entry.1.properPrefixes.foldl (fun index leading => index.addVote leading entry.2) index

def ofTable (exact : ExactTable) : PrefixIndex :=
  exact.toList.foldr addEntry ∅

def neighboursFrom (index : PrefixIndex) (key : EntryKey) : Nat → Option Neighbours
  | 0 => none
  | shorter + 1 =>
    match index[key.leading (shorter + 1)]? with
    | some votes => some ⟨shorter + 1, votes⟩
    | none => index.neighboursFrom key shorter

/-- The neighbours of a key: the entries below its longest indexed prefix, the whole key
included. -/
def neighbours? (index : PrefixIndex) (key : EntryKey) : Option Neighbours :=
  index.neighboursFrom key key.length

end PrefixIndex

end PostalRegions
