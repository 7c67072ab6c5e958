import PostalRegions.Delimited.Record

/-!
# Finding columns by name

A column may go by several names.  The first candidate that the header has decides, whatever
the order of the columns.
-/

namespace PostalRegions.Delimited

def columnNamed? (names : List String) (name : String) : Option Nat :=
  names.findIdx? (· == name)

def findColumn? (names : List String) (candidates : List String) : Option Nat :=
  candidates.findSome? (columnNamed? names)

variable {names : List String} {name : String} {column : Nat}

theorem columnNamed?_eq_some_iff :
    columnNamed? names name = some column ↔
      names[column]? = some name ∧ ∀ earlier < column, names[earlier]? ≠ some name := by
  rw [columnNamed?, List.findIdx?_eq_some_iff_getElem]
  constructor
  · rintro ⟨hlt, hname, hfirst⟩
    refine ⟨by rw [List.getElem?_eq_getElem hlt, beq_iff_eq.mp hname], ?_⟩
    intro earlier hearlier hsame
    obtain ⟨hbound, hname⟩ := List.getElem?_eq_some_iff.mp hsame
    exact hfirst earlier hearlier (beq_iff_eq.mpr hname)
  · rintro ⟨hname, hfirst⟩
    obtain ⟨hlt, hname⟩ := List.getElem?_eq_some_iff.mp hname
    refine ⟨hlt, beq_iff_eq.mpr hname, ?_⟩
    intro earlier hearlier hsame
    have hbound : earlier < names.length := Nat.lt_trans hearlier hlt
    apply hfirst earlier hearlier
    rw [List.getElem?_eq_getElem hbound, beq_iff_eq.mp hsame]

theorem columnNamed?_eq_some (hcolumn : columnNamed? names name = some column) :
    names[column]? = some name :=
  (columnNamed?_eq_some_iff.mp hcolumn).1

end PostalRegions.Delimited
