/-!
# Directory listings

A listing page links the archives of a release.  A link is an attribute value in double quotes
that ends in `.zip`; what it links is either a full address or a name below the page's own one.
-/

namespace PostalRegions

def linkOpening : List Char :=
  "href=\"".toList

def archiveSuffix : List Char :=
  ".zip".toList

/-- The value of the link that a text opens with, and the rest of the text, if the link is
complete and leads to an archive. -/
def linkAt? (text : List Char) : Option (List Char × List Char) :=
  if linkOpening.isPrefixOf text then
    let behind := text.drop linkOpening.length
    let value := behind.takeWhile (· != '"')
    match behind.dropWhile (· != '"') with
    | _ :: rest => if archiveSuffix.isSuffixOf value then some (value, rest) else none
    | [] => none
  else none

theorem length_lt_of_linkAt? {text value rest : List Char}
    (hlink : linkAt? text = some (value, rest)) : rest.length < text.length := by
  unfold linkAt? at hlink
  split at hlink
  · have hlonger :=
      (List.dropWhile_sublist (· != '"') (l := text.drop linkOpening.length)).length_le
    dsimp only at hlink
    split at hlink
    · rename_i hdrop
      rw [hdrop] at hlonger
      split at hlink
      · cases hlink
        simp only [List.length_cons, List.length_drop] at hlonger
        omega
      · cases hlink
    · cases hlink
  · cases hlink

/-- The values of the links to archives, in their order.  Behind a link the search goes on with
what follows it. -/
def linkValues : List Char → List (List Char)
  | [] => []
  | c :: rest =>
    match _hlink : linkAt? (c :: rest) with
    | some (value, behind) => value :: linkValues behind
    | none => linkValues rest
termination_by text => text.length
decreasing_by
  · exact length_lt_of_linkAt? (by assumption)
  · simp

/-- A name below a base address; there is one slash between the two. -/
def joinAddress (base name : List Char) : List Char :=
  (base.reverse.dropWhile (· == '/')).reverse ++ '/' :: name.dropWhile (· == '/')

/-- The address of a link on the page of a base address.  A value that starts like a web address
is one. -/
def linkAddress (base value : List Char) : List Char :=
  if "http".toList.isPrefixOf value then value else joinAddress base value

def archiveLinks (page base : String) : List String :=
  (linkValues page.toList).map fun value => String.ofList (linkAddress base.toList value)

end PostalRegions
