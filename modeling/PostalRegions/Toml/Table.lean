import PostalRegions.Configuration.Document

/-!
# Tables of TOML

A table is put together from lines in any order.  Which further lines may add to a table depends
on how it came about: by its own header, as a part of the path of another table, or as a part of
a key with points.
-/

namespace PostalRegions.Toml

inductive Origin where
  | header
  | path
  | key
deriving DecidableEq, Repr

inductive Item where
  | value (value : Document)
  | table (origin : Origin) (members : List (String × Item))
  /-- Tables of one name, the last one first. -/
  | tables (reversed : List (List (String × Item)))

/-- The named items of a table, in the order in which they came up. -/
abbrev Members := List (String × Item)

namespace Members

/-- The members with an item under a name, in the place of an earlier one of this name. -/
def put (members : Members) (name : String) (item : Item) : Members :=
  if members.any (·.1 == name) then
    members.map fun member => if member.1 == name then (name, item) else member
  else members ++ [(name, item)]

def without (members : Members) (name : String) : Members :=
  members.filter (·.1 != name)

/-- Changes the table that a path leads to, given how it came about.  Missing tables on the path
come about as `created`.  A key may go only through tables that have no header of their own, and
of several tables of one name through the last one. -/
def update (created : Origin) (change : Origin → Members → Option Members) (here : Origin) :
    List String → Members → Option Members
  | [], members => change here members
  | name :: path, members =>
    match members.lookup name with
    | none => do
      let inner ← update created change created path []
      return members.put name (.table created inner)
    | some (.table origin inner) =>
      if created = .key ∧ origin = .header then none
      else do
        let inner ← update created change origin path inner
        return members.put name (.table origin inner)
    | some (.tables (last :: others)) => do
      let last ← update created change .header path last
      return members.put name (.tables (last :: others))
    | some _ => none

def addNew (members : Members) (name : String) (item : Item) : Option Members :=
  if (members.lookup name).isSome then none else some (members ++ [(name, item)])

/-- Adds the value of a key, given the parts of the key in front of the last one. -/
def addValue (members : Members) (path : List String) (name : String) (value : Document) :
    Option Members :=
  members |> update .key
    (fun origin inner =>
      if path.isEmpty || origin == .key then inner.addNew name (.value value) else none)
    .header path

/-- The members of the table that a header opens: those of a table on the path of an earlier
header, else none.  A table that came about in another way cannot be opened. -/
def opened? (members : Members) (name : String) : Option Members :=
  match members.lookup name with
  | none => some []
  | some (.table .path inner) => some inner
  | some _ => none

def addTables (members : Members) (name : String) (table : Members) : Option Members :=
  match members.lookup name with
  | none => some (members ++ [(name, .tables [table])])
  | some (.tables reversed) => some (members.put name (.tables (table :: reversed)))
  | some _ => none

end Members

/-! ## Finished tables -/

mutual

def Item.document : Item → Document
  | .value value => value
  | .table _ members => .table (membersDocuments members)
  | .tables reversed => .list (tablesDocuments reversed).reverse

def membersDocuments : List (String × Item) → List (String × Document)
  | [] => []
  | (name, item) :: rest => (name, item.document) :: membersDocuments rest

def tablesDocuments : List (List (String × Item)) → List Document
  | [] => []
  | members :: rest => .table (membersDocuments members) :: tablesDocuments rest

end

end PostalRegions.Toml
