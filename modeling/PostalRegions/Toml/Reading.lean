import PostalRegions.Toml.Number
import PostalRegions.Toml.Table

/-!
# Reading TOML

A configuration file is a sequence of lines: headers that open a table, and keys with their
values.  Values nest up to a fixed depth.
-/

namespace PostalRegions.Toml

/-! ## Values -/

/-- Reads the items of a list up to the bracket that ends it, given the items read so far, the
last one first.  A comma may follow the last item. -/
def listItems? (item : Reader Document) : Nat → List Document → Reader (List Document)
  | 0, _, _ => none
  | bound + 1, reversed, text =>
    match skipLines text.length text with
    | ']' :: rest => some (reversed.reverse, rest)
    | text => do
      let (value, rest) ← item text
      match skipLines rest.length rest with
      | ',' :: rest => listItems? item bound (value :: reversed) rest
      | ']' :: rest => some ((value :: reversed).reverse, rest)
      | _ => none

def keyValue? (item : Reader Document) (text : List Char) :
    Option ((List String × Document) × List Char) := do
  let (key, rest) ← key? text
  let rest ← expect? '=' rest
  let (value, rest) ← item (skipSpaces rest)
  return ((key, value), rest)

def Members.addKeyValue (members : Members) (key : List String) (value : Document) :
    Option Members :=
  match key.reverse with
  | [] => none
  | name :: path => members.addValue path.reverse name value

/-- Reads the members of a table on one line up to the brace that ends it, given the members read
so far.  No comma follows the last member. -/
def inlineMembers? (item : Reader Document) : Nat → Members → Reader Members
  | 0, _, _ => none
  | bound + 1, members, text => do
    let ((key, value), rest) ← keyValue? item text
    let members ← members.addKeyValue key value
    match skipSpaces rest with
    | ',' :: rest => inlineMembers? item bound members rest
    | '\x7d' :: rest => some (members, rest)
    | _ => none

def inlineTable? (item : Reader Document) (text : List Char) : Option (Document × List Char) :=
  match skipSpaces text with
  | '\x7d' :: rest => some (.table [], rest)
  | text => do
    let (members, rest) ← inlineMembers? item text.length [] text
    return (.table (membersDocuments members), rest)

def scalar? (text : List Char) : Option (Document × List Char) :=
  match text with
  | 't' :: 'r' :: 'u' :: 'e' :: rest => some (.truth true, rest)
  | 'f' :: 'a' :: 'l' :: 's' :: 'e' :: rest => some (.truth false, rest)
  | '"' :: _ | '\'' :: _ => (string? text).map fun (value, rest) => (.text value, rest)
  | _ => if startsMoment text then moment? text else number? text

def value? : Nat → Reader Document
  | 0, text => scalar? text
  | depth + 1, text =>
    match text with
    | '[' :: rest => do
      let (items, rest) ← listItems? (value? depth) text.length [] rest
      return (.list items, rest)
    | '\x7b' :: rest => inlineTable? (value? depth) rest
    | _ => scalar? text

/-! ## Lines -/

/-- A file that was read up to some line: the tables that are finished, and the one that lines
are added to. -/
structure Reading where
  root : Members
  /-- The path of the open table; it is empty in front of the first header. -/
  path : List String
  isRepeated : Bool
  members : Members

namespace Reading

def start : Reading :=
  ⟨[], [], false, []⟩

def finish? (reading : Reading) : Option Members :=
  match reading.path.reverse with
  | [] => some reading.members
  | name :: path =>
    reading.root.update .path
      (fun _ members =>
        if reading.isRepeated then members.addTables name reading.members
        else members.addNew name (.table .header reading.members))
      .header path.reverse

def openTable? (reading : Reading) (path : List String) (isRepeated : Bool) : Option Reading := do
  let root ← reading.finish?
  match path.reverse with
  | [] => none
  | name :: outer =>
    if isRepeated then some ⟨root, path, true, []⟩
    else
      let root ← root.update .path (fun _ members => some members) .header outer.reverse
      let opened ← openedAt? name outer.reverse root
      let root ← root.update .path (fun _ members => some (members.without name)) .header
        outer.reverse
      some ⟨root, path, false, opened⟩
where
  openedAt? (name : String) : List String → Members → Option Members
    | [], members => members.opened? name
    | step :: path, members =>
      match members.lookup step with
      | some (.table _ inner) => openedAt? name path inner
      | some (.tables (last :: _)) => openedAt? name path last
      | _ => none

def header? (reading : Reading) (text : List Char) : Option (Reading × List Char) :=
  match text with
  | '[' :: rest => do
    let (path, rest) ← key? rest
    let rest ← expect? ']' rest
    let rest ← expect? ']' rest
    let rest ← lineRest? rest
    return (← reading.openTable? path true, rest)
  | _ => do
    let (path, rest) ← key? text
    let rest ← expect? ']' rest
    let rest ← lineRest? rest
    return (← reading.openTable? path false, rest)

def line? (reading : Reading) (text : List Char) : Option (Reading × List Char) :=
  match text with
  | '[' :: rest => reading.header? rest
  | _ => do
    let ((key, value), rest) ← keyValue? (value? maxDepth) text
    let members ← reading.members.addKeyValue key value
    let rest ← lineRest? rest
    return (⟨reading.root, reading.path, reading.isRepeated, members⟩, rest)

/-- Reads all lines.  The first argument bounds their number. -/
def lines? : Nat → Reading → List Char → Option Reading
  | 0, _, _ => none
  | bound + 1, reading, text =>
    match skipSpaces text with
    | [] => some reading
    | text =>
      match lineRest? text with
      | some rest => lines? bound reading rest
      | none => do
        let (reading, rest) ← reading.line? text
        lines? bound reading rest

end Reading

def parse? (text : String) : Option Document := do
  let chars := match text.toList with
    | '\uFEFF' :: rest => rest
    | chars => chars
  let reading ← Reading.lines? (chars.length + 1) .start chars
  let members ← reading.finish?
  return .table (membersDocuments members)

end PostalRegions.Toml
