import PostalRegions.Calendar.Instant
import PostalRegions.Storage.Path
import Std.Data.ExtTreeMap

/-!
# The data directory

A tree of folders and files below one root.  A path is followed from the root, with a slash in
front or without one, part by part through folders that are there.  A step back leads to the folder
above, and from the root to the root.  Writing a file replaces what was there as a whole.
-/

namespace PostalRegions.Storage

abbrev Place := List String

inductive Node (δ : Type) where
  | folder
  | file (content : δ) (modified : Instant)

structure Directory (δ : Type) where
  nodes : Std.ExtTreeMap Place (Node δ)

/-- Whether a file or folder can have the name: at most 255 bytes, none of them zero. -/
def isLegalName (name : String) : Bool :=
  name.utf8ByteSize ≤ 255 && !name.toList.contains '\x00'

def step (here : Place) (part : String) : Place :=
  if part = "" ∨ part = "." then here
  else if part = ".." then here.dropLast
  else here ++ [part]

namespace Directory

variable {δ : Type}

def empty : Directory δ :=
  ⟨∅⟩

/-- What is at a place; the root is always a folder. -/
def nodeAt? (directory : Directory δ) (place : Place) : Option (Node δ) :=
  if place = [] then some .folder else directory.nodes[place]?

def isFolder (directory : Directory δ) (place : Place) : Bool :=
  match directory.nodeAt? place with
  | some .folder => true
  | _ => false

/-- The place that parts of a path lead to; all but the last one lead to folders. -/
def follow? (directory : Directory δ) (here : Place) : List String → Option Place
  | [] => some here
  | part :: rest =>
    if directory.isFolder here then directory.follow? (step here part) rest else none

def place? (directory : Directory δ) (path : String) : Option Place :=
  directory.follow? [] (parts path)

def node? (directory : Directory δ) (path : String) : Option (Node δ) :=
  (directory.place? path).bind directory.nodeAt?

/-- The file at the end of a path, with the moment of its last change. -/
def file? (directory : Directory δ) (path : String) : Option (δ × Instant) :=
  match directory.node? path with
  | some (.file content modified) => some (content, modified)
  | _ => none

def isFile (directory : Directory δ) (path : String) : Bool :=
  (directory.file? path).isSome

def insert (directory : Directory δ) (place : Place) (node : Node δ) : Directory δ :=
  ⟨directory.nodes.insert place node⟩

/-- Makes the folders that parts of a path lead through.  Folders that are made before one cannot
be made stay. -/
def makeFoldersFrom (directory : Directory δ) (here : Place) : List String → Directory δ × Bool
  | [] => (directory, true)
  | part :: rest =>
    let next := step here part
    if directory.isFolder next then directory.makeFoldersFrom next rest
    else if (directory.nodeAt? next).isSome || !isLegalName part then (directory, false)
    else (directory.insert next .folder).makeFoldersFrom next rest

/-- Makes the folders of a path; tells whether all of them are there. -/
def makeFolders (directory : Directory δ) (path : String) : Directory δ × Bool :=
  directory.makeFoldersFrom [] (parts path)

/-- Writes a file into a folder that is there, in place of any file of this name. -/
def write? (directory : Directory δ) (path : String) (content : δ) (now : Instant) :
    Option (Directory δ) := do
  let place ← directory.place? path
  let name ← place.getLast?
  if directory.isFolder place || !isLegalName name then none
  else some (directory.insert place (.file content now))

def remove (directory : Directory δ) (path : String) : Directory δ :=
  match directory.place? path with
  | some place =>
    if directory.isFile path then ⟨directory.nodes.erase place⟩ else directory
  | none => directory

/-- The paths of all files, in the order of their texts. -/
def filePaths (directory : Directory δ) : List String :=
  let paths := directory.nodes.toList.filterMap fun (place, node) =>
    match node with
    | .file _ _ => some ("/".intercalate place)
    | .folder => none
  paths.mergeSort (· ≤ ·)

end Directory

end PostalRegions.Storage
