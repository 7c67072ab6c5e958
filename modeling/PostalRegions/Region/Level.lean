/-!
# Administrative levels

Region codes nest: the code of a coarser region is a leading part of the code of each finer
region in it.  Widths count bytes of the encoded code.
-/

namespace PostalRegions

/-- The three nested administrative levels, the coarsest first. -/
inductive Level where
  | one
  | two
  | three
deriving DecidableEq, Repr

namespace Level

/-- All levels, the coarsest first. -/
def all : List Level :=
  [.one, .two, .three]

/-- How many leading bytes of a finest code name the region of this level; the finest level
takes the whole code. -/
def width : Level → Option Nat
  | .one => some 3
  | .two => some 4
  | .three => none

/-- The leading characters that take up exactly so many bytes, if there are any such. -/
def takeBytes : Nat → List Char → Option (List Char)
  | 0, _ => some []
  | _ + 1, [] => none
  | bytes, c :: rest =>
    if c.utf8Size ≤ bytes then (takeBytes (bytes - c.utf8Size) rest).map (c :: ·) else none

/-- Cuts a code down to this level.  A code that is too short, or that would be cut inside a
character, is left whole. -/
def truncate (level : Level) (code : String) : String :=
  match level.width with
  | none => code
  | some bytes =>
    match takeBytes bytes code.toList with
    | some kept => String.ofList kept
    | none => code

end Level

end PostalRegions
