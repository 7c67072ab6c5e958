/-!
# Lines

A text is cut into lines at line feeds; a carriage return in front of the line feed belongs to
the line's end.  What follows the last line feed is a line only if it is not empty.
-/

namespace PostalRegions.Text

/-- A finished line, given with its last character first, without a final carriage return. -/
def finishLine : List Char → List Char
  | '\r' :: reversed => reversed.reverse
  | reversed => reversed.reverse

/-- The lines of a text, given the characters read so far of the first one, last first. -/
def linesFrom (reversed : List Char) : List Char → List (List Char)
  | [] => if reversed.isEmpty then [] else [reversed.reverse]
  | '\n' :: rest => finishLine reversed :: linesFrom [] rest
  | c :: rest => linesFrom (c :: reversed) rest

def lines (text : List Char) : List (List Char) :=
  linesFrom [] text

end PostalRegions.Text
