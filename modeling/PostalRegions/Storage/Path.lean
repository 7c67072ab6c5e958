/-!
# Paths

A path is a text whose parts stand between slashes.
-/

namespace PostalRegions.Storage

/-- A name below a folder.  A name that starts with a slash is a path of its own. -/
def join (folder name : String) : String :=
  if "/".isPrefixOf name || folder.isEmpty then name
  else if folder.toList.getLast? = some '/' then folder ++ name
  else folder ++ "/" ++ name

/-- The parts of a path, also the empty ones. -/
@[irreducible] def parts (path : String) : List String :=
  (path.toList.splitOn '/').map String.ofList

/-- The folder of a file; it is empty for a name alone. -/
def parent (path : String) : String :=
  "/".intercalate (parts path).dropLast

end PostalRegions.Storage
