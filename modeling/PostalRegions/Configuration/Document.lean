import PostalRegions.Decimal.Literal

/-!
# Configuration documents

What a configuration file says, apart from the form in which it is written.
-/

namespace PostalRegions

inductive Document where
  | text (value : String)
  | integer (value : Int)
  | decimal (value : DecimalLiteral)
  | notFinite
  | truth (value : Bool)
  | list (items : List Document)
  | table (members : List (String × Document))
  /-- A date, a time or nothing; no setting takes such a value. -/
  | other
deriving Inhabited

end PostalRegions
