import PostalRegions.Source.Failure

/-!
# Fetching

What an acquisition asks of the network, and what the network answers.  An answer may depend on
everything that was asked before, and takes some time.
-/

namespace PostalRegions

inductive Request where
  | listing (address : String)
  | archive (address : String)
deriving DecidableEq, Repr

def Request.address : Request → String
  | .listing address => address
  | .archive address => address

/-- An answer, and how many milliseconds it took. -/
structure Reply (α : Type) where
  answer : Except SourceFailure α
  elapsed : Nat

/-- A source of archives and listings.  The requests made before are given in their order.  An
archive that does not exist is no failure. -/
structure Fetcher where
  archive : List Request → String → Reply (Option ByteArray)
  listing : List Request → String → Reply String

end PostalRegions
