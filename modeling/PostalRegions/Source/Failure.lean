/-!
# Failures of sources

Why the bytes at an address could not be had.  No failure ends a rebuild; the address is left
out.
-/

namespace PostalRegions

inductive SourceFailure where
  | network
  /-- The server answered with another status than success or absence. -/
  | status (code : Nat)
  | notArchive (address : String)
  | cache
deriving DecidableEq, Repr

def SourceFailure.isTransient (failure : SourceFailure) : Bool :=
  failure == .network

end PostalRegions
