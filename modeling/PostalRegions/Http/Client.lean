import PostalRegions.Source.Failure
import PostalRegions.Text.Encoding

/-!
# Downloading

Archives and listings over a link to a server.  A failed connection is tried once more for an
archive.
-/

namespace PostalRegions.Http

inductive Exchange where
  | dropped
  /-- A response with a body, which may end too early. -/
  | response (status : Nat) (body : ByteArray) (isComplete : Bool)

/-- A link to a server that plays one exchange per connection, in order, as far as the server can
be reached at all. -/
structure Link where
  isReachable : Bool
  exchanges : List Exchange
  received : Nat

namespace Link

def unreachable : Link :=
  ⟨false, [], 0⟩

def connect (link : Link) : Link × Exchange :=
  match link.isReachable, link.exchanges with
  | true, exchange :: rest => (⟨true, rest, link.received + 1⟩, exchange)
  | _, _ => (link, .dropped)

def isSuccess (status : Nat) : Bool :=
  200 ≤ status && status < 300

def bodyOf (status : Nat) (body : ByteArray) (isComplete : Bool) :
    Except SourceFailure ByteArray :=
  if !isSuccess status then .error (.status status)
  else if isComplete then .ok body
  else .error .network

/-- Asks for an archive once.  A missing one is no failure. -/
def fetchOnce (link : Link) : Link × Except SourceFailure (Option ByteArray) :=
  match link.connect with
  | (link, .dropped) => (link, .error .network)
  | (link, .response status body isComplete) =>
    if status = 404 then (link, .ok none)
    else (link, (bodyOf status body isComplete).map some)

/-- Asks for an archive, a second time if another attempt may help. -/
def fetch (link : Link) : Link × Except SourceFailure (Option ByteArray) :=
  match link.fetchOnce with
  | (link, .error cause) => if cause.isTransient then link.fetchOnce else (link, .error cause)
  | answered => answered

def fetchListing (link : Link) : Link × Except SourceFailure String :=
  match link.connect with
  | (link, .dropped) => (link, .error .network)
  | (link, .response status body isComplete) =>
    (link, (bodyOf status body isComplete).map Text.decodeLossy)

end Link

end PostalRegions.Http
