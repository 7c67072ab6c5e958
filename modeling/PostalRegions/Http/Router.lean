import PostalRegions.Dataset.Basic
import PostalRegions.Http.Query

/-!
# Answering requests

The service answers three kinds of requests: the regions of a postal code, the state of the
dataset, and the postal code format of a country.
-/

namespace PostalRegions.Http

structure LookupQuery where
  postalCode : String
  country : String
deriving DecidableEq, Repr

structure Health where
  exactCount : Nat
  estimateCount : Nat
  countries : List Country
  isStale : Bool
  loadedAt : Option Instant
  version : String
  extraSourceCount : Nat

def Health.status (health : Health) : String :=
  if 0 < health.exactCount then "ok" else "no_data"

inductive Body (κ : Type) where
  | none
  | text (message : String)
  | failure (message : String)
  | found (query : LookupQuery) (country : String) (found : RegionMatch κ)
  | health (health : Health)
  | format (country : Country) (format : PostalFormat)

structure Response (κ : Type) where
  status : Nat
  body : Body κ

variable {κ : Type}

/-! ## Addresses -/

def localPart (address : String) : String :=
  if "/".isPrefixOf address then address
  else
    let behind := "://".intercalate ((address.splitOn "://").drop 1)
    String.ofList (behind.toList.dropWhile fun c => c != '/' && c != '?' && c != '#')

def pathAndQuery (address : String) : String × String :=
  let chars := (localPart address).toList.takeWhile (· != '#')
  (String.ofList (chars.takeWhile (· != '?')),
    String.ofList ((chars.dropWhile (· != '?')).drop 1))

/-! ## Routes -/

inductive Route where
  | lookup
  | health
  | pattern (country : String)
deriving DecidableEq, Repr

def Route.ofPath? (path : String) : Option Route :=
  match path.splitOn "/" with
  | ["", "lookup"] => some .lookup
  | ["", "health"] => some .health
  | ["", "pattern", country] => if country.isEmpty then none else some (.pattern country)
  | _ => none

/-! ## Answers -/

def shownCountry (country : String) : String :=
  (Text.trim country).map Char.toUpper

def answerLookup [Confidence κ] (dataset : Dataset κ) (query : LookupQuery) : Response κ :=
  match Country.parseLoose query.country with
  | .error _ => ⟨400, .failure ("Invalid country code: " ++ query.country)⟩
  | .ok _ =>
    match dataset.current.lookup query.country query.postalCode with
    | some found => ⟨200, .found query (shownCountry query.country) found⟩
    | none =>
      ⟨404, .failure ("No region found for postal code '" ++ query.postalCode ++
        "' in country '" ++ shownCountry query.country ++ "'")⟩

def LookupQuery.ofQuery (query : String) : Except QueryError LookupQuery :=
  let pairs := queryPairs query
  match duplicate? ["postal_code", "country"] [] pairs with
  | some name => .error (.duplicate name)
  | none => do
    let postalCode ← valueOf pairs "postal_code"
    let country ← valueOf pairs "country"
    return ⟨postalCode, country⟩

def Health.ofDataset (dataset : Dataset κ) : Health where
  exactCount := dataset.current.tables.exact.size
  estimateCount := dataset.current.tables.estimates.size
  countries := dataset.current.status.loadedCountries.toList
  isStale := dataset.current.status.isStale
  loadedAt := dataset.current.status.loadedAt
  version := dataset.settings.version
  extraSourceCount := dataset.current.status.extraSourceCount

def answerPattern (name : String) : Response κ :=
  match String.fromUTF8? ⟨(percentDecode (bytesOf name)).toArray⟩ with
  | none => ⟨400, .text "Invalid URL: Invalid UTF-8 in `country`"⟩
  | some name =>
    match Country.parseLoose name with
    | .error _ => ⟨400, .failure ("Invalid country code: " ++ name)⟩
    | .ok country =>
      match PostalFormat.of? country.provider with
      | some format => ⟨200, .format country format⟩
      | none =>
        ⟨404, .failure ("No postal code pattern for country '" ++ country.code ++ "'")⟩

def answerRoute [Confidence κ] (dataset : Dataset κ) (query : String) : Route → Response κ
  | .lookup =>
    match LookupQuery.ofQuery query with
    | .ok query => answerLookup dataset query
    | .error cause => ⟨400, .text cause.message⟩
  | .health => ⟨200, .health (.ofDataset dataset)⟩
  | .pattern country => answerPattern country

/-- The answer to a request.  A request for the head of an answer gets no body. -/
def respond [Confidence κ] (dataset : Dataset κ) (method address : String) : Response κ :=
  let (path, query) := pathAndQuery address
  match Route.ofPath? path with
  | none => ⟨404, .none⟩
  | some route =>
    if method = "GET" then answerRoute dataset query route
    else if method = "HEAD" then ⟨(answerRoute dataset query route).status, .none⟩
    else ⟨405, .none⟩

end PostalRegions.Http
