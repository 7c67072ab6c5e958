import PostalRegions.Country
import PostalRegions.Source.Listing
import PostalRegions.Text.DecimalDigit

/-!
# Addresses of archives

An archive is named after its year, its country, the version of the regions and its revision.
The country is read off the address, the last part of which names the cached copy.
-/

namespace PostalRegions

/-- The country in a name that a text opens with: `pc`, four digits, and the country between low
lines. -/
def countryAt? : List Char → Option Country
  | 'p' :: 'c' :: y1 :: y2 :: y3 :: y4 :: '_' :: first :: second :: '_' :: _ =>
    if [y1, y2, y3, y4].all Text.isDecimalDigit && first.isUpper && second.isUpper then
      (Country.parse (String.ofList [first, second])).toOption
    else none
  | _ => none

def firstNamed? : List Char → Option Country
  | [] => none
  | c :: rest => (countryAt? (c :: rest)).orElse fun _ => firstNamed? rest

def countryOfArchive? (address : String) : Option Country :=
  firstNamed? address.toList

def addressPath (address : List Char) : List Char :=
  address.takeWhile fun c => c != '?' && c != '#'

/-- The name of the file at an address, if its path does not end in a slash. -/
def archiveName? (address : String) : Option String :=
  let name := ((addressPath address.toList).reverse.takeWhile (· != '/')).reverse
  if name.isEmpty then none else some (String.ofList name)

/-! ## Addresses that are guessed -/

/-- The years of publication to try, the latest first. -/
def guessedYears : List String :=
  ["2025", "2024", "2023", "2020"]

/-- The revisions to try for each year, the first release first. -/
def guessedRevisions : List String :=
  ["v1.0", "v2.0", "v3.0", "v4.0"]

def archiveFileName (year version revision : String) (country : Country) : String :=
  "pc" ++ year ++ "_" ++ country.code ++ "_NUTS-" ++ version ++ "_" ++ revision ++ ".zip"

/-- Where the archive of a country may be, the likeliest place first. -/
def guessedAddresses (base version : String) (country : Country) : List String :=
  let root := String.ofList (base.toList.reverse.dropWhile (· == '/')).reverse
  guessedYears.flatMap fun year => guessedRevisions.map fun revision =>
    root ++ "/" ++ archiveFileName year version revision country

/-! ## Addresses that an operator supplies -/

inductive AddressRejection where
  | scheme
  | notArchive
deriving DecidableEq, Repr

def AddressRejection.message : AddressRejection → String
  | .scheme => "scheme must be http or https"
  | .notArchive => "not a .zip URL"

def rejection? (address : String) : Option AddressRejection :=
  let lower := address.toList.map Char.toLower
  if !("http://".toList.isPrefixOf lower || "https://".toList.isPrefixOf lower) then some .scheme
  else if !archiveSuffix.isSuffixOf lower then some .notArchive
  else none

end PostalRegions
