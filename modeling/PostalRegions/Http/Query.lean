import PostalRegions.Text.Encoding

/-!
# Query strings

The names and values behind the question mark of an address, as forms encode them: with plus
signs for blanks, and with bytes in two hexadecimal digits behind a percent sign.
-/

namespace PostalRegions.Http

def hexDigit? (byte : UInt8) : Option UInt8 :=
  if 0x30 ≤ byte ∧ byte ≤ 0x39 then some (byte - 0x30)
  else if 0x41 ≤ byte ∧ byte ≤ 0x46 then some (byte - 0x41 + 10)
  else if 0x61 ≤ byte ∧ byte ≤ 0x66 then some (byte - 0x61 + 10)
  else none

def hexByte? (high low : UInt8) : Option UInt8 := do
  return 16 * (← hexDigit? high) + (← hexDigit? low)

def percentDecode : List UInt8 → List UInt8
  | 0x25 :: high :: low :: rest =>
    match hexByte? high low with
    | some byte => byte :: percentDecode rest
    | none => 0x25 :: percentDecode (high :: low :: rest)
  | byte :: rest => byte :: percentDecode rest
  | [] => []

def bytesOf (text : String) : List UInt8 :=
  text.toUTF8.data.toList

def formDecode (text : String) : String :=
  let spaced := (bytesOf text).map fun byte => if byte = 0x2B then 0x20 else byte
  String.ofList (Text.decodeLossyFrom none (percentDecode spaced))

/-- A name with its value, which is empty if there is no equals sign. -/
def formPair (part : String) : String × String :=
  let chars := part.toList
  let name := String.ofList (chars.takeWhile (· != '='))
  let value := String.ofList ((chars.dropWhile (· != '=')).drop 1)
  (formDecode name, formDecode value)

def queryPairs (query : String) : List (String × String) :=
  ((query.splitOn "&").filter fun part => !part.isEmpty).map formPair

inductive QueryError where
  | missing (name : String)
  | duplicate (name : String)
deriving DecidableEq, Repr

def QueryError.message : QueryError → String
  | .missing name => "Failed to deserialize query string: missing field `" ++ name ++ "`"
  | .duplicate name => "Failed to deserialize query string: duplicate field `" ++ name ++ "`"

def duplicate? (expected : List String) : List String → List (String × String) → Option String
  | _, [] => none
  | seen, (name, _) :: rest =>
    if seen.contains name then some name
    else if expected.contains name then duplicate? expected (name :: seen) rest
    else duplicate? expected seen rest

def valueOf (pairs : List (String × String)) (name : String) : Except QueryError String :=
  match pairs.lookup name with
  | some value => .ok value
  | none => .error (.missing name)

end PostalRegions.Http
