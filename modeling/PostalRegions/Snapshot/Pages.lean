import PostalRegions.Archive.Bytes
import PostalRegions.Snapshot.Store

/-!
# Database files

How the tables of a snapshot are read from the bytes of a database file.  The file consists of
pages of one size.  A table is a tree of pages, and the cells of its leaves are the rows.  Only
tables that are declared as a snapshot declares them are read.
-/

namespace PostalRegions

open Archive (byteAt)

/-! ## Numbers -/

/-- The whole number in so many bytes, the most significant byte first. -/
def numberAt (bytes : ByteArray) (place width : Nat) : Nat :=
  (List.range width).foldl (fun value i => 256 * value + byteAt bytes (place + i)) 0

def signedAt (bytes : ByteArray) (place width : Nat) : Int :=
  let value := numberAt bytes place width
  if 2 * value < Nat.pow 256 width then value else (value : Int) - Nat.pow 256 width

/-- Reads on in a number of varying length, given how many more bytes hold seven bits each; a last
byte holds eight. -/
def varyingFrom (bytes : ByteArray) : (room value place : Nat) → Nat × Nat
  | 0, value, place => (256 * value + byteAt bytes place, place + 1)
  | room + 1, value, place =>
    let byte := byteAt bytes place
    if byte < 128 then (128 * value + byte, place + 1)
    else varyingFrom bytes room (128 * value + (byte - 128)) (place + 1)

/-- A number of varying length, and the place behind it. -/
def varyingAt (bytes : ByteArray) (place : Nat) : Nat × Nat :=
  varyingFrom bytes 8 0 place

/-- The number that the bits of a 64-bit float denote, infinite numbers beyond all others. -/
def realOf? (bits : Nat) : Option DecimalLiteral :=
  let negative : Bool := bits / Nat.pow 2 63 % 2 = 1
  let exponent := bits / Nat.pow 2 52 % 2048
  let fraction := bits % Nat.pow 2 52
  let digits := if exponent = 0 then fraction else fraction + Nat.pow 2 52
  -- The least power of two is that of the numbers without a leading digit.
  let power : Int := max exponent 1 - 1075
  if exponent = 2047 then (if fraction = 0 then some ⟨negative, 1, 400⟩ else none)
  else if 0 ≤ power then some ⟨negative, digits * Nat.pow 2 power.toNat, 0⟩
  else some ⟨negative, digits * Nat.pow 5 (-power).toNat, power⟩

/-! ## Rows -/

inductive StoredCell where
  | null
  | integer (value : Int)
  | real (bits : Nat)
  | text (bytes : ByteArray)
  | blob

namespace StoredCell

/-- How many bytes a cell of a type takes. -/
def width (type : Nat) : Nat :=
  if type < 5 then type
  else if type = 5 then 6
  else if type < 8 then 8
  else (type - 12) / 2

def ofType? (type : Nat) (content : ByteArray) : Option StoredCell :=
  if type = 0 then some .null
  else if type < 7 then some (.integer (signedAt content 0 (width type)))
  else if type = 7 then some (.real (numberAt content 0 8))
  else if type < 10 then some (.integer (type - 8))
  else if type < 12 then none
  else some (if type % 2 = 1 then .text content else .blob)

/-- The text in a cell; a cell that the row does not have is empty. -/
def text? : Option StoredCell → Option (Option String)
  | none => some none
  | some .null => some none
  | some (.text bytes) => (String.fromUTF8? bytes).map some
  | some _ => none

/-- The number in a cell of a column for real numbers. -/
def number? {κ : Type} [Confidence κ] : Option StoredCell → Option (Option κ)
  | none => some none
  | some .null => some none
  | some (.integer value) => some (some (Confidence.ofLiteral (.ofInt value)))
  | some (.real bits) => some ((realOf? bits).map Confidence.ofLiteral)
  | some _ => none

end StoredCell

def cellTypesFrom (payload : ByteArray) (stop : Nat) : (room place : Nat) → List Nat
  | 0, _ => []
  | room + 1, place =>
    if stop ≤ place then []
    else
      let (type, place) := varyingAt payload place
      type :: cellTypesFrom payload stop room place

def cellsFrom? (payload : ByteArray) (place : Nat) : List Nat → Option (List StoredCell)
  | [] => some []
  | type :: rest => do
    let width := StoredCell.width type
    let cell ← StoredCell.ofType? type (← Archive.slice? payload place width)
    return cell :: (← cellsFrom? payload (place + width) rest)

/-- The cells of a row: a head with their types, then their contents. -/
def cells? (payload : ByteArray) : Option (List StoredCell) :=
  let (length, place) := varyingAt payload 0
  if payload.size < length then none
  else cellsFrom? payload length (cellTypesFrom payload length length place)

/-! ## Pages -/

structure PagedFile where
  bytes : ByteArray
  pageSize : Nat
  /-- How many bytes of a page are in use. -/
  usable : Nat
  pageCount : Nat

namespace PagedFile

def signature : ByteArray :=
  "SQLite format 3\x00".toUTF8

def pageSizes : List Nat :=
  [512, 1024, 2048, 4096, 8192, 16384, 32768, 65536]

/-- The size of the pages, as it is written in the head of the file. -/
def pageSizeOf (bytes : ByteArray) : Nat :=
  let written := numberAt bytes 16 2
  if written = 1 then 65536 else written

/-- How many pages there are: as many as the head tells, if that was written last. -/
def pageCountOf (bytes : ByteArray) (present : Nat) : Nat :=
  let told := numberAt bytes 28 4
  if told = 0 || numberAt bytes 24 4 != numberAt bytes 92 4 then present else told

/-- A file with a head that can be read.  Files with a log beside them are left out, and so are
texts in another encoding than UTF-8. -/
def ofBytes? (bytes : ByteArray) : Option PagedFile :=
  if (bytes.extract 0 16).data != signature.data then none
  else
    let pageSize := pageSizeOf bytes
    let usable := pageSize - byteAt bytes 20
    let present := (bytes.size + pageSize - 1) / pageSize
    let pageCount := pageCountOf bytes present
    let fractions := [byteAt bytes 21, byteAt bytes 22, byteAt bytes 23]
    if pageSizes.contains pageSize && byteAt bytes 19 == 1 && 480 ≤ usable &&
        fractions == [64, 32, 32] && numberAt bytes 44 4 ≤ 4 && numberAt bytes 56 4 ≤ 1 &&
        pageCount ≤ present then
      some ⟨bytes, pageSize, usable, pageCount⟩
    else none

def isPage (file : PagedFile) (page : Nat) : Bool :=
  page != 0 && page ≤ file.pageCount

def startOf (file : PagedFile) (page : Nat) : Nat :=
  (page - 1) * file.pageSize

/-- Where the head of a page is.  The first page starts with the head of the file. -/
def headOf (file : PagedFile) (page : Nat) : Nat :=
  file.startOf page + if page = 1 then 100 else 0

/-- The content at a place; beyond the end of the file there are zeros. -/
def contentAt (file : PagedFile) (place count : Nat) : ByteArray :=
  ⟨((List.range count).map fun i => (byteAt file.bytes (place + i)).toUInt8).toArray⟩

/-- So many bytes from a chain of pages, each of which tells the next one. -/
def chained? (file : PagedFile) : (room page count : Nat) → Option ByteArray
  | 0, _, count => if count = 0 then some ByteArray.empty else none
  | room + 1, page, count =>
    if count = 0 then some ByteArray.empty
    else if file.isPage page then do
      let here := min count (file.usable - 4)
      let start := file.startOf page
      let later ← file.chained? room (numberAt file.bytes start 4) (count - here)
      return file.contentAt (start + 4) here ++ later
    else none

/-- How many bytes of a row stand in its leaf; those of a long row go on in pages of their own. -/
def localCount (file : PagedFile) (count : Nat) : Nat :=
  let least := (file.usable - 12) * 32 / 255 - 23
  let most := file.usable - 35
  let fitting := least + (count - least) % (file.usable - 4)
  if count ≤ most then count else if fitting ≤ most then fitting else least

/-- The row in the cell of a leaf: its length, its number, and its bytes. -/
def payloadAt? (file : PagedFile) (place : Nat) : Option ByteArray := do
  let (count, place) := varyingAt file.bytes place
  let (_, place) := varyingAt file.bytes place
  let here := file.localCount count
  let next := numberAt file.bytes (place + here) 4
  let later ← file.chained? file.pageCount next (count - here)
  return file.contentAt place here ++ later

/-- Where the cells of a page are, given the length of its head. -/
def cellPlaces (file : PagedFile) (page head : Nat) : List Nat :=
  (List.range (numberAt file.bytes (file.headOf page + 3) 2)).map fun i =>
    file.startOf page + numberAt file.bytes (file.headOf page + head + 2 * i) 2

/-- The pages below a page. -/
def children (file : PagedFile) (page : Nat) : List Nat :=
  (file.cellPlaces page 12).map (fun place => numberAt file.bytes place 4) ++
    [numberAt file.bytes (file.headOf page + 8) 4]

/-- The rows of a tree of pages of at most some depth, in their order. -/
def payloads? (file : PagedFile) : (depth page : Nat) → Option (List ByteArray)
  | 0, _ => none
  | depth + 1, page =>
    if file.isPage page then
      match byteAt file.bytes (file.headOf page) with
      | 13 => (file.cellPlaces page 8).mapM file.payloadAt?
      | 5 => ((file.children page).mapM fun child => file.payloads? depth child).map List.flatten
      | _ => none
    else none

def greatestDepth : Nat :=
  20

def rows? (file : PagedFile) (root : Nat) : Option (List (List StoredCell)) :=
  (file.payloads? greatestDepth root).bind fun payloads => payloads.mapM cells?

/-! ## Tables -/

/-- A declaration without its blanks. -/
def squeezed (declaration : String) : String :=
  String.ofList (declaration.toList.filter fun c => !c.isWhitespace)

def metadataDeclaration : String :=
  squeezed "CREATE TABLE metadata (key TEXT PRIMARY KEY, value TEXT)"

def exactDeclaration : String :=
  squeezed ("CREATE TABLE exact_entries (country_code TEXT, postal_code TEXT, region_code TEXT, " ++
    "PRIMARY KEY (country_code, postal_code))")

def estimateDeclaration : String :=
  squeezed ("CREATE TABLE estimates (country_code TEXT, postal_code TEXT, level3 TEXT, " ++
    "level2 TEXT, level1 TEXT, level3_confidence REAL, level2_confidence REAL, " ++
    "level1_confidence REAL, PRIMARY KEY (country_code, postal_code))")

/-- The first page of the table that a row of the table of tables declares. -/
def rootOf? (declaration : String) : List StoredCell → Option Nat
  | [.text _, .text _, .text _, .integer root, .text text] =>
    if (String.fromUTF8? text).map squeezed = some declaration then some root.toNat else none
  | _ => none

/-- The rows of a declared table, if it is there and all of them can be read. -/
def table? {ρ : Type} (file : PagedFile) (declaration : String)
    (row? : List StoredCell → Option ρ) : Option (List ρ) := do
  let root ← (← file.rows? 1).findSome? (rootOf? declaration)
  (← file.rows? root).mapM row?

def metadataRow? (cells : List StoredCell) : Option MetadataRow := do
  return ⟨← StoredCell.text? cells[0]?, ← StoredCell.text? cells[1]?⟩

def exactRow? (cells : List StoredCell) : Option ExactRow := do
  let country ← StoredCell.text? cells[0]?
  let code ← StoredCell.text? cells[1]?
  return ⟨country, code, ← StoredCell.text? cells[2]?⟩

def estimateRow? {κ : Type} [Confidence κ] (cells : List StoredCell) :
    Option (EstimateRow κ) := do
  return {
    country := ← StoredCell.text? cells[0]?
    code := ← StoredCell.text? cells[1]?
    level3 := ← StoredCell.text? cells[2]?
    level2 := ← StoredCell.text? cells[3]?
    level1 := ← StoredCell.text? cells[4]?
    confidence3 := ← StoredCell.number? cells[5]?
    confidence2 := ← StoredCell.number? cells[6]?
    confidence1 := ← StoredCell.number? cells[7]? }

def database {κ : Type} [Confidence κ] (file : PagedFile) : Database κ where
  metadata := file.table? metadataDeclaration metadataRow?
  exact := file.table? exactDeclaration exactRow?
  estimates := file.table? estimateDeclaration estimateRow?

end PagedFile

/-- The format of the service.  A database that is stored here is only ever read as a whole, and
shows no more of its bytes than how they start. -/
instance DatabaseFormat.paged {κ : Type} [Confidence κ] : DatabaseFormat κ where
  read? bytes := (PagedFile.ofBytes? bytes).map PagedFile.database
  write _ := PagedFile.signature

end PostalRegions
