import PostalRegions.Archive.Bytes

/-!
# Inflating

The decompression of deflated data.  A canonical prefix code is kept as the number of codes of
each length and the symbols in the order of their codes, and is read one bit at a time.  Data
that ends too early yields what was decompressed up to there.
-/

namespace PostalRegions.Archive

inductive InflateStop where
  | exhausted
  | corrupt
  | oversized
deriving DecidableEq, Repr

structure InflateState where
  position : Nat
  output : ByteArray

structure InflateInput where
  data : ByteArray
  limit : Nat

abbrev Inflating := ReaderT InflateInput (ExceptT InflateStop (StateM InflateState))

namespace Inflating

/-! ## Bits and bytes -/

def bit : Inflating Nat := do
  let place := (← get).position
  if (← read).data.size ≤ place / 8 then throw .exhausted
  else
    modify fun state => { state with position := state.position + 1 }
    return byteAt (← read).data (place / 8) / Nat.pow 2 (place % 8) % 2

/-- The next bits as a number, the least significant one first. -/
def bits : Nat → Inflating Nat
  | 0 => return 0
  | count + 1 => do
    let low ← bit
    let high ← bits count
    return low + 2 * high

def align : Inflating Unit :=
  modify fun state => { state with position := (state.position + 7) / 8 * 8 }

def emit (byte : UInt8) : Inflating Unit := do
  if (← read).limit ≤ (← get).output.size then throw .oversized
  else modify fun state => { state with output := state.output.push byte }

def copyStored : Nat → Inflating Unit
  | 0 => return ()
  | count + 1 => do
    let byte ← bits 8
    emit byte.toUInt8
    copyStored count

def copyBack (distance : Nat) : Nat → Inflating Unit
  | 0 => return ()
  | count + 1 => do
    let output := (← get).output
    emit (byteAt output (output.size - distance)).toUInt8
    copyBack distance count

end Inflating

/-! ## Prefix codes -/

/-- A canonical prefix code: how many codes have each length, and the symbols in the order of
their codes. -/
structure PrefixCode where
  counts : Array Nat
  symbols : Array Nat

namespace PrefixCode

def maxLength : Nat :=
  15

/-- The code in which symbol `i` has the length at index `i`; length zero stands for no code. -/
def ofLengths (lengths : List Nat) : PrefixCode :=
  let indexed := lengths.zipIdx
  { counts := ((List.range (maxLength + 1)).map fun length => lengths.count length).toArray
    symbols := ((List.range maxLength).flatMap fun shorter =>
      indexed.filterMap fun (length, symbol) =>
        if length = shorter + 1 then some symbol else none).toArray }

def count (code : PrefixCode) (length : Nat) : Nat :=
  code.counts[length]?.getD 0

/-- The share of the code space, in units of the longest codes, that the codes take up. -/
def used (code : PrefixCode) : Nat :=
  (List.range maxLength).foldl
    (fun total shorter =>
      total + code.count (shorter + 1) * Nat.pow 2 (maxLength - (shorter + 1))) 0

/-- Whether the codes fill the code space, or there is at most one of them. -/
def isUsable (code : PrefixCode) : Bool :=
  code.used = Nat.pow 2 maxLength || code.symbols.size ≤ 1

/-- Reads a symbol, given the remaining lengths, the length read, the bits read, the first code
of this length and the number of shorter codes. -/
def decodeFrom (code : PrefixCode) : Nat → Nat → Nat → Nat → Nat → Inflating Nat
  | 0, _, _, _, _ => throw .corrupt
  | remaining + 1, length, value, first, shorter => do
    let value := 2 * value + (← Inflating.bit)
    let count := code.count (length + 1)
    if value < first + count then
      match code.symbols[shorter + (value - first)]? with
      | some symbol => return symbol
      | none => throw .corrupt
    else decodeFrom code remaining (length + 1) value (2 * (first + count)) (shorter + count)

def decode (code : PrefixCode) : Inflating Nat :=
  code.decodeFrom maxLength 0 0 0 0

end PrefixCode

namespace Inflating

/-! ## Blocks -/

/-- The least length and the number of further bits of each length symbol. -/
def lengthSymbols : Array (Nat × Nat) :=
  #[(3, 0), (4, 0), (5, 0), (6, 0), (7, 0), (8, 0), (9, 0), (10, 0), (11, 1), (13, 1), (15, 1),
    (17, 1), (19, 2), (23, 2), (27, 2), (31, 2), (35, 3), (43, 3), (51, 3), (59, 3), (67, 4),
    (83, 4), (99, 4), (115, 4), (131, 5), (163, 5), (195, 5), (227, 5), (258, 0)]

/-- The least distance and the number of further bits of each distance symbol. -/
def distanceSymbols : Array (Nat × Nat) :=
  #[(1, 0), (2, 0), (3, 0), (4, 0), (5, 1), (7, 1), (9, 2), (13, 2), (17, 3), (25, 3), (33, 4),
    (49, 4), (65, 5), (97, 5), (129, 6), (193, 6), (257, 7), (385, 7), (513, 8), (769, 8),
    (1025, 9), (1537, 9), (2049, 10), (3073, 10), (4097, 11), (6145, 11), (8193, 12), (12289, 12),
    (16385, 13), (24577, 13)]

def extended (symbols : Array (Nat × Nat)) (symbol : Nat) : Inflating Nat :=
  match symbols[symbol]? with
  | some (least, width) => return least + (← bits width)
  | none => throw .corrupt

def endOfBlock : Nat :=
  256

/-- Decompresses symbols up to the end of the block.  The first argument bounds their number. -/
def symbolsOfBlock (literals distances : PrefixCode) : Nat → Inflating Unit
  | 0 => throw .corrupt
  | remaining + 1 => do
    let symbol ← literals.decode
    if symbol = endOfBlock then return ()
    else if symbol < endOfBlock then
      emit symbol.toUInt8
      symbolsOfBlock literals distances remaining
    else
      let length ← extended lengthSymbols (symbol - (endOfBlock + 1))
      let distance ← extended distanceSymbols (← distances.decode)
      if (← get).output.size < distance then throw .corrupt
      else
        copyBack distance length
        symbolsOfBlock literals distances remaining

def storedBlock : Inflating Unit := do
  align
  let length ← bits 16
  let complement ← bits 16
  if length + complement = 65535 then copyStored length else throw .corrupt

def fixedLiterals : PrefixCode :=
  PrefixCode.ofLengths (List.replicate 144 8 ++ List.replicate 112 9 ++ List.replicate 24 7 ++
    List.replicate 8 8)

def fixedDistances : PrefixCode :=
  PrefixCode.ofLengths (List.replicate 32 5)

def lengthOrder : List Nat :=
  [16, 17, 18, 0, 8, 7, 9, 6, 10, 5, 11, 4, 12, 3, 13, 2, 14, 1, 15]

def shortLengths : Nat → Inflating (List Nat)
  | 0 => return []
  | count + 1 => do
    let first ← bits 3
    let rest ← shortLengths count
    return first :: rest

/-- Reads code lengths, the last one first, until there are `total`.  The first argument bounds
the number of steps. -/
def codeLengths (code : PrefixCode) (total : Nat) : Nat → List Nat → Inflating (List Nat)
  | 0, _ => throw .corrupt
  | remaining + 1, reversed => do
    if total ≤ reversed.length then
      if reversed.length = total then return reversed.reverse else throw .corrupt
    else
      let symbol ← code.decode
      if symbol < 16 then codeLengths code total remaining (symbol :: reversed)
      else if symbol = 16 then
        match reversed with
        | [] => throw .corrupt
        | last :: _ =>
          let count ← bits 2
          codeLengths code total remaining (List.replicate (count + 3) last ++ reversed)
      else
        let count ← if symbol = 17 then (· + 3) <$> bits 3 else (· + 11) <$> bits 7
        codeLengths code total remaining (List.replicate count 0 ++ reversed)

def describedCodes : Inflating (PrefixCode × PrefixCode) := do
  let literalCount := 257 + (← bits 5)
  let distanceCount := 1 + (← bits 5)
  let lengthCount := 4 + (← bits 4)
  let given := lengthOrder.zip (← shortLengths lengthCount)
  let lengthCode := PrefixCode.ofLengths
    ((List.range 19).map fun symbol => (given.lookup symbol).getD 0)
  if !lengthCode.isUsable then throw .corrupt
  else
    let total := literalCount + distanceCount
    let lengths ← codeLengths lengthCode total (total + 1) []
    let literals := PrefixCode.ofLengths (lengths.take literalCount)
    let distances := PrefixCode.ofLengths (lengths.drop literalCount)
    if literals.isUsable && distances.isUsable then return (literals, distances)
    else throw .corrupt

/-- Decompresses blocks up to the last one.  The first argument bounds their number, the second
one that of the symbols in each. -/
def blocks : Nat → Nat → Inflating Unit
  | 0, _ => throw .corrupt
  | remaining + 1, symbolBound => do
    let last ← bit
    match ← bits 2 with
    | 0 => storedBlock
    | 1 => symbolsOfBlock fixedLiterals fixedDistances symbolBound
    | 2 =>
      let (literals, distances) ← describedCodes
      symbolsOfBlock literals distances symbolBound
    | _ => throw .corrupt
    if last = 1 then return () else blocks remaining symbolBound

end Inflating

/-- Decompresses data, up to a limit of output.  Each block and each symbol takes at least one
bit of the data, which bounds their numbers. -/
def inflate (limit : Nat) (data : ByteArray) : Except InflateStop ByteArray :=
  let bound := 8 * data.size + 1
  let (result, state) :=
    ((Inflating.blocks bound bound).run ⟨data, limit⟩).run.run ⟨0, ByteArray.empty⟩
  match result with
  | .ok () => .ok state.output
  | .error .exhausted => .ok state.output
  | .error cause => .error cause

end PostalRegions.Archive
