import TableExplorer.Dataset.Cell
import TableExplorer.Word

/-!
The fields of a stored record.

* `bigEndian` and `varint?` are the two ways in which whole numbers are written.
* `ofBits` is the real that 64 bits denote.
* `readRecord?` takes a record apart: a header of type numbers, and the bytes of each field.
-/

namespace TableExplorer.Storage

/-- The number that bytes denote, the most significant first. -/
def bigEndian (bytes : List UInt8) : Nat := bytes.foldl (fun n b => n * 256 + b.toNat) 0

/-- The signed number that bytes denote. -/
def signedBigEndian (bytes : List UInt8) : Int :=
  let n := bigEndian bytes
  let values := Nat.pow 256 bytes.length
  if 2 * n < values then n else (n : Int) - values

/-- A number of variable length, of which at most eight bytes of seven bits were read so far, and
what follows it; a ninth byte counts whole. -/
def varintFrom? (n : Nat) : Nat → List UInt8 → Option (Nat × List UInt8)
  | _, [] => none
  | 0, b :: rest => some (n * 256 + b.toNat, rest)
  | left + 1, b :: rest =>
    if b.toNat < 128 then some (n * 128 + b.toNat, rest)
    else varintFrom? (n * 128 + (b.toNat - 128)) left rest

/-- A number of variable length and what follows it. -/
def varint? (bytes : List UInt8) : Option (Nat × List UInt8) := varintFrom? 0 8 bytes

/-- The cell of a real given by its 64 bits; not-a-number is nothing. -/
def ofBits (bits : Nat) : Cell :=
  let negative := decide (Word.signedBound ≤ bits)
  let leading := Nat.pow 2 52
  let exponent := bits / leading % 2048
  let fraction := bits % leading
  if exponent = 2047 then if fraction = 0 then .real (.infinite negative) else .null
  else if exponent = 0 then .real (.ofQuanta negative fraction)
  else .real (.ofQuanta negative ((leading + fraction) * Nat.pow 2 (exponent - 1)))

/-- How many bytes a field of a type has. -/
def fieldSize (type : Nat) : Nat :=
  if 12 ≤ type then (type - 12) / 2
  else match type with
    | 5 => 6
    | 6 | 7 => 8
    | 8 | 9 => 0
    | n => n

/-- The cell of a field of a type. -/
def fieldCell (type : Nat) (bytes : List UInt8) : Cell :=
  match type with
  | 0 => .null
  | 7 => ofBits (bigEndian bytes)
  | 8 => .integer 0
  | 9 => .integer 1
  | type =>
    if type < 12 then .integer (.ofInt (signedBigEndian bytes))
    else if type % 2 = 0 then .blob ⟨bytes.toArray⟩
    else .text ⟨bytes.toArray⟩

/-- The type numbers in a header; every one takes a byte, so that many steps are enough. -/
def readTypes? : Nat → List UInt8 → Option (List Nat)
  | _, [] => some []
  | 0, _ => none
  | steps + 1, bytes => do
    let (type, rest) ← varint? bytes
    (type :: ·) <$> readTypes? steps rest

/-- The cells of fields of these types. -/
def readFields? : List Nat → List UInt8 → Option (List Cell)
  | [], _ => some []
  | type :: types, bytes => do
    let size := fieldSize type
    if bytes.length < size then none
    else (fieldCell type (bytes.take size) :: ·) <$> readFields? types (bytes.drop size)

/-- The cells of a record. -/
def readRecord? (bytes : List UInt8) : Option (List Cell) := do
  let (headerSize, rest) ← varint? bytes
  let header := rest.take (headerSize - (bytes.length - rest.length))
  let types ← readTypes? header.length header
  readFields? types (bytes.drop headerSize)

end TableExplorer.Storage
