import TableExplorer.Storage.Field

/-!
The pages of a dataset file, and the trees of records on them.

* `Pages.ofBytes?` checks the head of a file and cuts it into pages.
* `Pages.records?` are the numbered records of a tree, in the order of their numbers.  A record that
  does not fit on its page goes on on a chain of further pages.

A path down a tree and a chain of pages both pass no page twice, so the number of pages bounds them.
-/

namespace TableExplorer.Storage

/-- The bytes with which a dataset file begins. -/
def magic : ByteArray := "SQLite format 3\x00".toUTF8

/-- A file cut into pages. -/
structure Pages where
  bytes : ByteArray
  /-- How many bytes a page has. -/
  size : Nat
  /-- How many of them are used. -/
  usable : Nat

/-- Some bytes of a file, if they are all there. -/
def slice? (bytes : ByteArray) (start size : Nat) : Option (List UInt8) :=
  if start + size ≤ bytes.size then some (bytes.extract start (start + size)).toList else none

/-- The number in some bytes of a file. -/
def number? (bytes : ByteArray) (start size : Nat) : Option Nat :=
  bigEndian <$> slice? bytes start size

/-- How many bytes the head of a file has. -/
def headSize : Nat := 100

/-- The mark of texts in UTF-8; a file without texts may have no mark. -/
def isUtf8 (encoding : Nat) : Bool := encoding ≤ 1

namespace Pages

/-- Cuts a file into pages. -/
def ofBytes? (bytes : ByteArray) : Option Pages := do
  if bytes.extract 0 magic.size != magic then none
  let size ← number? bytes 16 2
  let size := if size = 1 then 65536 else size
  let reserved ← number? bytes 20 1
  let encoding ← number? bytes 56 4
  if size < 512 || size < reserved + 480 || !isUtf8 encoding then none
  return ⟨bytes, size, size - reserved⟩

/-- How many pages there are. -/
def count (p : Pages) : Nat := p.bytes.size / p.size

/-- The bytes of a page, by its number. -/
def page? (p : Pages) (number : Nat) : Option ByteArray :=
  if 1 ≤ number ∧ number ≤ p.count then
    some (p.bytes.extract ((number - 1) * p.size) (number * p.size))
  else none

/-- The bytes on a chain of pages, as many as are wanted. -/
def chain? (p : Pages) : Nat → Nat → Nat → Option (List UInt8)
  | _, _, 0 => some []
  | 0, _, _ => none
  | steps + 1, number, wanted => do
    let page ← p.page? number
    let next ← number? page 0 4
    let here ← slice? page 4 (min wanted (p.usable - 4))
    (here ++ ·) <$> p.chain? steps next (wanted - here.length)

/-- How many bytes of a record stand on the page of its cell. -/
def localSize (p : Pages) (size : Nat) : Nat :=
  let most := p.usable - 35
  let least := (p.usable - 12) * 32 / 255 - 23
  let fitting := least + (size - least) % (p.usable - 4)
  if size ≤ most then size else if fitting ≤ most then fitting else least

/-- The number and the bytes of the record whose cell starts at this place of a page. -/
def leafCell? (p : Pages) (page : ByteArray) (start : Nat) : Option (Int × List UInt8) := do
  let cell ← slice? page start (page.size - start)
  let (size, cell) ← varint? cell
  let (key, cell) ← varint? cell
  let number : Int := if key < Word.signedBound then key else (key : Int) - Word.bound
  let onPage := p.localSize size
  if cell.length < onPage then none
  else if onPage = size then return (number, cell.take size)
  else
    let rest ← p.chain? p.count (bigEndian ((cell.drop onPage).take 4)) (size - onPage)
    return (number, cell.take onPage ++ rest)

/-- The places of the cells on a page whose header starts at `head` and ends at `directory`. -/
def cellStarts? (page : ByteArray) (head directory : Nat) : Option (List Nat) := do
  let cells ← number? page (head + 3) 2
  (List.range cells).mapM fun (i : Nat) => number? page (directory + 2 * i) 2

/-- The records of the tree under a page; `depth` bounds how far the tree goes down. -/
def cells? (p : Pages) : Nat → Nat → Option (List (Int × List UInt8))
  | 0, _ => none
  | depth + 1, number => do
    let page ← p.page? number
    let head := if number = 1 then headSize else 0
    match ← number? page head 1 with
    | 13 =>
      let starts ← cellStarts? page head (head + 8)
      starts.mapM (p.leafCell? page)
    | 5 =>
      let starts ← cellStarts? page head (head + 12)
      let children ← starts.mapM fun start => number? page start 4
      let last ← number? page (head + 8) 4
      let parts ← (children ++ [last]).mapM (p.cells? depth)
      return parts.flatten
    | _ => none

/-- The numbered records of the tree under a page. -/
def records? (p : Pages) (root : Nat) : Option (List (Int × List Cell)) := do
  let cells ← p.cells? p.count root
  cells.mapM fun (number, bytes) => (readRecord? bytes).map fun fields => (number, fields)

end Pages

end TableExplorer.Storage
