/-!
Texts held as bytes.  A stored text need not be well-formed UTF-8; `decode` reads it all the same,
putting U+FFFD for every maximal piece that begins a character and does not finish it, and
`decode?` reads only well-formed texts.
-/

namespace TableExplorer.Text.Utf8

/-- The sign that stands for bytes of no character. -/
def replacement : Char := '\uFFFD'

/-- What may follow a byte at the start of a character: how many bytes, and the bounds of the first
of them. -/
def following? (lead : Nat) : Option (Nat × Nat × Nat) :=
  if lead < 0x80 then some (0, 0x80, 0xBF)
  else if lead < 0xC2 then none
  else if lead < 0xE0 then some (1, 0x80, 0xBF)
  else if lead = 0xE0 then some (2, 0xA0, 0xBF)
  else if lead = 0xED then some (2, 0x80, 0x9F)
  else if lead < 0xF0 then some (2, 0x80, 0xBF)
  else if lead = 0xF0 then some (3, 0x90, 0xBF)
  else if lead < 0xF4 then some (3, 0x80, 0xBF)
  else if lead = 0xF4 then some (3, 0x80, 0x8F)
  else none

/-- The payload bits of the first byte of a character. -/
def leadBits (lead : Nat) : Nat :=
  if lead < 0x80 then lead
  else if lead < 0xE0 then lead % 0x20
  else if lead < 0xF0 then lead % 0x10
  else lead % 0x08

/-- Decodes with a character under way: how many bytes it still wants, the bounds of the next, and
its bits so far. -/
def decodeFrom (wanted low high bits : Nat) : List UInt8 → List Char
  | [] => if wanted = 0 then [] else [replacement]
  | byte :: rest =>
    let n := byte.toNat
    if wanted ≠ 0 ∧ low ≤ n ∧ n ≤ high then
      let bits := bits * 0x40 + n % 0x40
      if wanted = 1 then Char.ofNat bits :: decodeFrom 0 0 0 0 rest
      else decodeFrom (wanted - 1) 0x80 0xBF bits rest
    else
      let broken := if wanted = 0 then [] else [replacement]
      match following? n with
      | none => broken ++ replacement :: decodeFrom 0 0 0 0 rest
      | some (0, _, _) => broken ++ Char.ofNat n :: decodeFrom 0 0 0 0 rest
      | some (more, low, high) => broken ++ decodeFrom more low high (leadBits n) rest

/-- The text of well-formed bytes. -/
def decode? (bytes : ByteArray) : Option String := String.fromUTF8? bytes

/-- The text of any bytes. -/
def decode (bytes : ByteArray) : String :=
  (decode? bytes).getD (String.ofList (decodeFrom 0 0 0 0 bytes.toList))

/-- The order of texts by their bytes, the first difference deciding. -/
def compareBytes (a b : ByteArray) : Ordering := compare a.toList b.toList

end TableExplorer.Text.Utf8
