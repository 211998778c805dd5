import TableExplorer.Json.Basic

/-!
Strings in JSON: text between double quotes, with a backslash before what does not stand for itself.

* `writeQuoted` escapes quotes, backslashes and control characters.
* `readQuoted?` reads a string.  An escape names a character by its number or by half of a pair of
  surrogates; a half without its partner makes the string unreadable.
-/

namespace TableExplorer.Json

/-- The hexadecimal digit of a number below sixteen. -/
def hexDigit (n : Nat) : Char := Nat.digitChar n

/-- A character as it is written between quotes. -/
def escape (c : Char) : List Char :=
  match c with
  | '"' => ['\\', '"']
  | '\\' => ['\\', '\\']
  | '\n' => ['\\', 'n']
  | '\t' => ['\\', 't']
  | '\r' => ['\\', 'r']
  | '\x08' => ['\\', 'b']
  | '\x0c' => ['\\', 'f']
  | c =>
    if c.toNat < 0x20 then ['\\', 'u', '0', '0', hexDigit (c.toNat / 16), hexDigit (c.toNat % 16)]
    else [c]

/-- A string as it is written. -/
def writeQuoted (s : String) : String :=
  String.ofList ('"' :: s.toList.flatMap escape ++ ['"'])

/-- A character, or half of a pair of surrogates. -/
inductive Unit16 where
  | char (c : Char)
  | half (n : Nat)
  deriving DecidableEq, Repr

/-- The value of a hexadecimal digit. -/
def hexValue? (c : Char) : Option Nat :=
  if c.isDigit then some (c.toNat - '0'.toNat)
  else if 'a' ≤ c ∧ c ≤ 'f' then some (c.toNat - 'a'.toNat + 10)
  else if 'A' ≤ c ∧ c ≤ 'F' then some (c.toNat - 'A'.toNat + 10)
  else none

/-- What four hexadecimal digits name. -/
def unitOfHex? (a b c d : Char) : Option Unit16 := do
  let n := (((← hexValue? a) * 16 + (← hexValue? b)) * 16 + (← hexValue? c)) * 16 + (← hexValue? d)
  return if 0xD800 ≤ n ∧ n < 0xE000 then .half n else .char (.ofNat n)

/-- What a letter behind a backslash names. -/
def unescape? : Char → Option Char
  | '"' => some '"'
  | '\\' => some '\\'
  | '/' => some '/'
  | 'b' => some '\x08'
  | 'f' => some '\x0c'
  | 'n' => some '\n'
  | 'r' => some '\r'
  | 't' => some '\t'
  | _ => none

/-- The units of a string up to its closing quote, and what follows it. -/
def readUnits? : List Char → Option (List Unit16 × List Char)
  | [] => none
  | '"' :: rest => some ([], rest)
  | '\\' :: 'u' :: a :: b :: c :: d :: rest => do
    let unit ← unitOfHex? a b c d
    let (units, rest) ← readUnits? rest
    return (unit :: units, rest)
  | '\\' :: e :: rest => do
    let c ← unescape? e
    let (units, rest) ← readUnits? rest
    return (.char c :: units, rest)
  | c :: rest =>
    if c.toNat < 0x20 ∨ c = '\\' then none
    else do
      let (units, rest) ← readUnits? rest
      return (.char c :: units, rest)

/-- The character that two halves make. -/
def joinHalves? (high low : Nat) : Option Char :=
  if high < 0xDC00 ∧ 0xDC00 ≤ low then
    some (.ofNat (0x10000 + (high - 0xD800) * 0x400 + (low - 0xDC00)))
  else none

/-- The characters that units make. -/
def charsOfUnits? : List Unit16 → Option (List Char)
  | [] => some []
  | .char c :: rest => (c :: ·) <$> charsOfUnits? rest
  | .half high :: .half low :: rest => do
    let c ← joinHalves? high low
    (c :: ·) <$> charsOfUnits? rest
  | .half _ :: _ => none

/-- The string behind an opening quote, unless it is unreadable, and what follows it. -/
def readQuoted? (cs : List Char) : Option (Option String × List Char) := do
  let (units, rest) ← readUnits? cs
  return ((charsOfUnits? units).map String.ofList, rest)

end TableExplorer.Json
