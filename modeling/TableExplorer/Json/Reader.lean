import TableExplorer.Json.Number
import TableExplorer.Json.Quoted

/-!
Reading JSON texts.  `Json.ofText?` reads a whole text as one value with blanks around it.  Each
reader takes the value at the start of a text and gives what follows it; the fuel is twice the
length of the text, since at least every other step takes a character.
-/

namespace TableExplorer.Json

/-- The blanks between the parts of a text. -/
def isSpace (c : Char) : Bool := c == ' ' || c == '\n' || c == '\t' || c == '\r'

/-- The text without the blanks in front. -/
def skipSpaces (cs : List Char) : List Char := cs.dropWhile isSpace

/-- What follows a word at the start of a text. -/
def afterWord? : List Char → List Char → Option (List Char)
  | [], cs => some cs
  | w :: word, c :: cs => if w = c then afterWord? word cs else none
  | _ :: _, [] => none

/-- The object with these members; one whose names cannot be read is unreadable. -/
def ofMembers (members : List (Option String × Json)) : Json :=
  match members.mapM fun (name?, value) => name?.map fun name => (name, value) with
  | some members => .object members
  | none => .unreadable

mutual

/-- Reads the value at the start of a text. -/
def readValue? : Nat → List Char → Option (Json × List Char)
  | 0, _ => none
  | fuel + 1, cs =>
    match skipSpaces cs with
    | 'n' :: rest => (afterWord? "ull".toList rest).map fun rest => (.null, rest)
    | 't' :: rest => (afterWord? "rue".toList rest).map fun rest => (.bool true, rest)
    | 'f' :: rest => (afterWord? "alse".toList rest).map fun rest => (.bool false, rest)
    | '"' :: rest =>
      (readQuoted? rest).map fun (s?, rest) => ((s?.map .string).getD .unreadable, rest)
    | '[' :: rest =>
      match skipSpaces rest with
      | ']' :: rest => some (.array [], rest)
      | rest => (readItems? fuel rest).map fun (items, rest) => (.array items, rest)
    | '{' :: rest =>
      match skipSpaces rest with
      | '}' :: rest => some (.object [], rest)
      | rest => (readMembers? fuel rest).map fun (members, rest) => (ofMembers members, rest)
    | cs => readNumber? cs

/-- Reads the items of an array up to its end. -/
def readItems? : Nat → List Char → Option (List Json × List Char)
  | 0, _ => none
  | fuel + 1, cs => do
    let (item, rest) ← readValue? fuel cs
    match skipSpaces rest with
    | ',' :: rest =>
      let (items, rest) ← readItems? fuel rest
      return (item :: items, rest)
    | ']' :: rest => return ([item], rest)
    | _ => none

/-- Reads the members of an object up to its end. -/
def readMembers? : Nat → List Char → Option (List (Option String × Json) × List Char)
  | 0, _ => none
  | fuel + 1, cs => do
    match skipSpaces cs with
    | '"' :: rest =>
      let (name?, rest) ← readQuoted? rest
      match skipSpaces rest with
      | ':' :: rest =>
        let (value, rest) ← readValue? fuel rest
        match skipSpaces rest with
        | ',' :: rest =>
          let (members, rest) ← readMembers? fuel rest
          return ((name?, value) :: members, rest)
        | '}' :: rest => return ([(name?, value)], rest)
        | _ => none
      | _ => none
    | _ => none

end

/-- Reads a list of characters as one value. -/
def ofChars? (cs : List Char) : Option Json := do
  let (value, rest) ← readValue? (2 * cs.length + 1) cs
  if (skipSpaces rest).isEmpty then some value else none

/-- Reads a text as one value. -/
def ofText? (s : String) : Option Json := ofChars? s.toList

end TableExplorer.Json
