import TableExplorer.Dataset.Store

/-!
The statements that create tables and views, as a dataset file keeps them.

* `tokens` cuts a statement into words, quoted names, and single characters; comments are blanks.
* `tableColumns?` reads the columns of a table, each with its type, its collation, and whether it is
  a name for the number of the record; `createdTable` is the table as it is created.
* `viewTable?` reads the table that a view shows, if the view shows all of one table.
-/

namespace TableExplorer.Storage

/-- A part of a statement. -/
structure Token where
  /-- The text as it is written. -/
  text : List Char
  /-- What is written between quotes, if the part is quoted. -/
  quoted? : Option (List Char)
  /-- Blanks stand before the part. -/
  spaced : Bool
  deriving DecidableEq, Repr, Inhabited

namespace Token

/-- The name that a part denotes. -/
def name (t : Token) : String := String.ofList (t.quoted?.getD t.text)

/-- The part is this word, whatever the case of letters. -/
def isWord (t : Token) (word : String) : Bool :=
  t.quoted?.isNone && asciiLower t.text == word.toList

/-- The part is this character. -/
def isSymbol (t : Token) (c : Char) : Bool := t.quoted?.isNone && t.text == [c]

end Token

/-- The quote that ends what this one begins. -/
def closingQuote? : Char → Option Char
  | '"' => some '"'
  | '\'' => some '\''
  | '[' => some ']'
  | c => if c.toNat = 0x60 then some c else none

/-- What stands before a closing quote, doubled quotes being part of it, and what follows. -/
def takeQuoted (close : Char) : List Char → List Char × List Char
  | [] => ([], [])
  | [c] => if c = close then ([], []) else ([c], [])
  | c :: d :: rest =>
    if c = close then
      if d = close ∧ close ≠ ']' then
        let (inside, rest) := takeQuoted close rest
        (c :: inside, rest)
      else ([], d :: rest)
    else
      let (inside, rest) := takeQuoted close (d :: rest)
      (c :: inside, rest)

/-- The blanks of statements. -/
def isStatementBlank (c : Char) : Bool := c == ' ' || (0x09 ≤ c.toNat && c.toNat ≤ 0x0D)

/-- The characters of words. -/
def isWordChar (c : Char) : Bool := c.isAlphanum || c == '_' || c == '$' || 0x80 ≤ c.toNat

/-- What follows a comment that stars end. -/
def afterStars : List Char → List Char
  | '*' :: '/' :: rest => rest
  | _ :: rest => afterStars rest
  | [] => []

/-- The parts of a statement; every part takes a character, so that many steps are enough. -/
def tokensFrom : Nat → Bool → List Char → List Token
  | 0, _, _ => []
  | _, _, [] => []
  | steps + 1, spaced, c :: rest =>
    if isStatementBlank c then tokensFrom steps true rest
    else
      match c, rest with
      | '-', '-' :: more => tokensFrom steps true (more.dropWhile (· != '\n'))
      | '/', '*' :: more => tokensFrom steps true (afterStars more)
      | _, _ =>
        match closingQuote? c with
        | some close =>
          let (inside, after) := takeQuoted close rest
          let text := c :: rest.take (rest.length - after.length)
          ⟨text, some inside, spaced⟩ :: tokensFrom steps false after
        | none =>
          if isWordChar c then
            let (word, after) := (c :: rest).span isWordChar
            ⟨word, none, spaced⟩ :: tokensFrom steps false after
          else ⟨[c], none, spaced⟩ :: tokensFrom steps false rest

/-- The parts of a statement. -/
def tokens (statement : String) : List Token :=
  let cs := statement.toList
  tokensFrom cs.length false cs

/-- Cuts the parts behind an opening bracket at the commas that stand in no further bracket, up to
the closing bracket. -/
def splitColumns (depth : Nat) : List Token → List (List Token)
  | [] => [[]]
  | t :: rest =>
    if depth = 0 ∧ t.isSymbol ')' then [[]]
    else if depth = 0 ∧ t.isSymbol ',' then [] :: splitColumns 0 rest
    else
      let depth := if t.isSymbol '(' then depth + 1 else if t.isSymbol ')' then depth - 1 else depth
      match splitColumns depth rest with
      | part :: parts => (t :: part) :: parts
      | [] => [[t]]

/-- The words that end the type of a column. -/
def constraintWords : List String :=
  ["constraint", "primary", "not", "null", "unique", "check", "default", "collate", "references",
    "generated", "as", "on", "deferrable"]

/-- The words with which a part declares no column. -/
def tableConstraintWords : List String := ["constraint", "primary", "unique", "check", "foreign"]

/-- The part is one of these words. -/
def isOneOf (words : List String) (t : Token) : Bool := words.any t.isWord

/-- The type of a column: the parts before the first constraint, as they are written. -/
def typeText (parts : List Token) : String :=
  match parts.takeWhile fun t => !isOneOf constraintWords t with
  | [] => ""
  | first :: rest =>
    String.ofList (first.text ++ rest.flatMap fun t => if t.spaced then ' ' :: t.text else t.text)

/-- The words `primary key` follow one another, and the key does not descend. -/
def hasPrimaryKey : List Token → Bool
  | a :: b :: rest =>
    (a.isWord "primary" && b.isWord "key" && !rest.head?.any (·.isWord "desc")) ||
      hasPrimaryKey (b :: rest)
  | _ => false

/-- The parts that stand in no bracket. -/
def outsideBrackets (depth : Nat) : List Token → List Token
  | [] => []
  | t :: rest =>
    if t.isSymbol '(' then outsideBrackets (depth + 1) rest
    else if t.isSymbol ')' then outsideBrackets (depth - 1) rest
    else if depth = 0 then t :: outsideBrackets depth rest
    else outsideBrackets depth rest

/-- The collations that are declared, in order. -/
def collations : List Token → List Collation
  | a :: b :: rest =>
    if a.isWord "collate" then (Collation.ofName? b.name).toList ++ collations rest
    else collations (b :: rest)
  | _ => []

/-- A column as its table declares it. -/
structure DeclaredColumn where
  column : Column
  collation : Collation
  /-- The column is a name for the number of the record. -/
  isNumber : Bool
  deriving Inhabited

/-- Reads the declaration of a column. -/
def declaredColumn? (primary : List String) : List Token → Option DeclaredColumn
  | [] => none
  | name :: rest =>
    if isOneOf tableConstraintWords name then none
    else
      let column := Column.declare name.name (typeText rest)
      let collation := (collations (outsideBrackets 0 rest)).getLast?.getD .binary
      let isKey := hasPrimaryKey rest || primary.any (sameName name.name)
      some ⟨column, collation, isKey && sameName column.declaredType "INTEGER"⟩

/-- The only column of a primary key that is declared apart from its column. -/
def primaryColumns : List Token → List String
  | a :: b :: c :: d :: e :: rest =>
    if a.isWord "primary" && b.isWord "key" && c.isSymbol '(' && e.isSymbol ')' then [d.name]
    else primaryColumns (b :: c :: d :: e :: rest)
  | _ => []

/-- What follows the opening bracket of a declaration. -/
def afterBracket? : List Token → Option (List Token)
  | [] => none
  | t :: rest => if t.isSymbol '(' then some rest else afterBracket? rest

/-- The columns of the table that a statement creates. -/
def tableColumns? (statement : String) : Option (List DeclaredColumn) := do
  let parts := splitColumns 0 (← afterBracket? (tokens statement))
  let constraints := parts.filter fun part => part.head?.any (isOneOf tableConstraintWords)
  return parts.filterMap (declaredColumn? (constraints.flatMap primaryColumns))

/-- The empty table with these columns that a statement creates. -/
def createdTable (name statement : String) (columns : List DeclaredColumn) : Table where
  name := name
  columns := columns.map (·.column)
  details :=
    { collations := columns.map (·.collation)
      numberColumn? := columns.findIdx? (·.isNumber)
      statement? := some statement }

/-- What follows a word in a statement. -/
def afterWord? (word : String) : List Token → Option (List Token)
  | [] => none
  | t :: rest => if t.isWord word then some rest else afterWord? word rest

/-- The table that a view shows, if its statement selects all columns and nothing else. -/
def viewTable? (statement : String) : Option String := do
  match ← afterWord? "as" (tokens statement) with
  | [select, star, source, table] =>
    if select.isWord "select" && star.isSymbol '*' && source.isWord "from" then some table.name
    else none
  | _ => none

end TableExplorer.Storage
