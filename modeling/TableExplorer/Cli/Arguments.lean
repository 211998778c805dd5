import TableExplorer.Word

/-!
The arguments of a command line.  An option is written as a word behind two hyphens or as a letter
behind one; options with a value take it behind `=`, or behind the letter itself, or from the next
argument, which then must not start with a hyphen unless it is nothing else.  Behind the argument
`--` nothing is an option.

* `readArguments` sorts arguments into options and positional arguments; up to the first positional
  argument only, if what follows it has options of its own.
* `Arguments` is the outcome; no option may be given twice.
-/

namespace TableExplorer.Cli

/-- An option that a command understands. -/
structure OptionSpec where
  name : String
  letter? : Option Char := none
  takesValue : Bool := true
  deriving DecidableEq, Repr, Inhabited

/-- Options that were given, with their values, and positional arguments. -/
structure Arguments where
  options : List (String × Option String) := []
  positional : List String := []
  deriving DecidableEq, Repr, Inhabited

namespace Arguments

/-- One more option in front. -/
def addOption (a : Arguments) (name : String) (value? : Option String) : Arguments :=
  { a with options := (name, value?) :: a.options }

/-- One more positional argument in front. -/
def addPositional (a : Arguments) (word : String) : Arguments :=
  { a with positional := word :: a.positional }

/-- The option was given. -/
def has (a : Arguments) (name : String) : Bool := a.options.any fun given => given.1 == name

/-- The value of an option that was given. -/
def value? (a : Arguments) (name : String) : Option String := (a.options.lookup name).join

/-- No option was given twice. -/
def isPlain (a : Arguments) : Bool := decide (a.options.map (·.1)).Nodup

end Arguments

/-- What an argument looks like. -/
inductive ArgumentForm where
  /-- Two hyphens and nothing else. -/
  | separator
  /-- Two hyphens and a name, perhaps with a value behind `=`. -/
  | named (name : List Char) (value? : Option (List Char))
  /-- One hyphen and letters. -/
  | letters (cs : List Char)
  | word
  deriving DecidableEq, Repr

/-- Finds the form of an argument. -/
def ArgumentForm.ofChars : List Char → ArgumentForm
  | ['-', '-'] => .separator
  | '-' :: '-' :: rest =>
    match rest.span (· != '=') with
    | (name, '=' :: value) => .named name (some value)
    | (name, _) => .named name none
  | '-' :: c :: rest => .letters (c :: rest)
  | _ => .word

/-- The argument can be the value of the option before it. -/
def isValue (argument : String) : Bool :=
  match ArgumentForm.ofChars argument.toList with
  | .word => true
  | _ => false

/-- What letters behind a hyphen give: options, and the name of one that still wants its value. -/
structure Letters where
  options : List (String × Option String) := []
  wanting? : Option String := none
  deriving DecidableEq, Repr

/-- Reads letters behind a hyphen; what follows the letter of an option with a value is its value,
without a `=` in front. -/
def readLetters? (specs : List OptionSpec) : List Char → Option Letters
  | [] => some {}
  | c :: rest => do
    let spec ← specs.find? fun spec => spec.letter? == some c
    if spec.takesValue then
      match rest with
      | [] => some { wanting? := some spec.name }
      | '=' :: value => some { options := [(spec.name, some (String.ofList value))] }
      | value => some { options := [(spec.name, some (String.ofList value))] }
    else
      let more ← readLetters? specs rest
      some { more with options := (spec.name, none) :: more.options }

/-- Reads a name behind two hyphens; the name alone of an option with a value wants it. -/
def readNamed? (specs : List OptionSpec) (name : List Char) (value? : Option (List Char)) :
    Option Letters := do
  let spec ← specs.find? fun spec => spec.name.toList == name
  match spec.takesValue, value? with
  | true, some value => some { options := [(spec.name, some (String.ofList value))] }
  | true, none => some { wanting? := some spec.name }
  | false, some _ => none
  | false, none => some { options := [(spec.name, none)] }

/-- Sorts arguments; `wanting?` is an option that takes the next one as its value.  If `leading`,
the first positional argument is kept with all that follows it, and there must be no separator. -/
def readFrom? (specs : List OptionSpec) (leading : Bool) (wanting? : Option String) :
    List String → Option Arguments
  | [] => if wanting?.isSome then none else some {}
  | argument :: rest =>
    match wanting? with
    | some name =>
      if isValue argument then
        (readFrom? specs leading none rest).map fun a => a.addOption name (some argument)
      else none
    | none =>
      match ArgumentForm.ofChars argument.toList with
      | .separator => if leading then none else some { positional := rest }
      | .named name value? => do
        let letters ← readNamed? specs name value?
        let a ← readFrom? specs leading letters.wanting? rest
        return { a with options := letters.options ++ a.options }
      | .letters cs => do
        let letters ← readLetters? specs cs
        let a ← readFrom? specs leading letters.wanting? rest
        return { a with options := letters.options ++ a.options }
      | .word =>
        if leading then some { positional := argument :: rest }
        else (readFrom? specs leading none rest).map fun a => a.addPositional argument

/-- Sorts the arguments of a command. -/
def readArguments? (specs : List OptionSpec) (leading : Bool) (arguments : List String) :
    Option Arguments := do
  let a ← readFrom? specs leading none arguments
  if a.isPlain then some a else none

/-- Reads a decimal integer with an optional sign. -/
def readInteger? (s : String) : Option Int :=
  let number? (digits : List Char) : Option Int :=
    if digits.isEmpty || !digits.all Char.isDigit then none
    else some (digits.foldl (fun n c => n * 10 + ((c.toNat : Int) - '0'.toNat)) 0)
  match s.toList with
  | '-' :: digits => (number? digits).map fun n => -n
  | '+' :: digits => number? digits
  | digits => number? digits

/-- Reads an integer that 64 bits hold with a sign. -/
def readInt64? (s : String) : Option Int64 := do
  Word.int64? (← readInteger? s)

/-- Reads a size that 64 bits hold; a minus is never part of it. -/
def readSize? (s : String) : Option Nat := do
  if s.toList.head? = some '-' then none else Word.size? (← readInteger? s)

end TableExplorer.Cli
