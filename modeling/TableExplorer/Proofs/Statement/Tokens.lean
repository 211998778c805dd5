import TableExplorer.Proofs.Dataset.Names

/-!
The tokens of a statement.  A statement is read from left to right, up to a NUL character: blanks
and comments are skipped, and what follows is a word, a name or a text between quotes, a blob, a
number, a parameter or a sign.  Between quotes, two quotes stand for one, and one quote ends the
token.

* `Token.skipBlanks?`, `Token.read?`: what is skipped, and one token.  Both leave less to read
  (`Token.length_lt_of_skipBlanks?`, `Token.length_lt_of_read?`), so that `Token.readAll?` reads
  all.
* `Token.readQuoted?_double`: **quotes that are written twice are read once**, up to the one that
  stands alone; `Token.read?_quoted`: **a quoted identifier is read as its name**.
* `Token.Reads`: a text begins with some tokens; `Token.Reads.trans` puts such texts together, and
  `Token.readAll?_of_reads` reads what they are.
-/

namespace TableExplorer

/-- A lexical unit of a statement. -/
inductive Token where
  /-- A keyword, or a name without quotes. -/
  | word (text : String)
  /-- A name that stands between quotes. -/
  | name (text : String)
  /-- A text that stands between single quotes. -/
  | text (text : String)
  | blob (digits : String)
  | number (digits : String)
  | parameter (text : String)
  /-- An operator or a mark. -/
  | sign (text : String)
  deriving DecidableEq, Repr

namespace Token

/-! ### Blanks -/

/-- The character begins blanks. -/
def beginsBlanks (c : Char) : Bool :=
  c == ' ' || c == '\t' || c == '\n' || c == '\r' || c == '\x0C'

/-- The character continues blanks. -/
def isBlank (c : Char) : Bool := beginsBlanks c || c == '\x0B'

/-- The length of a comment up to the mark at its end, or to the end of the statement. -/
def commentLength : List Char → Nat
  | [] => 0
  | [_] => 1
  | c :: d :: rest =>
    if c = '\x00' then 0
    else if c = '*' ∧ d = '/' then 2
    else commentLength (d :: rest) + 1

/-- What follows the blanks or the comment that a text begins with. -/
def skipBlanks? : List Char → Option (List Char)
  | [] => none
  | c :: rest =>
    if beginsBlanks c then some (rest.dropWhile isBlank)
    else if c = '\uFEFF' then some rest
    else if c = '-' ∧ rest.head? = some '-' then
      some (rest.dropWhile fun d => d != '\n' && d != '\x00')
    else if c = '/' ∧ rest.head? = some '*' ∧ (rest.drop 1).head?.any (· != '\x00') then
      some (rest.drop (commentLength (rest.drop 1) + 1))
    else none

/-! ### Numbers and parameters -/

/-- The character may stand in a word. -/
def isWordChar (c : Char) : Bool := c.isAlphanum || c == '_' || c == '$' || 0x80 ≤ c.toNat

/-- The character is a hexadecimal digit. -/
def isHexDigit (c : Char) : Bool :=
  c.isDigit || ('a' ≤ c && c ≤ 'f') || ('A' ≤ c && c ≤ 'F')

/-- How many digits a text begins with; there may be underscores among them. -/
def digitsLength (isDigit : Char → Bool) (cs : List Char) : Nat :=
  (cs.takeWhile fun c => isDigit c || c == '_').length

/-- The length of a point and the digits behind it. -/
def fractionLength : List Char → Nat
  | '.' :: rest => digitsLength Char.isDigit rest + 1
  | _ => 0

/-- The length of an exponent. -/
def exponentLength : List Char → Nat
  | e :: c :: rest =>
    if (e = 'e' ∨ e = 'E') ∧ (c.isDigit ∨ (c = '+' ∨ c = '-') ∧ rest.head?.any Char.isDigit) then
      digitsLength Char.isDigit rest + 2
    else 0
  | _ => 0

/-- The length of a decimal number. -/
def decimalLength (cs : List Char) : Nat :=
  let whole := digitsLength Char.isDigit cs
  let pointed := whole + fractionLength (cs.drop whole)
  pointed + exponentLength (cs.drop pointed)

/-- The length of a number. -/
def numberLength : List Char → Nat
  | '0' :: x :: rest =>
    if (x = 'x' ∨ x = 'X') ∧ rest.head?.any isHexDigit then digitsLength isHexDigit rest + 2
    else decimalLength ('0' :: x :: rest)
  | cs => decimalLength cs

/-- The length of the rest of a named parameter: word characters and pairs of colons, and what
stands between brackets behind them; `named` says whether there was a word character. -/
def parameterLength? (named : Bool) : List Char → Option Nat
  | [] => if named then some 0 else none
  | ':' :: ':' :: rest => (parameterLength? named rest).map (· + 2)
  | c :: rest =>
    if isWordChar c then (parameterLength? true rest).map (· + 1)
    else if !named then none
    else if c = '(' then
      let inner := rest.takeWhile fun d => !isBlank d && d != ')' && d != '\x00'
      if (rest.drop inner.length).head? = some ')' then some (inner.length + 2) else none
    else some 0

/-! ### Tokens -/

/-- The signs, longer ones before those that they begin with. -/
def signs : List (List Char) :=
  [['-', '>', '>'], ['-', '>'], ['|', '|'], ['<', '='], ['<', '>'], ['<', '<'], ['>', '='],
    ['>', '>'], ['=', '='], ['!', '='], ['('], [')'], [';'], ['+'], ['-'], ['*'], ['/'], ['%'],
    ['='], ['<'], ['>'], ['|'], [','], ['&'], ['~'], ['.']]

/-- Reads up to the quote that stands alone; two quotes stand for one. -/
def readQuoted? (quote : Char) : List Char → Option (List Char × List Char)
  | [] => none
  | [c] => if c = quote then some ([], []) else none
  | c :: d :: rest =>
    if c = '\x00' then none
    else if c = quote then
      if d = quote then (readQuoted? quote rest).map fun (cs, rest) => (quote :: cs, rest)
      else some ([], d :: rest)
    else (readQuoted? quote (d :: rest)).map fun (cs, rest) => (c :: cs, rest)

/-- Reads a blob behind its first quote. -/
def readBlob? (cs : List Char) : Option (Token × List Char) :=
  let digits := cs.takeWhile isHexDigit
  match cs.drop digits.length with
  | '\'' :: rest => if digits.length % 2 = 0 then some (.blob (.ofList digits), rest) else none
  | _ => none

/-- Reads a name behind a bracket. -/
def readBracketed? (cs : List Char) : Option (Token × List Char) :=
  let inner := cs.takeWhile fun c => c != ']' && c != '\x00'
  match cs.drop inner.length with
  | ']' :: rest => some (.name (.ofList inner), rest)
  | _ => none

/-- Reads one token. -/
def read? : List Char → Option (Token × List Char)
  | [] => none
  | c :: rest =>
    let upTo (n : Nat) : String := .ofList (c :: rest.take n)
    if c = '"' ∨ c = '`' then
      (readQuoted? c rest).map fun (cs, rest) => (.name (.ofList cs), rest)
    else if c = '\'' then
      (readQuoted? c rest).map fun (cs, rest) => (.text (.ofList cs), rest)
    else if c = '[' then readBracketed? rest
    else if c.isDigit ∨ c = '.' ∧ rest.head?.any Char.isDigit then
      let n := numberLength (c :: rest) - 1
      if (rest.drop n).head?.any isWordChar then none else some (.number (upTo n), rest.drop n)
    else if c = '?' then
      let n := (rest.takeWhile Char.isDigit).length
      some (.parameter (upTo n), rest.drop n)
    else if c = '$' ∨ c = '@' ∨ c = '#' ∨ c = ':' then
      (parameterLength? false rest).map fun n => (.parameter (upTo n), rest.drop n)
    else if (c = 'x' ∨ c = 'X') ∧ rest.head? = some '\'' then readBlob? (rest.drop 1)
    else if isWordChar c then
      let n := (rest.takeWhile isWordChar).length
      some (.word (upTo n), rest.drop n)
    else
      (signs.find? fun sign => sign.isPrefixOf (c :: rest)).map fun sign =>
        (.sign (.ofList sign), rest.drop (sign.length - 1))

/-- What is skipped is not empty. -/
lemma length_lt_of_skipBlanks? {cs rest : List Char} (h : skipBlanks? cs = some rest) :
    rest.length < cs.length := by
  cases cs with
  | nil => cases h
  | cons c cs =>
      have hdrop : ∀ p : Char → Bool, (cs.dropWhile p).length < (c :: cs).length :=
        fun p => Nat.lt_succ_of_le (List.dropWhile_sublist p).length_le
      rw [skipBlanks?] at h
      split_ifs at h
      · exact Option.some.inj h ▸ hdrop _
      · exact Option.some.inj h ▸ Nat.lt_succ_self _
      · exact Option.some.inj h ▸ hdrop _
      · rw [← Option.some.inj h]
        exact Nat.lt_succ_of_le (List.drop_sublist _ _).length_le

/-- What is read between quotes is not empty, as there is the quote at the end. -/
lemma length_lt_of_readQuoted? {quote : Char} {cs inner rest : List Char}
    (h : readQuoted? quote cs = some (inner, rest)) : rest.length < cs.length := by
  induction cs using readQuoted?.induct quote generalizing inner with
  | case1 => cases h
  | case2 =>
      rw [readQuoted?, if_pos rfl] at h
      cases h
      exact Nat.zero_lt_one
  | case3 c hquote =>
      rw [readQuoted?, if_neg hquote] at h
      cases h
  | case4 d more =>
      rw [readQuoted?, if_pos rfl] at h
      cases h
  | case5 more hnul ih =>
      rw [readQuoted?, if_neg hnul, if_pos rfl, if_pos rfl] at h
      obtain ⟨⟨inner', rest'⟩, hinner, heq⟩ := Option.map_eq_some_iff.mp h
      cases heq
      exact Nat.lt_succ_of_lt (Nat.lt_succ_of_lt (ih hinner))
  | case6 d more hquote hnul =>
      rw [readQuoted?, if_neg hnul, if_pos rfl, if_neg hquote] at h
      cases h
      exact Nat.lt_succ_self _
  | case7 c d more hnul hquote ih =>
      rw [readQuoted?, if_neg hnul, if_neg hquote] at h
      obtain ⟨⟨inner', rest'⟩, hinner, heq⟩ := Option.map_eq_some_iff.mp h
      cases heq
      exact Nat.lt_succ_of_lt (ih hinner)

/-- What follows a blob is a part of what follows its first quote. -/
lemma length_le_of_readBlob? {cs rest : List Char} {t : Token} (h : readBlob? cs = some (t, rest)) :
    rest.length ≤ cs.length := by
  rw [readBlob?] at h
  split at h
  · rename_i more hmore
    split_ifs at h
    cases h
    have hlength := congrArg List.length hmore
    rw [List.length_drop, List.length_cons] at hlength
    omega
  · cases h

/-- What follows a name between brackets is a part of what follows the first one. -/
lemma length_le_of_readBracketed? {cs rest : List Char} {t : Token}
    (h : readBracketed? cs = some (t, rest)) : rest.length ≤ cs.length := by
  rw [readBracketed?] at h
  split at h
  · rename_i more hmore
    cases h
    have hlength := congrArg List.length hmore
    rw [List.length_drop, List.length_cons] at hlength
    omega
  · cases h

/-- A token is not empty. -/
lemma length_lt_of_read? {cs rest : List Char} {t : Token} (h : read? cs = some (t, rest)) :
    rest.length < cs.length := by
  cases cs with
  | nil => cases h
  | cons c cs =>
      have hdrop : ∀ n, (cs.drop n).length < (c :: cs).length :=
        fun n => Nat.lt_succ_of_le (List.drop_sublist n cs).length_le
      rw [read?] at h
      dsimp only at h
      split_ifs at h
      · obtain ⟨inner, hinner, heq⟩ := Option.map_eq_some_iff.mp h
        cases heq
        exact Nat.lt_succ_of_lt (length_lt_of_readQuoted? hinner)
      · obtain ⟨inner, hinner, heq⟩ := Option.map_eq_some_iff.mp h
        cases heq
        exact Nat.lt_succ_of_lt (length_lt_of_readQuoted? hinner)
      · exact Nat.lt_succ_of_le (length_le_of_readBracketed? h)
      · cases h
        exact hdrop _
      · cases h
        exact hdrop _
      · obtain ⟨n, -, heq⟩ := Option.map_eq_some_iff.mp h
        cases heq
        exact hdrop _
      · exact Nat.lt_of_le_of_lt (length_le_of_readBlob? h) (hdrop 1)
      · cases h
        exact hdrop _
      · obtain ⟨sign, -, heq⟩ := Option.map_eq_some_iff.mp h
        cases heq
        exact hdrop _

/-! ### Statements -/

/-- The tokens of a statement. -/
def readAll? (cs : List Char) : Option (List Token) :=
  if cs.isEmpty ∨ cs.head? = some '\x00' then some []
  else
    match _ : skipBlanks? cs with
    | some rest => readAll? rest
    | none =>
      match _ : read? cs with
      | some (t, rest) => (readAll? rest).map (t :: ·)
      | none => none
termination_by cs.length
decreasing_by
  · exact length_lt_of_skipBlanks? ‹_›
  · exact length_lt_of_read? ‹_›

/-- Quotes in a text, written twice. -/
def double (quote : Char) (cs : List Char) : List Char :=
  cs.flatMap fun c => if c = quote then [quote, quote] else [c]

/-- A character other than the quote is read as it is. -/
lemma readQuoted?_cons_of_ne {quote c : Char} {cs inner rest : List Char} (hnul : c ≠ '\x00')
    (hquote : c ≠ quote) (h : readQuoted? quote cs = some (inner, rest)) :
    readQuoted? quote (c :: cs) = some (c :: inner, rest) := by
  cases cs with
  | nil => cases h
  | cons d cs =>
      rw [readQuoted?, if_neg hnul, if_neg hquote, h]
      rfl

/-- **Quotes that are written twice are read once**, up to the quote that stands alone. -/
lemma readQuoted?_double {quote : Char} (hquote : quote ≠ '\x00') {cs rest : List Char}
    (hnul : '\x00' ∉ cs) (hrest : rest.head? ≠ some quote) :
    readQuoted? quote (double quote cs ++ quote :: rest) = some (cs, rest) := by
  induction cs with
  | nil =>
      cases rest with
      | nil => exact if_pos rfl
      | cons d rest =>
          have hd : ¬d = quote := fun h => hrest (congrArg some h)
          rw [double, List.flatMap_nil, List.nil_append, readQuoted?, if_neg hquote, if_pos rfl,
            if_neg hd]
  | cons c cs ih =>
      have hread := ih fun h => hnul (List.mem_cons_of_mem _ h)
      rw [double, List.flatMap_cons, ← double, List.append_assoc]
      by_cases heq : c = quote
      · rw [if_pos heq, List.cons_append, List.cons_append, List.nil_append, readQuoted?,
          if_neg hquote, if_pos rfl, if_pos rfl, hread, heq]
        rfl
      · have hc : c ≠ '\x00' := fun h => hnul (h ▸ List.mem_cons_self)
        rw [if_neg heq, List.singleton_append]
        exact readQuoted?_cons_of_ne hc heq hread

/-- A quoted identifier is its name with its quotes written twice, between quotes. -/
lemma toList_quoted_append (id : Identifier) (rest : List Char) :
    id.quoted.toList ++ rest = '"' :: (double '"' id.name.toList ++ '"' :: rest) := by
  rw [Identifier.quoted, String.toList_append, String.toList_append, String.toList_ofList,
    String.toList_ofList, List.append_assoc, List.append_assoc]
  rfl

/-- **A quoted identifier is read as its name**, and what follows it is left. -/
lemma read?_quoted (id : Identifier) {rest : List Char} (hrest : rest.head? ≠ some '"') :
    read? (id.quoted.toList ++ rest) = some (.name id.name, rest) := by
  have hread := readQuoted?_double (by decide) (Identifier.nul_notMem_of_valid id.valid) hrest
  rw [toList_quoted_append, read?]
  simp only [true_or, if_true, hread, Option.map_some, String.ofList_toList]

/-- A text in single quotes is read as what is between them, and what follows it is left. -/
lemma read?_text {cs rest : List Char} (hnul : '\x00' ∉ cs) (hrest : rest.head? ≠ some '\'') :
    read? ('\'' :: (double '\'' cs ++ '\'' :: rest)) = some (.text (.ofList cs), rest) := by
  have hread := readQuoted?_double (by decide) hnul hrest
  rw [read?]
  simp only [hread]
  rfl

/-! ### Beginnings of statements -/

/-- A text begins with some tokens, behind which there is some rest. -/
inductive Reads : List Char → List Token → List Char → Prop
  | done (cs : List Char) : Reads cs [] cs
  | blanks {cs next rest : List Char} {ts : List Token} (h : skipBlanks? cs = some next)
      (hnext : Reads next ts rest) : Reads cs ts rest
  | token {cs next rest : List Char} {t : Token} {ts : List Token} (hblanks : skipBlanks? cs = none)
      (h : read? cs = some (t, next)) (hnext : Reads next ts rest) : Reads cs (t :: ts) rest

/-- A quoted identifier is one token. -/
lemma reads_quoted (id : Identifier) {rest : List Char} (hrest : rest.head? ≠ some '"') :
    Reads (id.quoted.toList ++ rest) [.name id.name] rest := by
  refine .token ?_ (read?_quoted id hrest) (.done rest)
  rw [toList_quoted_append]
  rfl

/-- What follows some tokens may begin with more tokens. -/
lemma Reads.trans {cs next rest : List Char} {ts us : List Token} (h : Reads cs ts next)
    (hnext : Reads next us rest) : Reads cs (ts ++ us) rest := by
  induction h with
  | done => exact hnext
  | blanks h _ ih => exact .blanks h (ih hnext)
  | token hblanks h _ ih => exact .token hblanks h (ih hnext)

/-- A statement that goes on is read by what is skipped, or by its first token. -/
lemma readAll?_cons {c : Char} {cs : List Char} (hc : c ≠ '\x00') :
    readAll? (c :: cs) =
      match skipBlanks? (c :: cs) with
      | some rest => readAll? rest
      | none => (read? (c :: cs)).bind fun (t, rest) => (readAll? rest).map (t :: ·) := by
  have hgoes : ¬((c :: cs).isEmpty = true ∨ (c :: cs).head? = some '\x00') := by
    rintro (h | h)
    · cases h
    · exact hc (Option.some.inj h)
  rw [readAll?, if_neg hgoes]
  split
  · rename_i h
    rw [h]
  · rename_i h
    rw [h]
    split
    · rename_i hread
      rw [hread]
      rfl
    · rename_i hread
      rw [hread]
      rfl

/-- A text that is some tokens is read as these. -/
lemma readAll?_of_reads {cs : List Char} {ts : List Token} (h : Reads cs ts []) :
    readAll? cs = some ts := by
  generalize hend : [] = rest at h
  induction h with
  | done cs =>
      subst hend
      rw [readAll?]
      rfl
  | @blanks cs next rest ts h _ ih =>
      cases cs with
      | nil => cases h
      | cons c cs =>
          have hc : c ≠ '\x00' := by
            rintro rfl
            cases h
          rw [readAll?_cons hc, h]
          exact ih hend
  | @token cs next rest t ts hblanks h _ ih =>
      cases cs with
      | nil => cases h
      | cons c cs =>
          have hc : c ≠ '\x00' := by
            rintro rfl
            cases h
          rw [readAll?_cons hc, hblanks, h]
          exact congrArg (Option.map (t :: ·)) (ih hend)

end Token

end TableExplorer
