import Mathlib
import TableExplorer.Json.Reader
import TableExplorer.Proofs.Numeral.Digits

/-!
The grammar of JSON, apart from the reader: which texts there are, with blanks wherever they may
stand and every way to spell a character, and the value of each.  The reader reads them all.

* `Piece`, `NumberText`: a character between quotes, and a number, as they may be written.
* `IsText`: **the texts of a value**; `IsDocument`: the same with blanks around them.
* `readUnits?_pieces`, `readNumberParts?_chars`: what pieces and numbers are read as.
* `IsText.reads`: **a text is read as its value**, whatever follows it; by induction on the text, an
  item and a member at a time.
* `IsDocument.ofText?_eq`: **a document is read as its value**.
-/

namespace TableExplorer.Json

open Binary64 (signText)

variable {cs rest blanks text : List Char} {c : Char} {fuel : Nat}

/-! ### Blanks -/

/-- Blanks in front are skipped. -/
lemma skipSpaces_append (h : ∀ c ∈ blanks, isSpace c = true) (cs : List Char) :
    skipSpaces (blanks ++ cs) = skipSpaces cs :=
  List.dropWhile_append_of_pos h

/-- Nothing else is skipped. -/
lemma skipSpaces_cons (h : isSpace c = false) (cs : List Char) :
    skipSpaces (c :: cs) = c :: cs :=
  List.dropWhile_cons_of_neg (Bool.eq_false_iff.mp h)

/-- What stands behind blanks is found. -/
lemma skipSpaces_append_cons (hblanks : ∀ c ∈ blanks, isSpace c = true) (hc : isSpace c = false)
    (cs : List Char) : skipSpaces (blanks ++ c :: cs) = c :: cs := by
  rw [skipSpaces_append hblanks, skipSpaces_cons hc]

lemma skipSpaces_skipSpaces (cs : List Char) : skipSpaces (skipSpaces cs) = skipSpaces cs :=
  List.dropWhile_idempotent _ cs

/-- A value may be read behind its blanks. -/
lemma readValue?_skipSpaces (fuel : Nat) (cs : List Char) :
    readValue? fuel (skipSpaces cs) = readValue? fuel cs := by
  cases fuel with
  | zero => rw [readValue?, readValue?]
  | succ fuel => rw [readValue?, readValue?, skipSpaces_skipSpaces]

lemma readItems?_skipSpaces (fuel : Nat) (cs : List Char) :
    readItems? fuel (skipSpaces cs) = readItems? fuel cs := by
  cases fuel with
  | zero => rw [readItems?, readItems?]
  | succ fuel => rw [readItems?, readItems?, readValue?_skipSpaces]

lemma readMembers?_skipSpaces (fuel : Nat) (cs : List Char) :
    readMembers? fuel (skipSpaces cs) = readMembers? fuel cs := by
  cases fuel with
  | zero => rw [readMembers?, readMembers?]
  | succ fuel => rw [readMembers?, readMembers?, skipSpaces_skipSpaces]

/-- Blanks in front of a value do not matter. -/
lemma readValue?_append (h : ∀ c ∈ blanks, isSpace c = true) (fuel : Nat) (cs : List Char) :
    readValue? fuel (blanks ++ cs) = readValue? fuel cs := by
  rw [← readValue?_skipSpaces, skipSpaces_append h, readValue?_skipSpaces]

/-- What may follow a text: blanks, a comma, a closing bracket, or nothing. -/
def Follows (rest : List Char) : Prop :=
  ∀ c ∈ rest.head?, isSpace c = true ∨ c ∈ [',', ']', '\x7d']

lemma follows_nil : Follows [] := fun _ h => nomatch h

lemma follows_cons (h : c ∈ [',', ']', '\x7d']) (cs : List Char) : Follows (c :: cs) := by
  rintro _ ⟨⟩
  exact .inr h

/-- Blanks may stand in front of what follows. -/
lemma Follows.append (hrest : Follows rest) (h : ∀ c ∈ blanks, isSpace c = true) :
    Follows (blanks ++ rest) := by
  cases blanks with
  | nil => exact hrest
  | cons b bs =>
      rintro _ ⟨⟩
      exact .inl (h b List.mem_cons_self)

/-! ### Strings -/

/-- A character between quotes as it may be written: for itself, as a letter behind a backslash, or
by four hexadecimal digits. -/
inductive Piece where
  | plain (c : Char) (visible : 0x20 ≤ c.toNat) (ne_quote : c ≠ '"') (ne_backslash : c ≠ '\\')
  | letter (e c : Char) (names : unescape? e = some c)
  | digits (a b c d : Char) (unit : Unit16) (names : unitOfHex? a b c d = some unit)

namespace Piece

/-- The text of a piece. -/
def chars : Piece → List Char
  | plain c _ _ _ => [c]
  | letter e _ _ => ['\\', e]
  | digits a b c d _ _ => ['\\', 'u', a, b, c, d]

/-- What a piece stands for. -/
def unit : Piece → Unit16
  | plain c _ _ _ => .char c
  | letter _ c _ => .char c
  | digits _ _ _ _ unit _ => unit

end Piece

/-- Pieces between quotes. -/
def quoted (pieces : List Piece) : List Char := '"' :: (pieces.flatMap Piece.chars ++ ['"'])

/-- The string that pieces make, unless it is unreadable. -/
def content? (pieces : List Piece) : Option String :=
  (charsOfUnits? (pieces.map Piece.unit)).map String.ofList

/-- A piece is read as what it stands for. -/
lemma readUnits?_piece (p : Piece) (cs : List Char) :
    readUnits? (p.chars ++ cs) = (readUnits? cs).map fun read => (p.unit :: read.1, read.2) := by
  cases p with
  | plain c visible ne_quote ne_backslash =>
      show readUnits? (c :: cs) = _
      rw [readUnits?.eq_5 c cs ne_quote (fun _ _ _ _ _ h => absurd h ne_backslash)
        (fun _ _ h => absurd h ne_backslash),
        if_neg (not_or.mpr ⟨Nat.not_lt.mpr visible, ne_backslash⟩)]
      cases readUnits? cs <;> rfl
  | letter e c names =>
      have hu : e ≠ 'u' := by
        rintro rfl
        cases names
      show readUnits? ('\\' :: e :: cs) = _
      rw [readUnits?.eq_4 _ _ fun _ _ _ _ _ h => absurd h hu]
      simp only [names, Option.bind_eq_bind, Option.bind_some]
      cases readUnits? cs <;> rfl
  | digits a b c d unit names =>
      show readUnits? ('\\' :: 'u' :: a :: b :: c :: d :: cs) = _
      rw [readUnits?]
      simp only [names, Option.bind_eq_bind, Option.bind_some]
      cases readUnits? cs <;> rfl

/-- **Pieces are read** up to the quote behind them. -/
lemma readUnits?_pieces (pieces : List Piece) (rest : List Char) :
    readUnits? (pieces.flatMap Piece.chars ++ '"' :: rest) =
      some (pieces.map Piece.unit, rest) := by
  induction pieces with
  | nil => rfl
  | cons p pieces ih =>
      rw [List.flatMap_cons, List.append_assoc, readUnits?_piece, ih]
      rfl

/-- A string is read as its content. -/
lemma readQuoted?_pieces (pieces : List Piece) (rest : List Char) :
    readQuoted? (pieces.flatMap Piece.chars ++ '"' :: rest) = some (content? pieces, rest) := by
  rw [readQuoted?, readUnits?_pieces]
  rfl

/-! ### Numbers -/

/-- The power of ten of a number as it may be written. -/
structure PowerText where
  mark : Char
  sign : List Char
  digits : List Char
  mark_eq : mark = 'e' ∨ mark = 'E'
  sign_mem : sign ∈ [[], ['+'], ['-']]
  digits_ne_nil : digits ≠ []
  isDigit : ∀ c ∈ digits, c.isDigit = true

namespace PowerText

/-- The text of a power. -/
def chars (p : PowerText) : List Char := p.mark :: (p.sign ++ p.digits)

/-- The exponent. -/
def exponent (p : PowerText) : Int :=
  if p.sign = ['-'] then -(Decimal.digitsValue p.digits : Int) else Decimal.digitsValue p.digits

end PowerText

/-- A number as it may be written: an optional minus, a whole part without leading zeros, decimals
behind a point, if there are any, and a power of ten, if there is one. -/
structure NumberText where
  negative : Bool
  whole : List Char
  fraction : List Char
  power? : Option PowerText
  whole_ne_nil : whole ≠ []
  zero_head : '0' ∈ whole.head? → whole = ['0']
  isDigit : ∀ c ∈ whole ++ fraction, c.isDigit = true

namespace NumberText

/-- The text of the power of ten. -/
def powerChars (n : NumberText) : List Char := n.power?.elim [] PowerText.chars

/-- The text of a number. -/
def chars (n : NumberText) : List Char :=
  (signText n.negative).toList ++ (n.whole ++ (Decimal.behindPoint n.fraction ++ n.powerChars))

/-- The parts of a number. -/
def parts (n : NumberText) : NumberParts where
  negative := n.negative
  whole := n.whole
  fraction? := if n.fraction = [] then none else some n.fraction
  exponent? := n.power?.map PowerText.exponent

end NumberText

/-- What follows a number is no part of it. -/
lemma Follows.head (h : Follows rest) :
    ∀ c ∈ rest.head?, c.isDigit = false ∧ c ≠ '.' ∧ c ≠ 'e' ∧ c ≠ 'E' := by
  intro c hc
  have hchar : c ∈ [' ', '\n', '\t', '\r', ',', ']', '\x7d'] := by
    rcases h c hc with hspace | hmem
    · rw [isSpace] at hspace
      simp only [Bool.or_eq_true, beq_iff_eq] at hspace
      simp only [List.mem_cons]
      tauto
    · simp only [List.mem_cons] at hmem ⊢
      tauto
  revert c
  simp only [List.mem_cons, List.not_mem_nil, or_false]
  rintro c - (rfl | rfl | rfl | rfl | rfl | rfl | rfl) <;> decide

/-- The sign of an exponent is split off. -/
lemma splitSign_power (p : PowerText) (rest : List Char) :
    Decimal.splitSign (p.sign ++ (p.digits ++ rest)) =
      (decide (p.sign = ['-']), p.digits ++ rest) := by
  have hsign := p.sign_mem
  simp only [List.mem_cons, List.not_mem_nil, or_false] at hsign
  rcases hsign with h | h | h
  · rw [h]
    exact Decimal.splitSign_signText false p.digits_ne_nil p.isDigit rest
  · rw [h]
    rfl
  · rw [h]
    rfl

/-- **The power of ten is read.** -/
lemma readPower?_powerChars (n : NumberText) (h : Follows rest) :
    readPower? (n.powerChars ++ rest) = some (n.power?.map PowerText.exponent, rest) := by
  cases hpower : n.power? with
  | none =>
      rw [NumberText.powerChars, hpower, Option.elim_none, List.nil_append]
      cases rest with
      | nil => rfl
      | cons c cs =>
          obtain ⟨-, -, hlower, hupper⟩ := h.head c rfl
          rw [readPower?, if_neg (not_or.mpr ⟨hlower, hupper⟩)]
          rfl
  | some p =>
      have hspan : (p.digits ++ rest).span Char.isDigit = (p.digits, rest) :=
        span_append p.isDigit fun c hc => (h.head c hc).1
      rw [NumberText.powerChars, hpower, Option.elim_some, PowerText.chars, List.cons_append,
        List.append_assoc, readPower?, if_pos p.mark_eq, splitSign_power]
      obtain ⟨d, ds, hdigits⟩ := List.exists_cons_of_ne_nil p.digits_ne_nil
      simp only [hspan]
      rw [Option.map_some, PowerText.exponent, hdigits]
      simp only [decide_eq_true_eq]

/-- Behind the decimals stands a power, or what follows the number. -/
lemma head_powerChars (n : NumberText) (h : Follows rest) :
    ∀ c ∈ (n.powerChars ++ rest).head?, c.isDigit = false ∧ c ≠ '.' := by
  intro c hc
  cases hpower : n.power? with
  | none =>
      rw [NumberText.powerChars, hpower, Option.elim_none, List.nil_append] at hc
      exact ⟨(h.head c hc).1, (h.head c hc).2.1⟩
  | some p =>
      rw [NumberText.powerChars, hpower, Option.elim_some, PowerText.chars] at hc
      obtain rfl := Option.mem_some.mp hc
      rcases p.mark_eq with h | h <;> rw [h] <;> decide

/-- **Decimals are read.** -/
lemma readFraction?_behindPoint (n : NumberText) (h : Follows rest) :
    readFraction? (Decimal.behindPoint n.fraction ++ (n.powerChars ++ rest)) =
      some (n.parts.fraction?, n.powerChars ++ rest) := by
  have hhead := head_powerChars n h
  rw [NumberText.parts]
  cases hfraction : n.fraction with
  | nil =>
      rw [Decimal.behindPoint, List.nil_append, if_pos rfl]
      generalize n.powerChars ++ rest = cs at hhead ⊢
      unfold readFraction?
      split
      · exact absurd rfl (hhead '.' rfl).2
      · rfl
  | cons d ds =>
      have hdigits : ∀ c ∈ d :: ds, c.isDigit = true := fun c hc =>
        n.isDigit c (List.mem_append_right _ (hfraction ▸ hc))
      rw [Decimal.behindPoint, List.cons_append, readFraction?,
        span_append hdigits fun c hc => (hhead c hc).1, if_neg (List.cons_ne_nil d ds)]

/-- **The whole part is read.** -/
lemma readWhole?_whole (n : NumberText) (h : ∀ c ∈ rest.head?, c.isDigit = false) :
    readWhole? (n.whole ++ rest) = some (n.whole, rest) := by
  have hspan : (n.whole ++ rest).span Char.isDigit = (n.whole, rest) :=
    span_append (fun c hc => n.isDigit c (List.mem_append_left _ hc)) h
  rw [readWhole?, hspan]
  have hne := n.whole_ne_nil
  have hzero := n.zero_head
  generalize n.whole = whole at hne hzero ⊢
  split
  · rename_i heq
    exact absurd (Prod.mk.inj heq).1 hne
  · rename_i heq
    rw [(Prod.mk.inj heq).1] at hzero
    cases hzero rfl
  · rename_i heq
    rw [heq]

/-- **A number is read as its parts.** -/
lemma readNumberParts?_chars (n : NumberText) (h : Follows rest) :
    readNumberParts? (n.chars ++ rest) = some (n.parts, rest) := by
  have hbehind : ∀ c ∈ (Decimal.behindPoint n.fraction ++ (n.powerChars ++ rest)).head?,
      c.isDigit = false := by
    cases n.fraction with
    | nil => exact fun c hc => (head_powerChars n h c hc).1
    | cons d ds =>
        rintro _ ⟨⟩
        decide
  rw [NumberText.chars, List.append_assoc, List.append_assoc, List.append_assoc]
  cases hnegative : n.negative with
  | true =>
      rw [Decimal.toList_signText_true, List.cons_append, List.nil_append, readNumberParts?.eq_1]
      simp only [readWhole?_whole n hbehind, readFraction?_behindPoint n h,
        readPower?_powerChars n h, Option.bind_eq_bind, Option.bind_some, Option.pure_def]
      rw [NumberText.parts, hnegative]
  | false =>
      have hminus : ∀ cs, n.whole ++ (Decimal.behindPoint n.fraction ++ (n.powerChars ++ rest)) =
          '-' :: cs → False := by
        intro cs heq
        obtain ⟨d, ds, hwhole⟩ := List.exists_cons_of_ne_nil n.whole_ne_nil
        rw [hwhole, List.cons_append] at heq
        have hd := n.isDigit d (List.mem_append_left _ (hwhole ▸ List.mem_cons_self))
        rw [(List.cons.inj heq).1] at hd
        cases hd
      rw [Decimal.toList_signText_false, List.nil_append, readNumberParts?.eq_2 _ hminus]
      simp only [readWhole?_whole n hbehind, readFraction?_behindPoint n h,
        readPower?_powerChars n h, Option.bind_eq_bind, Option.bind_some, Option.pure_def]
      rw [NumberText.parts, hnegative]

/-! ### Values -/

/-- A text between blanks, and its value: an item of an array. -/
structure Item where
  before : List Char
  text : List Char
  after : List Char
  value : Json
  isSpace : ∀ c ∈ before ++ after, isSpace c = true

/-- A named item of an object. -/
structure Member where
  before : List Char
  name : List Piece
  between : List Char
  item : Item
  isSpace : ∀ c ∈ before ++ between, isSpace c = true

namespace Item

/-- The text of an item with its blanks. -/
def chars (i : Item) : List Char := i.before ++ (i.text ++ i.after)

variable {i : Item}

lemma isSpace_of_mem_before (h : c ∈ i.before) : Json.isSpace c = true :=
  i.isSpace c (List.mem_append_left _ h)

lemma isSpace_of_mem_after (h : c ∈ i.after) : Json.isSpace c = true :=
  i.isSpace c (List.mem_append_right _ h)

lemma length_text_le (i : Item) : i.text.length ≤ i.chars.length := by
  rw [chars, List.length_append, List.length_append]
  omega

end Item

namespace Member

/-- The text of a member with its blanks. -/
def chars (m : Member) : List Char :=
  m.before ++ (quoted m.name ++ (m.between ++ ':' :: m.item.chars))

/-- The name, unless it is unreadable, and the value. -/
def entry (m : Member) : Option String × Json := (content? m.name, m.item.value)

variable {m : Member}

lemma isSpace_of_mem_before (h : c ∈ m.before) : Json.isSpace c = true :=
  m.isSpace c (List.mem_append_left _ h)

lemma isSpace_of_mem_between (h : c ∈ m.between) : Json.isSpace c = true :=
  m.isSpace c (List.mem_append_right _ h)

lemma length_item_lt (m : Member) : m.item.chars.length < m.chars.length := by
  simp only [chars, List.length_append, List.length_cons]
  omega

end Member

/-- Texts with commas between them. -/
def listed (texts : List (List Char)) : List Char := [','].intercalate texts

/-- **The texts of a value.** -/
inductive IsText : List Char → Json → Prop
  | null : IsText "null".toList .null
  | bool (b : Bool) : IsText (if b then "true" else "false").toList (.bool b)
  | number (n : NumberText) : IsText n.chars n.parts.value
  | string (pieces : List Piece) :
      IsText (quoted pieces) (((content? pieces).map .string).getD .unreadable)
  | array (items : List Item) (blanks : List Char) (hblanks : ∀ c ∈ blanks, isSpace c = true)
      (hitems : ∀ i ∈ items, IsText i.text i.value) :
      IsText ('[' :: (listed (items.map Item.chars) ++ (blanks ++ [']'])))
        (.array (items.map Item.value))
  | object (members : List Member) (blanks : List Char) (hblanks : ∀ c ∈ blanks, isSpace c = true)
      (hmembers : ∀ m ∈ members, IsText m.item.text m.item.value) :
      IsText ('\x7b' :: (listed (members.map Member.chars) ++ (blanks ++ ['\x7d'])))
        (ofMembers (members.map Member.entry))

/-- A text of a value with blanks around it. -/
def IsDocument (s : String) (json : Json) : Prop :=
  ∃ i : Item, s.toList = i.chars ∧ i.value = json ∧ IsText i.text json

/-- A text is read as a value, whatever follows it. -/
def Reads (text : List Char) (json : Json) : Prop :=
  ∀ fuel rest, 2 * text.length ≤ fuel → Follows rest →
    readValue? fuel (text ++ rest) = some (json, rest)

/-- A text starts with a character that is no blank and ends no array. -/
def Starts (text : List Char) : Prop :=
  ∃ c cs, text = c :: cs ∧ isSpace c = false ∧ c ≠ ']'

/-- A number starts with a minus or a digit, and so not like anything else. -/
lemma NumberText.exists_chars (n : NumberText) : ∃ c cs, n.chars = c :: cs ∧
    c ∉ [' ', '\n', '\t', '\r', ']', 'n', 't', 'f', '"', '[', '\x7b'] := by
  obtain ⟨d, ds, hwhole⟩ := List.exists_cons_of_ne_nil n.whole_ne_nil
  have hd := n.isDigit d (List.mem_append_left _ (hwhole ▸ List.mem_cons_self))
  rw [chars, hwhole]
  cases n.negative with
  | true => exact ⟨'-', _, rfl, by decide⟩
  | false =>
      refine ⟨d, _, rfl, fun hmem => ?_⟩
      have hother : ∀ c ∈ [' ', '\n', '\t', '\r', ']', 'n', 't', 'f', '"', '[', '\x7b'],
          c.isDigit = false := by simp
      rw [hother d hmem] at hd
      cases hd

lemma IsText.starts {json : Json} (h : IsText text json) : Starts text := by
  cases h with
  | null => exact ⟨'n', _, rfl, by decide, by decide⟩
  | bool b =>
      cases b with
      | false => exact ⟨'f', _, rfl, by decide, by decide⟩
      | true => exact ⟨'t', _, rfl, by decide, by decide⟩
  | number n =>
      obtain ⟨c, cs, hchars, hother⟩ := n.exists_chars
      simp only [List.mem_cons, List.not_mem_nil, or_false, not_or] at hother
      exact ⟨c, cs, hchars, by simp [isSpace, hother], by simp only [Ne, hother, not_false_eq_true]⟩
  | string pieces => exact ⟨'"', _, rfl, by decide, by decide⟩
  | array items blanks => exact ⟨'[', _, rfl, by decide, by decide⟩
  | object members blanks => exact ⟨'\x7b', _, rfl, by decide, by decide⟩

/-! ### Reading values -/

section

variable {json : Json}

/-- A text with a first character takes one step, and twice the length of the rest is left for
others. -/
lemma reads_cons (h : ∀ fuel rest, 2 * cs.length < fuel → Follows rest →
    readValue? (fuel + 1) (c :: (cs ++ rest)) = some (json, rest)) : Reads (c :: cs) json := by
  intro fuel rest hfuel hrest
  rw [List.length_cons] at hfuel
  obtain ⟨fuel, rfl⟩ : ∃ k, fuel = k + 1 := ⟨fuel - 1, by omega⟩
  exact h fuel rest (by omega) hrest

/-- **A number is read.** -/
lemma reads_number (n : NumberText) : Reads n.chars n.parts.value := by
  obtain ⟨c, cs, hchars, hother⟩ := n.exists_chars
  simp only [List.mem_cons, List.not_mem_nil, or_false, not_or] at hother
  have hspace : isSpace c = false := by simp [isSpace, hother]
  rw [hchars]
  refine reads_cons fun fuel rest hfuel hrest => ?_
  have hread : readNumber? (n.chars ++ rest) = some (n.parts.value, rest) := by
    rw [readNumber?, readNumberParts?_chars n hrest]
    rfl
  rw [hchars, List.cons_append] at hread
  rw [readValue?, skipSpaces_cons hspace]
  split
  case h_7 => exact hread
  all_goals
    rename_i heq
    exact absurd (List.cons.inj heq).1 (by simp only [hother, not_false_eq_true])

/-- **A string is read.** -/
lemma reads_quoted (pieces : List Piece) :
    Reads (quoted pieces) (((content? pieces).map .string).getD .unreadable) := by
  refine reads_cons fun fuel rest _ _ => ?_
  rw [List.append_assoc, List.singleton_append, readValue?, skipSpaces_cons (by decide)]
  simp only [readQuoted?_pieces, Option.map_some]

/-- A word is read off. -/
lemma afterWord?_append (word rest : List Char) : afterWord? word (word ++ rest) = some rest := by
  induction word with
  | nil => rfl
  | cons w word ih => rw [List.cons_append, afterWord?, if_pos rfl, ih]

/-- **The words are read.** -/
lemma reads_null : Reads ('n' :: "ull".toList) .null := by
  refine reads_cons fun fuel rest _ _ => ?_
  rw [readValue?, skipSpaces_cons (by decide)]
  simp only [afterWord?_append, Option.map_some]

lemma reads_true : Reads ('t' :: "rue".toList) (.bool true) := by
  refine reads_cons fun fuel rest _ _ => ?_
  rw [readValue?, skipSpaces_cons (by decide)]
  simp only [afterWord?_append, Option.map_some]

lemma reads_false : Reads ('f' :: "alse".toList) (.bool false) := by
  refine reads_cons fun fuel rest _ _ => ?_
  rw [readValue?, skipSpaces_cons (by decide)]
  simp only [afterWord?_append, Option.map_some]

end

/-! ### Reading items -/

lemma listed_singleton (text : List Char) : listed [text] = text := by
  rw [listed, List.intercalate_singleton]

lemma listed_cons (text next : List Char) (texts : List (List Char)) :
    listed (text :: next :: texts) = text ++ ',' :: listed (next :: texts) := by
  rw [listed, List.intercalate_cons_cons, List.append_assoc]
  rfl

lemma listed_map_cons {α : Type} (chars : α → List Char) (x y : α) (ys : List α) :
    listed ((x :: y :: ys).map chars) = chars x ++ ',' :: listed ((y :: ys).map chars) :=
  listed_cons (chars x) (chars y) (ys.map chars)

/-- A text is read behind its blanks. -/
lemma Item.readValue?_chars {i : Item} (h : Reads i.text i.value)
    (hfuel : 2 * i.chars.length ≤ fuel) (hrest : Follows rest) :
    readValue? fuel (i.chars ++ rest) = some (i.value, i.after ++ rest) := by
  have hlength := i.length_text_le
  rw [chars, List.append_assoc, List.append_assoc,
    readValue?_append fun _ => isSpace_of_mem_before]
  exact h fuel _ (by omega) (hrest.append fun _ => isSpace_of_mem_after)

/-- **Items are read** up to the end of their array. -/
lemma readItems?_listed {i : Item} {items : List Item}
    (hread : ∀ j ∈ i :: items, Reads j.text j.value)
    (hblanks : ∀ c ∈ blanks, isSpace c = true) (rest : List Char)
    (hfuel : 2 * (listed ((i :: items).map Item.chars)).length < fuel) :
    readItems? fuel (listed ((i :: items).map Item.chars) ++ (blanks ++ ']' :: rest)) =
      some ((i :: items).map Item.value, rest) := by
  induction items generalizing i fuel with
  | nil =>
      obtain ⟨fuel, rfl⟩ : ∃ k, fuel = k + 1 := ⟨fuel - 1, by omega⟩
      have hend : skipSpaces (i.after ++ (blanks ++ ']' :: rest)) = ']' :: rest := by
        rw [skipSpaces_append fun _ => i.isSpace_of_mem_after,
          skipSpaces_append_cons hblanks (by decide)]
      rw [List.map_singleton, listed_singleton] at hfuel
      rw [List.map_singleton, listed_singleton, readItems?, i.readValue?_chars
        (hread i List.mem_cons_self) (by omega) ((follows_cons (by decide) rest).append hblanks)]
      simp only [Option.bind_eq_bind, Option.bind_some, hend]
      rfl
  | cons j items ih =>
      obtain ⟨fuel, rfl⟩ : ∃ k, fuel = k + 1 := ⟨fuel - 1, by omega⟩
      obtain ⟨hi, hitems⟩ := List.forall_mem_cons.mp hread
      have hcomma := skipSpaces_append_cons (fun _ => i.isSpace_of_mem_after)
        (by decide : isSpace ',' = false)
      rw [listed_map_cons, List.length_append, List.length_cons] at hfuel
      rw [listed_map_cons, List.append_assoc, List.cons_append, readItems?,
        i.readValue?_chars hi (by omega) (follows_cons (by decide) _)]
      have hrest : readItems? fuel (listed ((j :: items).map Item.chars) ++
          (blanks ++ ']' :: rest)) = some ((j :: items).map Item.value, rest) :=
        ih hitems (by omega)
      simp only [Option.bind_eq_bind, Option.bind_some, hcomma, hrest]
      rfl

/-- A name and its value are found between their blanks. -/
lemma Member.skipSpaces_chars (m : Member) (rest : List Char) :
    skipSpaces (m.chars ++ rest) =
      '"' :: (m.name.flatMap Piece.chars ++
        '"' :: (m.between ++ ':' :: (m.item.chars ++ rest))) := by
  simp only [chars, quoted, List.append_assoc, List.cons_append, List.nil_append]
  exact skipSpaces_append_cons (fun _ => m.isSpace_of_mem_before) (by decide) _

/-- A member is read, and others behind a comma. -/
lemma Member.readMembers?_comma {m : Member} (h : Reads m.item.text m.item.value)
    (hfuel : 2 * m.chars.length ≤ fuel) (rest : List Char) :
    readMembers? (fuel + 1) (m.chars ++ ',' :: rest) =
      (readMembers? fuel rest).map fun read => (m.entry :: read.1, read.2) := by
  have hlength := m.length_item_lt
  have hcolon := skipSpaces_append_cons (fun _ => m.isSpace_of_mem_between)
    (by decide : Json.isSpace ':' = false)
  have hcomma := skipSpaces_append_cons (fun _ => m.item.isSpace_of_mem_after)
    (by decide : Json.isSpace ',' = false)
  have hvalue := m.item.readValue?_chars h (by omega : 2 * m.item.chars.length ≤ fuel)
    (follows_cons (by decide : ',' ∈ _) rest)
  rw [readMembers?, skipSpaces_chars]
  simp only [readQuoted?_pieces, Option.bind_eq_bind, Option.bind_some, hcolon, hvalue, hcomma]
  cases readMembers? fuel rest <;> rfl

/-- The last member is read. -/
lemma Member.readMembers?_last {m : Member} (h : Reads m.item.text m.item.value)
    (hfuel : 2 * m.chars.length ≤ fuel) (hblanks : ∀ c ∈ blanks, Json.isSpace c = true)
    (rest : List Char) :
    readMembers? (fuel + 1) (m.chars ++ (blanks ++ '\x7d' :: rest)) = some ([m.entry], rest) := by
  have hlength := m.length_item_lt
  have hcolon := skipSpaces_append_cons (fun _ => m.isSpace_of_mem_between)
    (by decide : Json.isSpace ':' = false)
  have hend : skipSpaces (m.item.after ++ (blanks ++ '\x7d' :: rest)) = '\x7d' :: rest := by
    rw [skipSpaces_append fun _ => m.item.isSpace_of_mem_after,
      skipSpaces_append_cons hblanks (by decide)]
  have hvalue := m.item.readValue?_chars h (by omega : 2 * m.item.chars.length ≤ fuel)
    ((follows_cons (by decide : '\x7d' ∈ _) rest).append hblanks)
  rw [readMembers?, skipSpaces_chars]
  simp only [readQuoted?_pieces, Option.bind_eq_bind, Option.bind_some, hcolon, hvalue, hend]
  rfl

/-- **Members are read** up to the end of their object. -/
lemma readMembers?_listed {m : Member} {members : List Member}
    (hread : ∀ k ∈ m :: members, Reads k.item.text k.item.value)
    (hblanks : ∀ c ∈ blanks, isSpace c = true) (rest : List Char)
    (hfuel : 2 * (listed ((m :: members).map Member.chars)).length < fuel) :
    readMembers? fuel (listed ((m :: members).map Member.chars) ++ (blanks ++ '\x7d' :: rest)) =
      some ((m :: members).map Member.entry, rest) := by
  induction members generalizing m fuel with
  | nil =>
      obtain ⟨fuel, rfl⟩ : ∃ k, fuel = k + 1 := ⟨fuel - 1, by omega⟩
      rw [List.map_singleton, listed_singleton] at hfuel
      rw [List.map_singleton, listed_singleton,
        m.readMembers?_last (hread m List.mem_cons_self) (by omega) hblanks, List.map_singleton]
  | cons k members ih =>
      obtain ⟨fuel, rfl⟩ : ∃ k, fuel = k + 1 := ⟨fuel - 1, by omega⟩
      obtain ⟨hm, hmembers⟩ := List.forall_mem_cons.mp hread
      rw [listed_map_cons, List.length_append, List.length_cons] at hfuel
      rw [listed_map_cons, List.append_assoc, List.cons_append,
        m.readMembers?_comma hm (by omega), ih hmembers (by omega)]
      rfl

/-! ### Reading arrays and objects -/

/-- An array that does not end at once has items. -/
lemma readValue?_array (h : ∀ tail, skipSpaces cs ≠ ']' :: tail) :
    readValue? (fuel + 1) ('[' :: cs) =
      (readItems? fuel cs).map fun read => (.array read.1, read.2) := by
  rw [readValue?, skipSpaces_cons (by decide)]
  simp only [readItems?_skipSpaces]

/-- An object that does not end at once has members. -/
lemma readValue?_object (h : ∀ tail, skipSpaces cs ≠ '\x7d' :: tail) :
    readValue? (fuel + 1) ('\x7b' :: cs) =
      (readMembers? fuel cs).map fun read => (ofMembers read.1, read.2) := by
  rw [readValue?, skipSpaces_cons (by decide)]
  simp only [readMembers?_skipSpaces]

/-- A list of texts starts with the first of them. -/
lemma exists_listed (text : List Char) (texts : List (List Char)) :
    ∃ tail, listed (text :: texts) = text ++ tail := by
  cases texts with
  | nil => exact ⟨[], by rw [listed_singleton, List.append_nil]⟩
  | cons next texts => exact ⟨_, listed_cons text next texts⟩

/-- Items do not start with the end of their array. -/
lemma skipSpaces_listed_items_ne {i : Item} (h : Starts i.text) (items : List Item)
    (rest tail : List Char) :
    skipSpaces (listed ((i :: items).map Item.chars) ++ rest) ≠ ']' :: tail := by
  obtain ⟨c, cs, htext, hspace, hne⟩ := h
  obtain ⟨more, hlisted⟩ := exists_listed i.chars (items.map Item.chars)
  rw [List.map_cons, hlisted, Item.chars, htext, List.append_assoc, List.append_assoc,
    skipSpaces_append fun _ => i.isSpace_of_mem_before, List.cons_append, List.cons_append,
    skipSpaces_cons hspace]
  exact fun heq => hne (List.cons.inj heq).1

/-- Members do not start with the end of their object. -/
lemma skipSpaces_listed_members_ne (m : Member) (members : List Member) (rest tail : List Char) :
    skipSpaces (listed ((m :: members).map Member.chars) ++ rest) ≠ '\x7d' :: tail := by
  obtain ⟨more, hlisted⟩ := exists_listed m.chars (members.map Member.chars)
  rw [List.map_cons, hlisted, Member.chars, quoted, List.append_assoc, List.append_assoc,
    skipSpaces_append fun _ => m.isSpace_of_mem_before, List.cons_append, List.cons_append,
    skipSpaces_cons (by decide)]
  exact fun heq => absurd (List.cons.inj heq).1 (by decide)

/-- **An array is read.** -/
lemma reads_array {items : List Item} (hblanks : ∀ c ∈ blanks, isSpace c = true)
    (hstarts : ∀ i ∈ items, Starts i.text) (hread : ∀ i ∈ items, Reads i.text i.value) :
    Reads ('[' :: (listed (items.map Item.chars) ++ (blanks ++ [']'])))
      (.array (items.map Item.value)) := by
  refine reads_cons fun fuel rest hfuel _ => ?_
  simp only [List.length_cons, List.length_append] at hfuel
  simp only [List.cons_append, List.append_assoc, List.nil_append]
  cases items with
  | nil =>
      rw [List.map_nil, listed, List.intercalate_nil, List.nil_append, readValue?,
        skipSpaces_cons (by decide)]
      simp only [skipSpaces_append_cons hblanks (by decide : isSpace ']' = false)]
      rfl
  | cons i items =>
      rw [readValue?_array
        (skipSpaces_listed_items_ne (hstarts i List.mem_cons_self) items _),
        readItems?_listed hread hblanks rest (by omega)]
      rfl

/-- **An object is read.** -/
lemma reads_object {members : List Member} (hblanks : ∀ c ∈ blanks, isSpace c = true)
    (hread : ∀ m ∈ members, Reads m.item.text m.item.value) :
    Reads ('\x7b' :: (listed (members.map Member.chars) ++ (blanks ++ ['\x7d'])))
      (ofMembers (members.map Member.entry)) := by
  refine reads_cons fun fuel rest hfuel _ => ?_
  simp only [List.length_cons, List.length_append] at hfuel
  simp only [List.cons_append, List.append_assoc, List.nil_append]
  cases members with
  | nil =>
      rw [List.map_nil, listed, List.intercalate_nil, List.nil_append, readValue?,
        skipSpaces_cons (by decide)]
      simp only [skipSpaces_append_cons hblanks (by decide : isSpace '\x7d' = false)]
      rfl
  | cons m members =>
      rw [readValue?_object (skipSpaces_listed_members_ne m members _),
        readMembers?_listed hread hblanks rest (by omega)]
      rfl

/-- **A text is read as its value**, whatever follows it. -/
theorem IsText.reads {json : Json} (h : IsText text json) : Reads text json := by
  induction h with
  | null => exact reads_null
  | bool b =>
      cases b with
      | false => exact reads_false
      | true => exact reads_true
  | number n => exact reads_number n
  | string pieces => exact reads_quoted pieces
  | array items blanks hblanks hitems ih =>
      exact reads_array hblanks (fun i hi => (hitems i hi).starts) ih
  | object members blanks hblanks hmembers ih => exact reads_object hblanks ih

/-- **A document is read as its value.** -/
theorem IsDocument.ofText?_eq {s : String} {json : Json} (h : IsDocument s json) :
    ofText? s = some json := by
  obtain ⟨i, hs, rfl, htext⟩ := h
  have hread :
      readValue? (2 * i.chars.length + 1) (i.chars ++ []) = some (i.value, i.after ++ []) :=
    i.readValue?_chars htext.reads (by omega) follows_nil
  have hafter : skipSpaces i.after = [] :=
    List.dropWhile_eq_nil_iff.mpr fun _ => i.isSpace_of_mem_after
  rw [List.append_nil, List.append_nil] at hread
  rw [ofText?, ofChars?, hs, hread]
  simp only [Option.bind_eq_bind, Option.bind_some, hafter, List.isEmpty_nil, if_true]

end TableExplorer.Json
