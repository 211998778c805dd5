import TableExplorer.Json.Writer
import TableExplorer.Proofs.Json.Grammar
import TableExplorer.Proofs.Numeral.FifteenDigits
import TableExplorer.Proofs.Numeral.WrittenDigits

/-!
What is written is read.  Strings, integers and reals are written as texts of the grammar, on one
line or on many.  A string is read as itself, control characters, quotes and all, and so is an
integer that 64 bits hold; a real has a point or an exponent in its text and is read as a real, and
as itself if its digits are.

* `ReadsBack`: the digits of a real are read as that real.
* `IsExact`: the values all of whose numbers are exact; `IsExact.isText_compact`,
  `IsExact.isText_prettyAt`: **their texts**.
* `IsExact.isDocument_compact`, `IsExact.isDocument_pretty`: **what is written is read as what it
  was written from**.
-/

namespace TableExplorer.Json

open Binary64 (signText)

/-! ### Strings -/

/-- A character is written as a piece that stands for it. -/
lemma exists_piece (c : Char) : ∃ p : Piece, p.chars = escape c ∧ p.unit = .char c := by
  unfold escape
  split
  · exact ⟨.letter '"' '"' rfl, rfl, rfl⟩
  · exact ⟨.letter '\\' '\\' rfl, rfl, rfl⟩
  · exact ⟨.letter 'n' '\n' rfl, rfl, rfl⟩
  · exact ⟨.letter 't' '\t' rfl, rfl, rfl⟩
  · exact ⟨.letter 'r' '\r' rfl, rfl, rfl⟩
  · exact ⟨.letter 'b' '\x08' rfl, rfl, rfl⟩
  · exact ⟨.letter 'f' '\x0c' rfl, rfl, rfl⟩
  · rename_i hquote hbackslash _ _ _ _ _
    split
    · rename_i hcontrol
      have hdigits : ∀ n < 0x20, unitOfHex? '0' '0' (hexDigit (n / 16)) (hexDigit (n % 16)) =
          some (.char (.ofNat n)) := by decide
      exact ⟨.digits _ _ _ _ (.char c) (by rw [hdigits _ hcontrol, Char.ofNat_toNat]), rfl, rfl⟩
    · rename_i hvisible
      exact ⟨.plain c (Nat.not_lt.mp hvisible) hquote hbackslash, rfl, rfl⟩

lemma exists_pieces (cs : List Char) : ∃ pieces : List Piece,
    pieces.flatMap Piece.chars = cs.flatMap escape ∧
      pieces.map Piece.unit = cs.map Unit16.char := by
  induction cs with
  | nil => exact ⟨[], rfl, rfl⟩
  | cons c cs ih =>
      obtain ⟨p, hp, hunit⟩ := exists_piece c
      obtain ⟨pieces, hpieces, hunits⟩ := ih
      exact ⟨p :: pieces, by rw [List.flatMap_cons, List.flatMap_cons, hp, hpieces],
        by rw [List.map_cons, List.map_cons, hunit, hunits]⟩

/-- Characters make themselves. -/
lemma charsOfUnits?_map_char (cs : List Char) : charsOfUnits? (cs.map Unit16.char) = some cs := by
  induction cs with
  | nil => rfl
  | cons c cs ih => rw [List.map_cons, charsOfUnits?, ih]; rfl

/-- **A string is written** as pieces between quotes that make it. -/
lemma exists_quoted (s : String) : ∃ pieces : List Piece,
    (writeQuoted s).toList = quoted pieces ∧ content? pieces = some s := by
  obtain ⟨pieces, hpieces, hunits⟩ := exists_pieces s.toList
  refine ⟨pieces, ?_, ?_⟩
  · rw [writeQuoted, String.toList_ofList, quoted, hpieces, List.cons_append]
  · rw [content?, hunits, charsOfUnits?_map_char, Option.map_some, String.ofList_toList]

/-- **A string is read as itself.** -/
lemma isText_string (s : String) : IsText (writeQuoted s).toList (.string s) := by
  obtain ⟨pieces, hquoted, hcontent⟩ := exists_quoted s
  have htext := IsText.string pieces
  rwa [hcontent, ← hquoted] at htext

/-! ### Numbers -/

/-- A number without a point and without an exponent, behind its sign. -/
lemma exists_numberText_integer (i : Int) : ∃ n : NumberText, (toString i).toList = n.chars ∧
    n.parts = ⟨decide (i < 0), Nat.toDigits 10 i.natAbs, none, none⟩ := by
  have hdigit : ∀ c ∈ Nat.toDigits 10 i.natAbs ++ [], c.isDigit = true := by
    intro c hc
    rw [List.append_nil] at hc
    exact Nat.isDigit_of_mem_toDigits (by decide) (by decide) hc
  refine ⟨⟨decide (i < 0), Nat.toDigits 10 i.natAbs, [], none, Nat.toDigits_ne_nil, fun hhead => ?_,
    hdigit⟩, ?_, rfl⟩
  · rcases Nat.eq_zero_or_pos i.natAbs with hzero | hpos
    · rw [hzero]
      rfl
    · exact absurd hhead (zero_notMem_head?_toDigits hpos)
  · rw [toList_toString_int, NumberText.chars, NumberText.powerChars, Option.elim_none,
      List.append_nil]

/-- **An integer that 64 bits hold is read as itself.** -/
lemma isText_integer {i : Int} (hlow : -(Word.signedBound : Int) ≤ i) (hhigh : i < Word.bound) :
    IsText (toString i).toList (.integer i) := by
  obtain ⟨n, hchars, hparts⟩ := exists_numberText_integer i
  have hinteger : n.parts.integer? = some i := by
    rw [hparts, NumberParts.integer?]
    simp only [Option.isSome_none, Bool.or_self, Bool.false_eq_true, if_false,
      Decimal.digitsValue_toDigits, decide_eq_true_iff]
    rcases lt_or_ge i 0 with hneg | hnonneg
    · rw [if_pos hneg, if_pos (by omega), Int.ofNat_natAbs_of_nonpos hneg.le, neg_neg]
    · rw [if_neg (not_lt.mpr hnonneg), if_pos (by omega), Int.natAbs_of_nonneg hnonneg]
  have htext := IsText.number n
  rwa [← hchars, NumberParts.value, hinteger] at htext

/-- A number has a point or an exponent. -/
def NumberText.IsReal (n : NumberText) : Prop := n.fraction ≠ [] ∨ n.power?.isSome = true

/-- A number with a point or an exponent is no integer, even if it is whole. -/
lemma NumberText.IsReal.value_eq {n : NumberText} (h : n.IsReal) :
    n.parts.value = (n.parts.real?.map .real).getD .unreadable := by
  have hinteger : n.parts.integer? = none := by
    rw [NumberParts.integer?, if_pos]
    rw [parts, Option.isSome_map, Bool.or_eq_true]
    refine h.imp_left fun hfraction => ?_
    dsimp only
    rw [if_neg hfraction]
    rfl
  rw [NumberParts.value, hinteger]
  cases n.parts.real? <;> rfl

/-- A positive number is written with an exponent, its first digit in front of the point. -/
lemma exists_numberText_scientific (negative : Bool) {digits : Nat} (hpos : 0 < digits)
    (lead : Int) : ∃ n : NumberText, n.IsReal ∧
      (signText negative).toList ++ writeScientific (Nat.toDigits 10 digits) lead = n.chars := by
  have hdigit : ∀ n, ∀ c ∈ Nat.toDigits 10 n, c.isDigit = true := fun n c =>
    Nat.isDigit_of_mem_toDigits (by decide) (by decide)
  have hhead := zero_notMem_head?_toDigits hpos
  have hdigits := hdigit digits
  obtain ⟨d, ds, hsplit⟩ : ∃ d ds, Nat.toDigits 10 digits = d :: ds :=
    List.exists_cons_of_ne_nil Nat.toDigits_ne_nil
  rw [hsplit] at hhead hdigits
  let power : PowerText := ⟨'e', [if lead < 0 then '-' else '+'], Nat.toDigits 10 lead.natAbs,
    .inl rfl, by split <;> decide, Nat.toDigits_ne_nil, hdigit _⟩
  refine ⟨⟨negative, [d], ds, some power, List.cons_ne_nil _ _, fun hzero => absurd hzero hhead,
    hdigits⟩, .inr rfl, ?_⟩
  have hmantissa : (if (d :: ds).length ≤ 1 then d :: ds
      else (d :: ds).take 1 ++ '.' :: (d :: ds).drop 1) = d :: Decimal.behindPoint ds := by
    cases ds <;> rfl
  rw [NumberText.chars, writeScientific, hsplit, hmantissa]
  rfl

/-- Digits are written positionally, with at least one decimal, or with an exponent. -/
lemma writeMagnitude_cases {m : Binary64.Magnitude} {s : ScaledDigits}
    (hs : m.shortestDigits .toEven = s) :
    writeMagnitude m = s.positional.1 ++ '.' :: atLeastOneDecimal s.positional.2 ∨
      ∃ lead, writeMagnitude m = writeScientific (Nat.toDigits 10 s.digits) lead := by
  unfold writeMagnitude
  rw [hs]
  by_cases h : -5 ≤ s.exponent + (Nat.toDigits 10 s.digits).length - 1 ∧
      s.exponent + (Nat.toDigits 10 s.digits).length - 1 < 16
  · exact .inl (if_pos h)
  · exact .inr ⟨_, if_neg h⟩

/-- Digits are written positionally with at least one decimal. -/
lemma exists_numberText_positional (negative : Bool) {s : ScaledDigits} (hpos : 0 < s.digits) :
    ∃ n : NumberText, n.IsReal ∧ (signText negative).toList ++
      (s.positional.1 ++ '.' :: atLeastOneDecimal s.positional.2) = n.chars := by
  have hne : atLeastOneDecimal s.positional.2 ≠ [] := by
    rw [atLeastOneDecimal]
    split
    · exact List.cons_ne_nil _ _
    · rename_i h
      rwa [List.isEmpty_iff] at h
  refine ⟨⟨negative, s.positional.1, atLeastOneDecimal s.positional.2, none, s.whole_ne_nil,
    s.whole_eq_zero hpos, fun c hc => ?_⟩, .inl hne, ?_⟩
  · rcases List.mem_append.mp hc with hwhole | hfraction
    · exact ScaledDigits.isDigit_of_mem_positional (List.mem_append_left _ hwhole)
    · exact ScaledDigits.isDigit_of_mem_atLeastOneDecimal (fun d hd =>
        ScaledDigits.isDigit_of_mem_positional (List.mem_append_right _ hd)) hfraction
  · rw [NumberText.chars, NumberText.powerChars, Option.elim_none, List.append_nil,
      Decimal.behindPoint_of_ne_nil hne]

/-- **A finite real is written** with a point or an exponent. -/
lemma exists_numberText_real {x : Binary64} (hx : x.isFinite = true) :
    ∃ n : NumberText, n.IsReal ∧ (writeReal x).toList = n.chars := by
  cases x with
  | nan => cases hx
  | infinite negative => cases hx
  | finite negative m =>
      rw [writeReal, String.toList_append]
      split
      · exact ⟨⟨negative, ['0'], ['0'], none, List.cons_ne_nil _ _, fun _ => rfl, by simp⟩,
          .inl (List.cons_ne_nil _ _), rfl⟩
      · rename_i hzero
        have hpos := Nat.pos_of_ne_zero hzero
        have hdigits := Binary64.Magnitude.digits_pos_of_isReadFrom hpos
          (m.isReadFrom_shortestDigits .toEven hpos)
        rw [String.toList_ofList]
        rcases writeMagnitude_cases (m := m) rfl with hpositional | ⟨lead, hscientific⟩
        · rw [hpositional]
          exact exists_numberText_positional negative hdigits
        · rw [hscientific]
          exact exists_numberText_scientific negative hdigits lead

/-- The digits of a real are read as that real. -/
def ReadsBack (x : Binary64) : Prop :=
  (readNumberParts? (writeReal x).toList).bind (·.1.real?) = some x

instance (x : Binary64) : Decidable (ReadsBack x) := inferInstanceAs (Decidable (_ = _))

/-- The text of a finite real is that of a real, if it is readable. -/
lemma exists_isText_real {x : Binary64} (hx : x.isFinite = true) :
    ∃ x? : Option Binary64, IsText (writeReal x).toList ((x?.map .real).getD .unreadable) ∧
      (ReadsBack x → x? = some x) := by
  obtain ⟨n, hreal, hchars⟩ := exists_numberText_real hx
  have htext := IsText.number n
  rw [← hchars, hreal.value_eq] at htext
  refine ⟨n.parts.real?, htext, fun hback => ?_⟩
  have hparts := readNumberParts?_chars n follows_nil
  rw [List.append_nil] at hparts
  rwa [ReadsBack, hchars, hparts] at hback

/-- **A real that reads back is read as itself.** -/
lemma isText_real {x : Binary64} (hx : x.isFinite = true) (hback : ReadsBack x) :
    IsText (writeReal x).toList (.real x) := by
  obtain ⟨x?, htext, hsome⟩ := exists_isText_real hx
  rwa [hsome hback] at htext

/-! ### Values -/

/-- All numbers of a value are exact: integers that 64 bits hold and reals that read back. -/
inductive IsExact : Json → Prop
  | null : IsExact .null
  | bool (b : Bool) : IsExact (.bool b)
  | integer (i : Int) (low : -(Word.signedBound : Int) ≤ i) (high : i < Word.bound) :
      IsExact (.integer i)
  | real (x : Binary64) (isFinite : x.isFinite = true) (readsBack : ReadsBack x) :
      IsExact (.real x)
  | string (s : String) : IsExact (.string s)
  | array (items : List Json) (exact : ∀ j ∈ items, IsExact j) : IsExact (.array items)
  | object (members : List (String × Json)) (exact : ∀ m ∈ members, IsExact m.2) :
      IsExact (.object members)

/-- **A list of values is written as an array**, each item behind the same blanks. -/
lemma isText_array {items : List Json} (write : Json → List Char)
    (hitems : ∀ j ∈ items, IsText (write j) j) (before last : List Char)
    (hbefore : ∀ c ∈ before, isSpace c = true) (hlast : ∀ c ∈ last, isSpace c = true) :
    IsText ('[' :: (listed (items.map fun j => before ++ write j) ++ (last ++ [']'])))
      (.array items) := by
  let item (j : Json) : Item :=
    ⟨before, write j, [], j, fun c hc => hbefore c (by rwa [List.append_nil] at hc)⟩
  have htext := IsText.array (items.map item) last hlast fun i hi => by
    obtain ⟨j, hj, rfl⟩ := List.mem_map.mp hi
    exact hitems j hj
  have hchars : (item · |>.chars) = fun j => before ++ write j := by
    funext j
    rw [Item.chars, List.append_nil]
  have hvalue : (item · |>.value) = id := rfl
  rwa [List.map_map, List.map_map, Function.comp_def, Function.comp_def, hchars, hvalue,
    List.map_id] at htext

/-- Members whose names are readable make an object. -/
lemma ofMembers_map (members : List (String × Json)) :
    ofMembers (members.map fun m => (some m.1, m.2)) = .object members := by
  have hall : members.mapM (fun m => some (m.1, m.2)) = some members := by
    induction members with
    | nil => rfl
    | cons m members ih => rw [List.mapM_cons, ih]; rfl
  simp only [ofMembers, List.mapM_map, Function.comp_def, Option.map_some, hall]

/-- **Named values are written as an object**, each name and each value behind the same blanks. -/
lemma isText_object {members : List (String × Json)} (write : Json → List Char)
    (hmembers : ∀ m ∈ members, IsText (write m.2) m.2) (before between last : List Char)
    (hbefore : ∀ c ∈ before, isSpace c = true) (hbetween : ∀ c ∈ between, isSpace c = true)
    (hlast : ∀ c ∈ last, isSpace c = true) :
    IsText ('\x7b' :: (listed (members.map fun m =>
        before ++ ((writeQuoted m.1).toList ++ ':' :: (between ++ write m.2))) ++
          (last ++ ['\x7d'])))
      (.object members) := by
  choose pieces hquoted hcontent using exists_quoted
  let member (m : String × Json) : Member :=
    ⟨before, pieces m.1, [], ⟨between, write m.2, [], m.2,
      fun c hc => hbetween c (by rwa [List.append_nil] at hc)⟩,
      fun c hc => hbefore c (by rwa [List.append_nil] at hc)⟩
  have htext := IsText.object (members.map member) last hlast fun k hk => by
    obtain ⟨m, hm, rfl⟩ := List.mem_map.mp hk
    exact hmembers m hm
  have hchars : (member · |>.chars) = fun m =>
      before ++ ((writeQuoted m.1).toList ++ ':' :: (between ++ write m.2)) := by
    funext m
    rw [Member.chars, Item.chars, List.append_nil, List.nil_append, hquoted]
  have hentry : (member · |>.entry) = fun m => (some m.1, m.2) := by
    funext m
    rw [Member.entry, hcontent]
  rwa [List.map_map, List.map_map, Function.comp_def, Function.comp_def, hchars, hentry,
    ofMembers_map] at htext

/-! ### One line -/

lemma compactItems_eq (items : List Json) : compactItems items = items.map compact := by
  induction items with
  | nil => rfl
  | cons j items ih => rw [compactItems, ih, List.map_cons]

lemma compactMembers_eq (members : List (String × Json)) :
    compactMembers members = members.map fun m => writeQuoted m.1 ++ ":" ++ compact m.2 := by
  induction members with
  | nil => rfl
  | cons m members ih => rw [compactMembers, ih, List.map_cons]

/-- **The text on one line.** -/
lemma IsExact.isText_compact {j : Json} (h : IsExact j) : IsText (compact j).toList j := by
  induction h with
  | null => rw [compact]; exact IsText.null
  | bool b => rw [compact]; exact IsText.bool b
  | integer i low high => rw [compact]; exact isText_integer low high
  | real x isFinite readsBack => rw [compact]; exact isText_real isFinite readsBack
  | string s => rw [compact]; exact isText_string s
  | array items exact ih =>
      have htext := isText_array (fun j => (compact j).toList) ih [] [] (by simp) (by simp)
      rw [compact, compactItems_eq]
      simpa [listed, String.toList_intercalate, Function.comp_def] using htext
  | object members exact ih =>
      have htext := isText_object (fun j => (compact j).toList) ih [] [] [] (by simp) (by simp)
        (by simp)
      rw [compact, compactMembers_eq]
      simpa [listed, String.toList_intercalate, Function.comp_def] using htext

/-! ### A line for each item -/

lemma prettyItems_eq (level : Nat) (items : List Json) :
    prettyItems level items = items.map (prettyAt level) := by
  induction items with
  | nil => rfl
  | cons j items ih => rw [prettyItems, ih, List.map_cons]

lemma prettyMembers_eq (level : Nat) (members : List (String × Json)) :
    prettyMembers level members =
      members.map fun m => writeQuoted m.1 ++ ": " ++ prettyAt level m.2 := by
  induction members with
  | nil => rfl
  | cons m members ih => rw [prettyMembers, ih, List.map_cons]

/-- The start of a line is blank. -/
lemma isSpace_of_mem_indent (level : Nat) (c : Char) (h : c ∈ (indent level).toList) :
    isSpace c = true := by
  simp only [indent, String.toList_append, String.toList_ofList, List.mem_append] at h
  rcases h with hbreak | hspace
  · obtain rfl := List.mem_singleton.mp hbreak
    decide
  · rw [List.eq_of_mem_replicate hspace]
    decide

/-- Parts on lines of their own, if there are any. -/
lemma toList_bracketed (level : Nat) (opening closing : String) {parts : List String}
    (hne : parts ≠ []) : (bracketed level opening closing parts).toList =
      opening.toList ++
        (listed (parts.map fun part => (indent (level + 1)).toList ++ part.toList) ++
        ((indent level).toList ++ closing.toList)) := by
  rw [bracketed, if_neg (by rwa [List.isEmpty_iff])]
  simp [listed, String.toList_intercalate, Function.comp_def]

/-- **The text at a level of indentation.** -/
lemma IsExact.isText_prettyAt {j : Json} (h : IsExact j) (level : Nat) :
    IsText (prettyAt level j).toList j := by
  induction h generalizing level with
  | null => rw [prettyAt]; exact IsText.null
  | bool b => rw [prettyAt]; exact IsText.bool b
  | integer i low high => rw [prettyAt]; exact isText_integer low high
  | real x isFinite readsBack => rw [prettyAt]; exact isText_real isFinite readsBack
  | string s => rw [prettyAt]; exact isText_string s
  | array items exact ih =>
      rw [prettyAt, prettyItems_eq]
      by_cases hnil : items = []
      · rw [hnil, List.map_nil, bracketed, if_pos List.isEmpty_nil, String.toList_append]
        exact IsText.array [] [] (by simp) (by simp)
      · have htext := isText_array (fun j => (prettyAt (level + 1) j).toList)
          (fun j hj => ih j hj (level + 1)) _ _ (isSpace_of_mem_indent (level + 1))
          (isSpace_of_mem_indent level)
        rw [toList_bracketed level "[" "]" (by simpa using hnil), List.map_map]
        exact htext
  | object members exact ih =>
      rw [prettyAt, prettyMembers_eq]
      by_cases hnil : members = []
      · rw [hnil, List.map_nil, bracketed, if_pos List.isEmpty_nil, String.toList_append]
        exact IsText.object [] [] (by simp) (by simp)
      · have htext := isText_object (fun j => (prettyAt (level + 1) j).toList)
          (fun m hm => ih m hm (level + 1)) _ [' '] _ (isSpace_of_mem_indent (level + 1))
          (by simp [isSpace]) (isSpace_of_mem_indent level)
        rw [toList_bracketed level "\x7b" "\x7d" (by simpa using hnil), List.map_map]
        simpa [Function.comp_def] using htext

/-! ### Documents -/

/-- A text is a document. -/
lemma IsText.isDocument {s : String} {j : Json} (h : IsText s.toList j) : IsDocument s j :=
  ⟨⟨[], s.toList, [], j, by simp⟩, by rw [Item.chars, List.nil_append, List.append_nil], rfl, h⟩

/-- **What is written on one line is a document** of what it was written from. -/
theorem IsExact.isDocument_compact {j : Json} (h : IsExact j) : IsDocument (compact j) j :=
  h.isText_compact.isDocument

/-- **What is written with a line for each item is a document** of what it was written from. -/
theorem IsExact.isDocument_pretty {j : Json} (h : IsExact j) : IsDocument (pretty j) j :=
  (h.isText_prettyAt 0).isDocument

end TableExplorer.Json
