import Mathlib
import TableExplorer.Dashboard.Monthly
import TableExplorer.Dataset.Functions

/-!
Texts as bytes.  The bytes of a text are those of its characters; what statements cut out of a
well-formed text, the spaces at its ends or characters counted from its end, leaves well-formed
texts.

* `toList_inj`: byte arrays are their lists.
* `encode`: the bytes of characters; `decode?_eq_some_iff`: a text is read from its own bytes only.
* `utf8EncodeChar_cases`: the bytes of one character, on which the cuts are decided.
* `trimEnds_encode`, `byteCharacters_encode`: **cutting bytes cuts characters**;
  `isEncoded_trimSpaces`, `isEncoded_monthKey`: what is left of a well-formed text is well-formed.
* `length_lastPiece_le`: a piece of a text without long characters has as many bytes as asked for.
-/

namespace TableExplorer.Text.Utf8

/-! ### Byte arrays -/

/-- What is collected from a place on: the bytes so far, and then the others in their order. -/
lemma toList_loop_eq {bytes : ByteArray} {i left : Nat} (h : bytes.size = i + left)
    (front : List UInt8) :
    ByteArray.toList.loop bytes i front = front.reverse ++ bytes.data.toList.drop i := by
  have hlength : bytes.data.toList.length = i + left := h
  induction left generalizing i front with
  | zero =>
      rw [ByteArray.toList.loop, if_neg (by omega), List.drop_of_length_le (by omega),
        List.append_nil]
  | succ left ih =>
      have hnext : bytes.data.toList.drop i = bytes.get! i :: bytes.data.toList.drop (i + 1) := by
        rw [List.drop_eq_getElem_cons (by omega), ByteArray.get!, Array.getElem_toList,
          getElem!_pos]
      rw [ByteArray.toList.loop, if_pos (by omega), ih (by omega) _ (by omega), hnext,
        List.reverse_cons, List.append_assoc, List.singleton_append]

/-- The list of a byte array is that of its data. -/
lemma toList_eq_data (bytes : ByteArray) : bytes.toList = bytes.data.toList :=
  toList_loop_eq (Nat.zero_add _).symm []

/-- Byte arrays with one list are equal. -/
lemma toList_inj {a b : ByteArray} : a.toList = b.toList ↔ a = b := by
  rw [toList_eq_data, toList_eq_data, Array.toList_inj]
  exact ⟨ByteArray.ext, fun h => h ▸ rfl⟩

/-- The bytes of a list, put into an array. -/
@[simp] lemma toList_mk (bytes : List UInt8) : ByteArray.toList ⟨bytes.toArray⟩ = bytes :=
  toList_eq_data _

/-! ### Encoded texts -/

/-- The bytes of some characters. -/
def encode (cs : List Char) : List UInt8 := cs.flatMap String.utf8EncodeChar

@[simp] lemma encode_nil : encode [] = [] := rfl

lemma encode_cons (c : Char) (cs : List Char) :
    encode (c :: cs) = String.utf8EncodeChar c ++ encode cs :=
  List.flatMap_cons

lemma encode_append (cs ds : List Char) : encode (cs ++ ds) = encode cs ++ encode ds :=
  List.flatMap_append

/-- The bytes of a text are those of its characters. -/
lemma toList_toByteArray (s : String) : s.toByteArray.toList = encode s.toList := by
  rw [← String.utf8Encode_toList, List.utf8Encode, toList_eq_data, List.toList_data_toByteArray]
  rfl

/-- A text is read from its own bytes only. -/
lemma decode?_eq_some_iff {bytes : ByteArray} {s : String} :
    decode? bytes = some s ↔ bytes.toList = encode s.toList := by
  rw [← toList_toByteArray, toList_inj, decode?, String.fromUTF8?]
  constructor
  · intro h
    split at h
    · cases h
      rfl
    · cases h
  · rintro rfl
    rw [dif_pos s.isValidUTF8]
    rfl

/-- The bytes of a text are well-formed, and are read as the text. -/
lemma decode?_toUTF8 (s : String) : decode? s.toUTF8 = some s :=
  decode?_eq_some_iff.mpr (toList_toByteArray s)

/-- A text is read from its bytes. -/
lemma decode_toUTF8 (s : String) : decode s.toUTF8 = s := by
  rw [decode, decode?_toUTF8, Option.getD_some]

/-- The bytes are those of some text. -/
def IsEncoded (bytes : List UInt8) : Prop := ∃ cs : List Char, bytes = encode cs

lemma IsEncoded.append {as bs : List UInt8} (ha : IsEncoded as) (hb : IsEncoded bs) :
    IsEncoded (as ++ bs) := by
  obtain ⟨cs, rfl⟩ := ha
  obtain ⟨ds, rfl⟩ := hb
  exact ⟨cs ++ ds, (encode_append cs ds).symm⟩

/-- The bytes of a text are read as a text. -/
lemma isSome_decode?_iff {bytes : ByteArray} :
    (decode? bytes).isSome ↔ IsEncoded bytes.toList := by
  constructor
  · intro h
    obtain ⟨s, hs⟩ := Option.isSome_iff_exists.mp h
    exact ⟨s.toList, decode?_eq_some_iff.mp hs⟩
  · rintro ⟨cs, hcs⟩
    have hs : decode? bytes = some (String.ofList cs) := by
      rw [decode?_eq_some_iff, String.toList_ofList, hcs]
    rw [hs]
    rfl

/-! ### The bytes of one character -/

/-- An ASCII character is one byte. -/
lemma utf8EncodeChar_of_lt {c : Char} (h : c.toNat < 0x80) :
    String.utf8EncodeChar c = [UInt8.ofNat c.toNat] := by
  have hval : c.val.toNat ≤ 0x7F := Nat.le_of_lt_succ h
  rw [String.utf8EncodeChar, if_pos hval]
  rfl

/-- The byte of a remainder that is set up to continue a character. -/
lemma continuesCharacter_ofNat (n : Nat) :
    continuesCharacter (UInt8.ofNat (n % 0x40 + 0x80)) = true := by
  have hlt : n % 0x40 < 0x40 := Nat.mod_lt _ (by decide)
  rw [continuesCharacter, Bool.and_eq_true, decide_eq_true_iff, decide_eq_true_iff,
    UInt8.le_iff_toNat_le, UInt8.lt_iff_toNat_lt, UInt8.toNat_ofNat]
  constructor <;> simp <;> omega

/-- The byte of a number from 0xC0 on begins a character of several bytes. -/
lemma le_ofNat {n : Nat} (h : 0xC0 ≤ n) (hlt : n < 0x100) : 0xC0 ≤ UInt8.ofNat n := by
  rw [UInt8.le_iff_toNat_le]
  simpa [Nat.mod_eq_of_lt hlt] using h

/-- **The bytes of one character**: one byte for an ASCII character, and else a byte from 0xC0 on
with bytes that continue it. -/
lemma utf8EncodeChar_cases (c : Char) :
    (c.toNat < 0x80 ∧ String.utf8EncodeChar c = [UInt8.ofNat c.toNat]) ∨
      0x80 ≤ c.toNat ∧ ∃ lead more, String.utf8EncodeChar c = lead :: more ∧ 0xC0 ≤ lead ∧
        ∀ b ∈ more, continuesCharacter b = true := by
  by_cases hascii : c.toNat < 0x80
  · exact Or.inl ⟨hascii, utf8EncodeChar_of_lt hascii⟩
  · refine Or.inr ⟨Nat.le_of_not_lt hascii, ?_⟩
    have hval : ¬c.val.toNat ≤ 0x7F := fun h => hascii (Nat.lt_succ_of_le h)
    rw [String.utf8EncodeChar, if_neg hval]
    split
    · refine ⟨_, _, rfl, le_ofNat (by omega) (by omega), fun b hb => ?_⟩
      simp only [List.mem_singleton] at hb
      rw [hb]
      exact continuesCharacter_ofNat _
    · split
      · refine ⟨_, _, rfl, le_ofNat (by omega) (by omega), fun b hb => ?_⟩
        simp only [List.mem_cons, List.not_mem_nil, or_false] at hb
        rcases hb with rfl | rfl <;> exact continuesCharacter_ofNat _
      · refine ⟨_, _, rfl, le_ofNat (by omega) (by omega), fun b hb => ?_⟩
        simp only [List.mem_cons, List.not_mem_nil, or_false] at hb
        rcases hb with rfl | rfl | rfl <;> exact continuesCharacter_ofNat _

/-- A byte below 0x80 is that of its number. -/
lemma ofNat_inj_of_lt {m n : Nat} (hm : m < 0x80) (hn : n < 0x80)
    (h : UInt8.ofNat m = UInt8.ofNat n) : m = n := by
  have hnat := congrArg UInt8.toNat h
  simp only [UInt8.toNat_ofNat'] at hnat
  omega

/-- A byte from 0x80 on is not one of ASCII. -/
lemma ofNat_notMem_of_le {c : Char} {n : Nat} (hn : n < 0x80) (hc : c.toNat ≠ n) :
    UInt8.ofNat n ∉ String.utf8EncodeChar c := by
  have hbyte : UInt8.ofNat n < 0x80 := by
    rw [UInt8.lt_iff_toNat_lt]
    simp only [UInt8.toNat_ofNat']
    exact Nat.lt_of_le_of_lt (Nat.mod_le _ _) hn
  intro hmem
  rcases utf8EncodeChar_cases c with ⟨hascii, henc⟩ | ⟨-, lead, more, henc, hlead, hmore⟩
  · rw [henc, List.mem_singleton] at hmem
    exact hc (ofNat_inj_of_lt hn hascii hmem).symm
  · rw [henc] at hmem
    rcases List.mem_cons.mp hmem with heq | hmem
    · rw [heq] at hbyte
      exact absurd (UInt8.lt_of_le_of_lt hlead hbyte) (by decide)
    · have hcont := hmore _ hmem
      rw [continuesCharacter, Bool.and_eq_true, decide_eq_true_iff] at hcont
      exact absurd (UInt8.lt_of_le_of_lt hcont.1 hbyte) (by decide)

/-! ### Spaces -/

/-- A character other than the space has no space among its bytes. -/
lemma space_notMem_utf8EncodeChar {c : Char} (hc : c ≠ ' ') :
    (0x20 : UInt8) ∉ String.utf8EncodeChar c :=
  ofNat_notMem_of_le (by decide) fun h => hc (Char.toNat_inj.mp h)

/-- Nothing is dropped from bytes that do not begin with a space. -/
lemma dropWhile_space_append {bytes rest : List UInt8} (hne : bytes ≠ [])
    (hspace : (0x20 : UInt8) ∉ bytes) :
    (bytes ++ rest).dropWhile (· == 0x20) = bytes ++ rest := by
  cases bytes with
  | nil => exact absurd rfl hne
  | cons b bytes =>
      rw [List.cons_append, List.dropWhile_cons_of_neg]
      intro h
      exact hspace (by rw [beq_iff_eq.mp h]; exact List.mem_cons_self)

/-- Dropping the spaces before a text. -/
lemma dropWhile_encode (cs : List Char) :
    (encode cs).dropWhile (· == 0x20) = encode (cs.dropWhile (· == ' ')) := by
  induction cs with
  | nil => rfl
  | cons c cs ih =>
      rw [encode_cons]
      by_cases hc : c = ' '
      · subst hc
        exact ih
      · rw [dropWhile_space_append String.utf8EncodeChar_ne_nil (space_notMem_utf8EncodeChar hc),
          List.dropWhile_cons_of_neg (by simpa using hc), encode_cons]

/-- Dropping the spaces behind a text. -/
lemma dropWhile_reverse_encode (cs : List Char) :
    (encode cs).reverse.dropWhile (· == 0x20) =
      (encode (cs.reverse.dropWhile (· == ' ')).reverse).reverse := by
  induction cs using List.reverseRecOn with
  | nil => rfl
  | append_singleton cs c ih =>
      rw [encode_append, List.reverse_append, List.reverse_append]
      by_cases hc : c = ' '
      · subst hc
        exact ih
      · have henc : encode [c] = String.utf8EncodeChar c := List.append_nil _
        rw [henc, dropWhile_space_append (List.reverse_ne_nil_iff.mpr String.utf8EncodeChar_ne_nil)
          (by rw [List.mem_reverse]; exact space_notMem_utf8EncodeChar hc)]
        rw [List.reverse_singleton, List.singleton_append,
          List.dropWhile_cons_of_neg (by simpa using hc), List.reverse_cons, List.reverse_reverse,
          encode_append, henc, List.reverse_append]

/-- **Cutting the spaces** off the bytes of a text cuts them off the text. -/
lemma trimEnds_encode (cs : List Char) :
    trimEnds (· == 0x20) (encode cs) = encode (trimEnds (· == ' ') cs) := by
  rw [trimEnds, dropWhile_encode, dropWhile_reverse_encode, List.reverse_reverse, trimEnds]

/-- A well-formed text is well-formed without the spaces around it. -/
lemma isEncoded_trimSpaces {bytes : ByteArray} (h : IsEncoded bytes.toList) :
    IsEncoded (Cell.trimSpaces bytes).toList := by
  obtain ⟨cs, hcs⟩ := h
  refine ⟨trimEnds (· == ' ') cs, ?_⟩
  rw [Cell.trimSpaces, toList_mk, hcs, trimEnds_encode]

/-! ### Characters -/

/-- Bytes that continue a character stand before the characters of a text. -/
lemma splitCharacters_append {more : List UInt8} (h : ∀ b ∈ more, continuesCharacter b = true)
    {rest : List UInt8} {characters : List (List UInt8)}
    (hrest : splitCharacters rest = ([], characters)) :
    splitCharacters (more ++ rest) = (more, characters) := by
  induction more with
  | nil => exact hrest
  | cons b more ih =>
      have hb := h b List.mem_cons_self
      have hne : b ≠ 0 := by
        rintro rfl
        cases hb
      rw [List.cons_append, splitCharacters, ih fun d hd => h d (List.mem_cons_of_mem _ hd)]
      simp only [if_neg hne, if_pos hb]

/-- The bytes of a character other than NUL are one of the characters of a text. -/
lemma splitCharacters_utf8EncodeChar {c : Char} (hc : c ≠ '\x00') {rest : List UInt8}
    {characters : List (List UInt8)} (hrest : splitCharacters rest = ([], characters)) :
    splitCharacters (String.utf8EncodeChar c ++ rest) =
      ([], String.utf8EncodeChar c :: characters) := by
  have hnul : (0 : UInt8) ∉ String.utf8EncodeChar c :=
    ofNat_notMem_of_le (by decide) fun h => hc (Char.toNat_inj.mp h)
  rcases utf8EncodeChar_cases c with ⟨hascii, henc⟩ | ⟨-, lead, more, henc, hlead, hmore⟩
  · rw [henc] at hnul ⊢
    have hne : UInt8.ofNat c.toNat ≠ 0 := fun h => hnul (h ▸ List.mem_cons_self)
    have hcont : ¬continuesCharacter (UInt8.ofNat c.toNat) = true := by
      rw [continuesCharacter, Bool.and_eq_true, decide_eq_true_iff, UInt8.le_iff_toNat_le]
      simp only [UInt8.toNat_ofNat']
      simp
      omega
    have hlead : ¬(0xC0 : UInt8) ≤ UInt8.ofNat c.toNat := by
      rw [UInt8.le_iff_toNat_le]
      simp only [UInt8.toNat_ofNat']
      simp
      omega
    rw [List.singleton_append, splitCharacters, hrest]
    simp only [if_neg hne, if_neg hcont, if_neg hlead]
    rfl
  · rw [henc] at hnul ⊢
    have hne : lead ≠ 0 := fun h => hnul (h ▸ List.mem_cons_self)
    have hcont : ¬continuesCharacter lead = true := by
      rw [continuesCharacter, Bool.and_eq_true, decide_eq_true_iff, decide_eq_true_iff]
      exact fun h => absurd (UInt8.lt_of_le_of_lt hlead h.2) (by decide)
    rw [List.cons_append, splitCharacters, splitCharacters_append hmore hrest]
    simp only [if_neg hne, if_neg hcont, if_pos hlead]

/-- The characters of a text before its first NUL. -/
lemma splitCharacters_encode (cs : List Char) :
    splitCharacters (encode cs) =
      ([], (cs.takeWhile (· != '\x00')).map String.utf8EncodeChar) := by
  induction cs with
  | nil => rfl
  | cons c cs ih =>
      rw [encode_cons]
      by_cases hc : c = '\x00'
      · subst hc
        rw [List.takeWhile_cons_of_neg (by decide)]
        have hnul : String.utf8EncodeChar '\x00' = [0] := rfl
        rw [hnul, List.singleton_append, splitCharacters]
        rfl
      · rw [splitCharacters_utf8EncodeChar hc ih, List.takeWhile_cons_of_pos (by simpa using hc),
          List.map_cons]

/-- A character of a text is one byte, or begins with a byte from 0xC0 on. -/
lemma length_of_mem_byteCharacters {bytes c : List UInt8} (h : c ∈ byteCharacters bytes) :
    c.length = 1 ∨ ∃ b ∈ c, 0xC0 ≤ b := by
  have hsplit : ∀ c ∈ (splitCharacters bytes).2, c.length = 1 ∨ ∃ b ∈ c, 0xC0 ≤ b := by
    clear h
    induction bytes with
    | nil => exact fun c hc => absurd hc List.not_mem_nil
    | cons b rest ih =>
        intro c hc
        rw [splitCharacters] at hc
        dsimp only at hc
        split at hc
        · cases hc
        · split at hc
          · exact ih c hc
          · split at hc
            · rename_i hlead
              rcases List.mem_cons.mp hc with rfl | hc
              · exact Or.inr ⟨b, List.mem_cons_self, hlead⟩
              · exact ih c hc
            · rcases List.mem_append.mp hc with hc | hc
              · rcases List.mem_cons.mp hc with rfl | hc
                · exact Or.inl rfl
                · obtain ⟨d, -, rfl⟩ := List.mem_map.mp hc
                  exact Or.inl rfl
              · exact ih c hc
  rcases List.mem_append.mp h with hc | hc
  · obtain ⟨d, -, rfl⟩ := List.mem_map.mp hc
    exact Or.inl rfl
  · exact hsplit c hc

/-- A piece without bytes from 0xC0 on has at most as many bytes as characters are asked for. -/
lemma length_lastPiece_le {back count : Nat} {bytes : ByteArray}
    (h : ∀ b ∈ lastPiece back count bytes, b < 0xC0) :
    (lastPiece back count bytes).length ≤ count := by
  let characters := byteCharacters bytes.toList
  let piece :=
    (characters.drop (characters.length - back)).take (count - (back - characters.length))
  have hpiece : lastPiece back count bytes = piece.flatten := rfl
  have hone : ∀ c ∈ piece, c.length = 1 := by
    intro c hc
    have hmem : c ∈ characters := List.mem_of_mem_drop (List.mem_of_mem_take hc)
    rcases length_of_mem_byteCharacters hmem with hlength | ⟨b, hb, hlead⟩
    · exact hlength
    · have hlt := h b (hpiece ▸ List.mem_flatten.mpr ⟨c, hc, hb⟩)
      exact absurd (UInt8.lt_of_le_of_lt hlead hlt) (by decide)
  have hcount : piece.length ≤ count := by
    rw [List.length_take]
    omega
  have hlengths : piece.map List.length = List.replicate piece.length 1 :=
    List.eq_replicate_iff.mpr ⟨List.length_map _, fun n hn => by
      obtain ⟨c, hc, rfl⟩ := List.mem_map.mp hn
      exact hone c hc⟩
  rw [hpiece, List.length_flatten, hlengths, List.sum_replicate, smul_eq_mul, Nat.mul_one]
  exact hcount

/-- **Counting characters** in the bytes of a text counts those of the text. -/
lemma byteCharacters_encode (cs : List Char) :
    byteCharacters (encode cs) = (cs.takeWhile (· != '\x00')).map String.utf8EncodeChar := by
  rw [byteCharacters, splitCharacters_encode]
  rfl

/-- A piece of a well-formed text is well-formed. -/
lemma isEncoded_lastPiece (back count : Nat) {bytes : ByteArray} (h : IsEncoded bytes.toList) :
    IsEncoded (lastPiece back count bytes) := by
  obtain ⟨cs, hcs⟩ := h
  let characters := cs.takeWhile (· != '\x00')
  refine ⟨(characters.drop (characters.length - back)).take
    (count - (back - characters.length)), ?_⟩
  rw [lastPiece, hcs, byteCharacters_encode, List.length_map, ← List.map_drop, ← List.map_take]
  rfl

/-- The key of a month in a well-formed text is well-formed. -/
lemma isEncoded_monthKey {date : ByteArray} (h : IsEncoded date.toList) :
    IsEncoded (monthKey date).toList := by
  rw [monthKey, toList_mk, ← List.singleton_append]
  exact (isEncoded_lastPiece 4 4 h).append
    (IsEncoded.append ⟨['-'], rfl⟩ (isEncoded_lastPiece 7 2 h))

/-! ### ASCII texts -/

/-- ASCII characters are one byte each. -/
lemma encode_of_lt {cs : List Char} (h : ∀ c ∈ cs, c.toNat < 0x80) :
    encode cs = cs.map fun c => UInt8.ofNat c.toNat := by
  induction cs with
  | nil => rfl
  | cons c cs ih =>
      rw [encode_cons, utf8EncodeChar_of_lt (h c List.mem_cons_self), List.singleton_append,
        ih fun d hd => h d (List.mem_cons_of_mem _ hd), List.map_cons]

/-- The bytes of ASCII characters are less than 0x80. -/
lemma lt_of_mem_encode {cs : List Char} (h : ∀ c ∈ cs, c.toNat < 0x80) {b : UInt8}
    (hb : b ∈ encode cs) : b < 0x80 := by
  rw [encode_of_lt h] at hb
  obtain ⟨c, hc, rfl⟩ := List.mem_map.mp hb
  have hlt := h c hc
  rw [UInt8.lt_iff_toNat_lt]
  simp only [UInt8.toNat_ofNat']
  exact Nat.lt_of_le_of_lt (Nat.mod_le _ _) hlt

/-- The key of a month has at most seven bytes, unless it has a long character. -/
lemma length_monthKey_le {date : ByteArray} (h : ∀ b ∈ (monthKey date).toList, b < 0xC0) :
    (monthKey date).toList.length ≤ 7 := by
  rw [monthKey, toList_mk] at h ⊢
  have hyear := length_lastPiece_le fun b hb => h b (List.mem_append_left _ hb)
  have hmonth := length_lastPiece_le fun b hb =>
    h b (List.mem_append_right _ (List.mem_cons_of_mem _ hb))
  rw [List.length_append, List.length_cons]
  omega

end TableExplorer.Text.Utf8
