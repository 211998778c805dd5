import TableExplorer.Proofs.Text.Bytes

/-!
The order of texts and that of their bytes.  The first byte of a character tells how many bytes the
character has, and characters with more bytes have the larger first byte; characters with as many
bytes are ordered by six bits at a time.  So texts ascend as their bytes do.

* `Ascends`: the codes of numbers ascend, whatever follows them; `Ascends.sixBits`: and they still
  do with six more bits.
* `utf8EncodeChar_append_lt`: **the bytes of characters ascend**.
* `encode_lt_encode_iff`: **the bytes of texts ascend as the texts do**.
-/

namespace TableExplorer.Text.Utf8

/-! ### Codes -/

/-- The codes of the numbers below a bound ascend, whatever follows them. -/
def Ascends (code : Nat → List UInt8) (bound : Nat) : Prop :=
  ∀ m n, m < n → n < bound → ∀ xs ys : List UInt8, code m ++ xs < code n ++ ys

/-- Bytes ascend as the numbers that they are. -/
lemma ofNat_lt_ofNat {m n : Nat} (h : m < n) (hn : n < 0x100) : UInt8.ofNat m < UInt8.ofNat n := by
  rw [UInt8.lt_iff_toNat_lt, UInt8.toNat_ofNat', UInt8.toNat_ofNat', Nat.mod_eq_of_lt hn,
    Nat.mod_eq_of_lt (h.trans hn)]
  exact h

/-- A code that begins with the smaller byte comes first. -/
lemma cons_ofNat_lt {m n : Nat} (h : m < n) (hn : n < 0x100) (xs ys : List UInt8) :
    UInt8.ofNat m :: xs < UInt8.ofNat n :: ys :=
  List.cons_lt_cons_iff.mpr (Or.inl (ofNat_lt_ofNat h hn))

/-- First bytes ascend with their payload. -/
lemma ascends_lead {count mark : Nat} (h : count + mark ≤ 0x100) :
    Ascends (fun n => [UInt8.ofNat (n % count + mark)]) count := by
  intro m n hlt hn xs ys
  have hm := Nat.mod_eq_of_lt (hlt.trans hn)
  rw [← Nat.mod_eq_of_lt hn] at hlt hn
  exact cons_ofNat_lt (by omega) (by omega) xs ys

/-- The byte of the last six bits of a number. -/
def sixBits (n : Nat) : UInt8 := UInt8.ofNat (n % 0x40 + 0x80)

/-- Codes with a byte of six more bits ascend. -/
lemma Ascends.sixBits {code : Nat → List UInt8} {bound : Nat} (h : Ascends code bound) :
    Ascends (fun n => code (n / 0x40) ++ [sixBits n]) (bound * 0x40) := by
  intro m n hlt hn xs ys
  rw [List.append_assoc, List.append_assoc]
  rcases (Nat.div_le_div_right hlt.le : m / 0x40 ≤ n / 0x40).lt_or_eq with hdiv | hdiv
  · exact h _ _ hdiv (Nat.div_lt_of_lt_mul (Nat.mul_comm bound 0x40 ▸ hn)) _ _
  · rw [hdiv]
    exact List.append_left_lt (cons_ofNat_lt (by omega) (by omega) xs ys)

/-! ### Characters -/

/-- How many bytes continue the character of a code point. -/
def continuations (n : Nat) : Nat :=
  if n ≤ 0x7F then 0 else if n ≤ 0x7FF then 1 else if n ≤ 0xFFFF then 2 else 3

/-- The first byte of a code point of a character that so many bytes continue. -/
def leadOf : Nat → Nat → Nat
  | 0, n => n % 0x80 + 0
  | 1, n => n / 0x40 % 0x20 + 0xC0
  | 2, n => n / 0x40 / 0x40 % 0x10 + 0xE0
  | _, n => n / 0x40 / 0x40 / 0x40 % 0x08 + 0xF0

/-- The bytes that continue the character of a code point, if there are so many. -/
def restOf : Nat → Nat → List UInt8
  | 0, _ => []
  | 1, n => [sixBits n]
  | 2, n => [sixBits (n / 0x40), sixBits n]
  | _, n => [sixBits (n / 0x40 / 0x40), sixBits (n / 0x40), sixBits n]

/-- The bytes of a code point of a character that so many bytes continue. -/
def codeOf (k n : Nat) : List UInt8 := UInt8.ofNat (leadOf k n) :: restOf k n

/-- The bytes of a character. -/
lemma utf8EncodeChar_eq_codeOf (c : Char) :
    String.utf8EncodeChar c = codeOf (continuations c.toNat) c.toNat := by
  have hdiv2 : ∀ n, n / 4096 = n / 64 / 64 := fun n => (Nat.div_div_eq_div_mul n 64 64).symm
  have hdiv3 : ∀ n, n / 262144 = n / 64 / 64 / 64 := by
    intro n
    rw [Nat.div_div_eq_div_mul, Nat.div_div_eq_div_mul]
  change String.utf8EncodeChar c = codeOf (continuations c.val.toNat) c.val.toNat
  unfold String.utf8EncodeChar continuations
  dsimp only
  split_ifs
  · rw [codeOf, leadOf, Nat.mod_eq_of_lt (by omega), Nat.add_zero, restOf]
  · rfl
  · rw [hdiv2]
    rfl
  · rw [hdiv2, hdiv3]
    rfl

/-- Characters with more bytes have the larger first byte. -/
lemma leadOf_lt_leadOf {j k : Nat} (h : j < k) (hk : k ≤ 3) (m n : Nat) :
    leadOf j m < leadOf k n ∧ leadOf k n < 0x100 := by
  have hj : j = 0 ∨ j = 1 ∨ j = 2 := by omega
  have hk : k = 1 ∨ k = 2 ∨ k = 3 := by omega
  rcases hj with rfl | rfl | rfl <;> rcases hk with rfl | rfl | rfl <;> simp only [leadOf] <;> omega

/-- Larger code points have no fewer bytes. -/
lemma continuations_le {m n : Nat} (h : m < n) : continuations m ≤ continuations n := by
  unfold continuations
  split_ifs <;> omega

/-- The bytes of code points ascend. -/
lemma codeOf_append_lt {m n : Nat} (h : m < n) (hn : n < 0x110000) (xs ys : List UInt8) :
    codeOf (continuations m) m ++ xs < codeOf (continuations n) n ++ ys := by
  rcases (continuations_le h).lt_or_eq with hlt | heq
  · have hle : continuations n ≤ 3 := by
      unfold continuations
      split_ifs <;> omega
    obtain ⟨hlead, hbyte⟩ := leadOf_lt_leadOf hlt hle m n
    exact cons_ofNat_lt hlead hbyte _ _
  · have hone : Ascends (fun n => [UInt8.ofNat (n % 0x20 + 0xC0)]) 0x20 := ascends_lead (by decide)
    have htwo : Ascends (fun n => [UInt8.ofNat (n % 0x10 + 0xE0)]) 0x10 := ascends_lead (by decide)
    have hthree : Ascends (fun n => [UInt8.ofNat (n % 8 + 0xF0)]) 8 := ascends_lead (by decide)
    rw [heq]
    unfold continuations
    split_ifs
    · exact ascends_lead (by decide) m n h (by omega) xs ys
    · exact hone.sixBits m n h (by omega) xs ys
    · exact htwo.sixBits.sixBits m n h (by omega) xs ys
    · exact hthree.sixBits.sixBits.sixBits m n h (by omega) xs ys

/-- **The bytes of characters ascend**, whatever follows them. -/
lemma utf8EncodeChar_append_lt {c d : Char} (h : c < d) (xs ys : List UInt8) :
    String.utf8EncodeChar c ++ xs < String.utf8EncodeChar d ++ ys := by
  have hlt : c.toNat < d.toNat := UInt32.lt_iff_toNat_lt.mp (Char.lt_def.mp h)
  have hvalid : d.toNat < 0x110000 := by
    rcases d.valid with hd | ⟨-, hd⟩
    · exact lt_trans hd (by decide)
    · exact hd
  rw [utf8EncodeChar_eq_codeOf, utf8EncodeChar_eq_codeOf]
  exact codeOf_append_lt hlt hvalid xs ys

/-! ### Texts -/

/-- Larger texts have larger bytes. -/
lemma encode_lt_encode {cs ds : List Char} (h : cs < ds) : encode cs < encode ds := by
  induction cs generalizing ds with
  | nil =>
      cases ds with
      | nil => exact absurd h (List.lt_irrefl _)
      | cons d ds =>
          rw [encode_cons, utf8EncodeChar_eq_codeOf]
          exact List.nil_lt_cons _ _
  | cons c cs ih =>
      cases ds with
      | nil => exact absurd h (List.not_lt_nil _)
      | cons d ds =>
          rw [encode_cons, encode_cons]
          rcases List.cons_lt_cons_iff.mp h with hlt | ⟨rfl, hlt⟩
          · exact utf8EncodeChar_append_lt hlt _ _
          · exact List.append_left_lt (ih hlt)

/-- **The bytes of texts ascend as the texts do.** -/
lemma encode_lt_encode_iff {cs ds : List Char} : encode cs < encode ds ↔ cs < ds := by
  refine ⟨fun h => ?_, encode_lt_encode⟩
  rcases lt_trichotomy cs ds with hlt | rfl | hgt
  · exact hlt
  · exact absurd h (List.lt_irrefl _)
  · exact absurd h (List.lt_asymm (encode_lt_encode hgt))

end TableExplorer.Text.Utf8
