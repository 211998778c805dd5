import Mathlib.Data.List.Basic
import TableExplorer.Diagnostics

/-!
Statements as they are told.  A statement is written word by word and character by character, with a
count of what is written, and the writing stops at the first character without room; here is what
the text is as a whole.

* `Text.words_eq_filter_splitOnP`: the words of a text are its pieces between single blanks, those
  without characters left out.
* `oneLine`, `cutBehind`: **the whole text**, which is the words with single spaces between them,
  cut behind so many characters.
* `clipWord?_eq`, `clipWords?_eq`: **what is written behind some characters** is the rest of the
  text, cut where the characters that are taken leave no room.
* `clipStatement?_eq`: **what is told of a statement**, and the one limit for which the bytes that
  are set aside cannot be counted; `clipStatement?_of_greatest` has a statement with this limit.
-/

namespace TableExplorer

namespace Text

/-- Without a word under way the first piece stays as it is. -/
lemma modifyHead_reverse_nil (pieces : List (List Char)) :
    pieces.modifyHead (([] : List Char).reverse ++ ·) = pieces := by
  cases pieces <;> rfl

/-- With a word under way, the first piece goes on with it. -/
lemma wordsFrom_eq (current cs : List Char) : wordsFrom current cs =
    ((cs.splitOnP isBlank).modifyHead (current.reverse ++ ·)).filter (!·.isEmpty) := by
  induction cs generalizing current with
  | nil =>
      rw [List.splitOnP_nil, List.modifyHead_cons, List.append_nil, wordsFrom]
      cases current <;> simp
  | cons c cs ih =>
      rw [wordsFrom, List.splitOnP_cons_eq_if_modifyHead]
      cases isBlank c with
      | true =>
          rw [if_pos rfl, if_pos rfl, List.modifyHead_cons, List.append_nil, ih,
            modifyHead_reverse_nil]
          cases current <;> simp
      | false =>
          rw [if_neg Bool.false_ne_true, if_neg Bool.false_ne_true, ih, List.modifyHead_modifyHead]
          congr 2
          funext piece
          simp

/-- **The words of a text** are its pieces between single blanks, those without characters left
out. -/
lemma words_eq_filter_splitOnP (s : String) :
    words s = (s.toList.splitOnP isBlank).filter (!·.isEmpty) := by
  rw [words, wordsFrom_eq, modifyHead_reverse_nil]

/-- A word has characters. -/
lemma ne_nil_of_mem_words {s : String} {word : List Char} (h : word ∈ words s) : word ≠ [] := by
  rw [words_eq_filter_splitOnP, List.mem_filter] at h
  rintro rfl
  exact Bool.false_ne_true h.2

end Text

/-! ### The whole text -/

/-- The pieces of a statement between blanks, with single spaces between them. -/
def oneLine (statement : String) : List Char :=
  [' '].intercalate ((statement.toList.splitOnP Text.isBlank).filter (!·.isEmpty))

/-- A text of at most `n` characters is whole, a longer one is its first `n` with an ellipsis behind
them. -/
def cutBehind (n : Nat) (cs : List Char) : List Char :=
  if cs.length ≤ n then cs else cs.take n ++ ['\u2026']

lemma cutBehind_zero_cons (c : Char) (cs : List Char) : cutBehind 0 (c :: cs) = [cutMark] := by
  rw [cutBehind, List.length_cons, if_neg (Nat.not_succ_le_zero _)]
  rfl

lemma cutBehind_succ_cons (n : Nat) (c : Char) (cs : List Char) :
    cutBehind (n + 1) (c :: cs) = c :: cutBehind n cs := by
  rw [cutBehind, cutBehind, List.length_cons]
  by_cases hfits : cs.length ≤ n
  · rw [if_pos hfits, if_pos (Nat.succ_le_succ hfits)]
  · rw [if_neg hfits, if_neg fun h => hfits (Nat.le_of_succ_le_succ h)]
    rfl

/-- A text is cut in its first part if this is too long, and otherwise in the second one, which has
the room that is left. -/
lemma cutBehind_append (n : Nat) (front back : List Char) : cutBehind n (front ++ back) =
    if front.length ≤ n then front ++ cutBehind (n - front.length) back
    else cutBehind n front := by
  induction front generalizing n with
  | nil => rfl
  | cons c front ih =>
      cases n with
      | zero => rw [List.cons_append, cutBehind_zero_cons, cutBehind_zero_cons, if_neg (by simp)]
      | succ n =>
          rw [List.cons_append, cutBehind_succ_cons, cutBehind_succ_cons, ih, List.length_cons]
          by_cases hfits : front.length ≤ n
          · rw [if_pos hfits, if_pos (Nat.succ_le_succ hfits), Nat.add_sub_add_right]
            rfl
          · rw [if_neg hfits, if_neg fun h => hfits (Nat.le_of_succ_le_succ h)]

/-- What words add to a text of which `taken` characters are written: a space stands before each of
them if something else does. -/
def pending (taken : Nat) (words : List (List Char)) : List Char :=
  if taken = 0 then [' '].intercalate words else words.flatMap (' ' :: ·)

/-- The first of the words is followed by the others with a space before each. -/
lemma pending_cons (taken : Nat) (word : List Char) (rest : List (List Char)) :
    pending taken (word :: rest) =
      (if 0 < taken then ' ' :: word else word) ++ rest.flatMap (' ' :: ·) := by
  have hjoined : ∀ word : List Char,
      [' '].intercalate (word :: rest) = word ++ rest.flatMap (' ' :: ·) := by
    induction rest with
    | nil => exact fun word => List.intercalate_singleton.trans (List.append_nil word).symm
    | cons next rest ih =>
        intro word
        rw [List.intercalate_cons_cons, ih, List.flatMap_cons, List.append_assoc]
        rfl
  rcases Nat.eq_zero_or_pos taken with rfl | htaken
  · rw [pending, if_pos rfl, if_neg (Nat.lt_irrefl 0), hjoined]
  · rw [pending, if_neg (Nat.ne_of_gt htaken), if_pos htaken, List.flatMap_cons]

/-! ### What is written -/

/-- A number in the range of words is counted. -/
lemma Word.size?_natCast (n : Nat) : Word.size? n = if n < Word.bound then some n else none := by
  rw [Word.size?, Int.toNat_natCast]
  exact if_congr ⟨fun h => Int.ofNat_lt.mp h.2, fun h => ⟨Int.natCast_nonneg n, Int.ofNat_lt.mpr h⟩⟩
    rfl rfl

section

variable {maxChars taken : Nat}

/-- **One word**: its characters are written as far as there is room, and counted if there is room
for all of them.  No count leaves the range of words, since none passes the limit. -/
lemma clipWord?_eq (htaken : taken ≤ maxChars) (hlimit : maxChars < Word.bound)
    (word : List Char) :
    clipWord? maxChars taken word = some (cutBehind (maxChars - taken) word,
      if taken + word.length ≤ maxChars then some (taken + word.length) else none) := by
  induction word generalizing taken with
  | nil =>
      rw [clipWord?, List.length_nil, Nat.add_zero, if_pos htaken, cutBehind, List.length_nil,
        if_pos (Nat.zero_le _)]
  | cons c word ih =>
      rw [clipWord?, List.length_cons]
      by_cases hfull : taken = maxChars
      · rw [if_pos hfull, if_neg (by omega), hfull, Nat.sub_self, cutBehind_zero_cons]
      · have hcount : Word.size? ((taken : Int) + 1) = some (taken + 1) := by
          have hcast : (taken : Int) + 1 = (taken + 1 : Nat) := rfl
          rw [hcast, Word.size?_natCast, if_pos (by omega)]
        have hroom : maxChars - taken = maxChars - (taken + 1) + 1 := by omega
        have hlength : taken + (word.length + 1) = taken + 1 + word.length := by omega
        rw [if_neg hfull, hcount, hroom, cutBehind_succ_cons, hlength]
        refine Option.bind_eq_some_iff.mpr ⟨_, rfl, ?_⟩
        rw [ih (by omega)]
        rfl

/-- **Several words**: what is written behind the characters that are taken is the rest of the text,
cut where they leave no room. -/
lemma clipWords?_eq (htaken : taken ≤ maxChars) (hlimit : maxChars < Word.bound)
    {words : List (List Char)} (hwords : ∀ word ∈ words, word ≠ []) :
    clipWords? maxChars taken words =
      some (cutBehind (maxChars - taken) (pending taken words)) := by
  induction words generalizing taken with
  | nil =>
      rw [clipWords?]
      unfold pending
      split <;> rfl
  | cons word rest ih =>
      obtain ⟨hword, hrest⟩ := List.forall_mem_cons.mp hwords
      rw [clipWords?, clipWord?_eq htaken hlimit, pending_cons, cutBehind_append]
      generalize hfront : (if 0 < taken then ' ' :: word else word) = front
      refine Option.bind_eq_some_iff.mpr ⟨_, rfl, ?_⟩
      by_cases hfits : taken + front.length ≤ maxChars
      · -- a word has characters, so something stands before the words behind it
        have hpos : 0 < front.length := by
          rw [← hfront]
          split
          · exact Nat.succ_pos _
          · exact List.length_pos_iff.mpr hword
        have hbehind := ih hfits hrest
        rw [pending, if_neg (by omega), Nat.sub_add_eq] at hbehind
        have hfirst : front.length ≤ maxChars - taken := Nat.le_sub_of_add_le' hfits
        rw [if_pos hfits, if_pos hfirst, cutBehind, if_pos hfirst]
        exact Option.bind_eq_some_iff.mpr ⟨_, hbehind, rfl⟩
      · have hfirst : ¬front.length ≤ maxChars - taken := by omega
        rw [if_neg hfits, if_neg hfirst]
        rfl

end

/-- **What is told of a statement**: for every limit that a word of 64 bits holds, what is written
is the line of the statement, cut behind the limit, and no count of written characters leaves the
range of words.  The bytes that are set aside before are counted for every limit but the greatest
one; with that one nothing is told of any statement. -/
theorem clipStatement?_eq (statement : String) (maxChars : UInt64) :
    clipWords? maxChars.toNat 0 (Text.words statement) =
        some (cutBehind maxChars.toNat (oneLine statement)) ∧
      clipStatement? statement maxChars.toNat =
        if maxChars.toNat + 1 < Word.bound then
          some (String.ofList (cutBehind maxChars.toNat (oneLine statement)))
        else none := by
  have hwritten : clipWords? maxChars.toNat 0 (Text.words statement) =
      some (cutBehind maxChars.toNat (oneLine statement)) := by
    rw [clipWords?_eq (Nat.zero_le _) maxChars.toNat_lt fun _ => Text.ne_nil_of_mem_words,
      Nat.sub_zero, pending, if_pos rfl, Text.words_eq_filter_splitOnP]
    rfl
  have hcount : Word.size? ((maxChars.toNat : Int) + 1) =
      if maxChars.toNat + 1 < Word.bound then some (maxChars.toNat + 1) else none :=
    Word.size?_natCast (maxChars.toNat + 1)
  refine ⟨hwritten, ?_⟩
  rw [clipStatement?, reservedBytes?, hcount, hwritten]
  split <;> rfl

/-- The text may be cut on the space between two words, and the mark stands there instead. -/
example : clipStatement? "SELECT *\n    FROM t" 8 = some "SELECT *…" := by decide +kernel

/-- **The greatest limit** is one that a word holds.  A short statement is told whole with the limit
before it, and not told at all with this one. -/
theorem clipStatement?_of_greatest :
    let greatest : UInt64 := .ofNat (Word.bound - 1)
    String.ofList (cutBehind greatest.toNat (oneLine "SELECT 1")) = "SELECT 1" ∧
      clipStatement? "SELECT 1" (greatest.toNat - 1) = some "SELECT 1" ∧
      clipStatement? "SELECT 1" greatest.toNat = none := by
  decide +kernel

end TableExplorer
