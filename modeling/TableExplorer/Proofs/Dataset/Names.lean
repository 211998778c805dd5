import Mathlib
import TableExplorer.Dataset.Affinity
import TableExplorer.Proofs.Text.Folding
import TableExplorer.Identifier

/-!
Names that statements can be written with.  `Identifier.ofName` succeeds on a name without fault and
keeps it, so a list of names has its identifiers if and only if none of them is at fault; and a name
that differs from another in the case of ASCII letters only has the same fault.

* `Result.bind_eq_ok_iff`: a chain of two steps succeeds if both do.
* `Identifier.ofName_eq_ok_iff`, `Identifier.mapM_ofName_eq_ok_iff`: identifiers and their names.
* `Identifier.fault?_eq_none_of_sameName`: **the case of letters is no fault**.
-/

namespace TableExplorer

/-- A step after another succeeds with what it makes of the first one's result. -/
lemma Result.bind_eq_ok_iff {α β : Type} {x : Result α} {f : α → Result β} {b : β} :
    x >>= f = .ok b ↔ ∃ a, x = .ok a ∧ f a = .ok b := by
  cases x with
  | error e => simp [bind, Except.bind]
  | ok a => simp [bind, Except.bind]

/-- A step that succeeds hands its result to the next one. -/
lemma Result.bind_eq_ok {α β : Type} {x : Result α} {f : α → Result β} {a : α} {b : β}
    (hx : x = .ok a) (hf : f a = .ok b) : x >>= f = .ok b :=
  bind_eq_ok_iff.mpr ⟨a, hx, hf⟩

/-- Steps that agree on what the first step gives agree after it. -/
lemma Result.bind_congr {α β : Type} {x : Result α} {f g : α → Result β}
    (h : ∀ a, x = .ok a → f a = g a) : x >>= f = x >>= g := by
  cases x with
  | error e => rfl
  | ok a => exact h a rfl

/-- A step after a result is taken on the result. -/
lemma Result.ok_bind {α β : Type} (a : α) (f : α → Result β) :
    (Except.ok a : Result α) >>= f = f a := rfl

/-- A step after one that succeeds is taken on its result. -/
lemma Result.bind_of_ok {α β : Type} {x : Result α} {a : α} (h : x = .ok a) {f : α → Result β} :
    x >>= f = f a := by
  rw [h, ok_bind]

/-- Steps that agree agree after first steps that do. -/
lemma Result.bind_eq_bind {α β : Type} {x y : Result α} {f g : α → Result β} (hxy : x = y)
    (hfg : ∀ a, f a = g a) : x >>= f = y >>= g := by
  rw [hxy, funext hfg]

/-- What is made of a result comes from a result. -/
lemma Result.map_eq_ok_iff {α β : Type} {x : Result α} {f : α → β} {b : β} :
    x.map f = .ok b ↔ ∃ a, x = .ok a ∧ f a = b := by
  cases x with
  | error e => simp [Except.map]
  | ok a => simp [Except.map]

/-- A text has a NUL character if one of its characters is. -/
lemma hasNul_iff {s : String} : hasNul s = true ↔ '\x00' ∈ s.toList := List.contains_iff_mem

namespace Identifier

/-! ### Identifiers of names -/

/-- A name without fault is an identifier. -/
lemma ofName_of_valid {name : String} (h : fault? name = none) : ofName name = .ok ⟨name, h⟩ := by
  rw [ofName]
  split
  · rfl
  · rename_i fault hfault
    rw [h] at hfault
    simp at hfault

/-- The identifier of a name is the one with this name. -/
lemma ofName_eq_ok_iff {name : String} {id : Identifier} :
    ofName name = .ok id ↔ id.name = name := by
  constructor
  · intro h
    rw [ofName] at h
    split at h
    · cases h
      rfl
    · cases h
  · rintro rfl
    exact ofName_of_valid id.valid

/-- A character takes at most four bytes. -/
lemma utf8Len_le (cs : List Char) : String.utf8Len cs ≤ 4 * cs.length := by
  induction cs with
  | nil => exact Nat.le_refl 0
  | cons c cs ih =>
      have hsize := c.utf8Size_le_four
      rw [String.utf8Len_cons, List.length_cons]
      omega

/-- A name of few characters, none of which is a NUL character, can be written. -/
lemma fault?_eq_none_of_few {name : String} (hne : name ≠ "")
    (hfew : 4 * name.toList.length ≤ maxBytes) (hnul : '\x00' ∉ name.toList) :
    fault? name = none := by
  have hsize : ¬maxBytes < name.utf8ByteSize := by
    rw [← String.utf8Len_toList]
    exact not_lt.mpr ((utf8Len_le _).trans hfew)
  rw [fault?, if_neg (mt String.isEmpty_iff.mp hne), if_neg hsize, if_neg (mt hasNul_iff.mp hnul)]

/-- A name without fault has no NUL character. -/
lemma nul_notMem_of_valid {name : String} (h : fault? name = none) : '\x00' ∉ name.toList := by
  rw [fault?] at h
  split_ifs at h with _ _ hnul
  exact mt hasNul_iff.mpr hnul

/-- The identifiers of names are those with these names, in order. -/
lemma mapM_ofName_eq_ok_iff {names : List String} {ids : List Identifier} :
    names.mapM ofName = .ok ids ↔ ids.map (·.name) = names := by
  induction names generalizing ids with
  | nil =>
      simp only [List.mapM_nil, List.map_eq_nil_iff]
      exact ⟨fun h => by cases h; rfl, fun h => h ▸ rfl⟩
  | cons name names ih =>
      rw [List.mapM_cons, Result.bind_eq_ok_iff]
      constructor
      · rintro ⟨id, hid, h⟩
        obtain ⟨rest, hrest, h⟩ := Result.bind_eq_ok_iff.mp h
        cases h
        rw [List.map_cons, ofName_eq_ok_iff.mp hid, ih.mp hrest]
      · intro h
        cases ids with
        | nil => simp at h
        | cons id ids =>
            rw [List.map_cons, List.cons.injEq] at h
            exact ⟨id, ofName_eq_ok_iff.mpr h.1,
              Result.bind_eq_ok_iff.mpr ⟨ids, ih.mpr h.2, rfl⟩⟩

/-- Names without fault are the names of identifiers. -/
lemma exists_map_name {names : List String} (h : ∀ name ∈ names, fault? name = none) :
    ∃ ids : List Identifier, ids.map (·.name) = names := by
  induction names with
  | nil => exact ⟨[], rfl⟩
  | cons name names ih =>
      obtain ⟨ids, hids⟩ := ih fun n hn => h n (by simp [hn])
      exact ⟨⟨name, h name (by simp)⟩ :: ids, by rw [List.map_cons, hids]⟩

/-! ### The case of letters -/

/-- An ASCII character takes one byte. -/
lemma utf8Size_of_lt {c : Char} (h : c.toNat < 0x80) : c.utf8Size = 1 := by
  rw [Char.utf8Size_eq_one_iff, UInt32.le_iff_toNat_le, Char.toNat_val]
  exact Nat.le_of_lt_succ h

/-- The lower case of an ASCII letter takes as many bytes. -/
lemma utf8Size_toLower (c : Char) : c.toLower.utf8Size = c.utf8Size := by
  by_cases hup : c.isUpper
  · have hrange : 65 ≤ c.toNat ∧ c.toNat ≤ 90 := by
      simpa [Char.isUpper, UInt32.le_iff_toNat_le, ← Char.toNat_val] using hup
    have hlow : (Char.ofNat (c.toNat + 32)).toNat = c.toNat + 32 :=
      Text.toNat_ofNat_of_valid (by rw [Nat.isValidChar]; omega)
    have hone : c.utf8Size = 1 := utf8Size_of_lt (by omega)
    rw [Char.toLower_eq_of_isUpper hup, hone]
    exact utf8Size_of_lt (by omega)
  · rw [Char.toLower_eq_of_not_isUpper hup]

/-- Characters take as many bytes as the same in small ASCII letters. -/
lemma utf8Len_asciiLower (cs : List Char) :
    String.utf8Len (asciiLower cs) = String.utf8Len cs := by
  induction cs with
  | nil => rfl
  | cons c cs ih =>
      rw [asciiLower, List.map_cons, ← asciiLower, String.utf8Len_cons, String.utf8Len_cons, ih,
        utf8Size_toLower]

/-- A name in other letters has a NUL character if the name does. -/
lemma nul_mem_asciiLower {cs : List Char} : '\x00' ∈ asciiLower cs ↔ '\x00' ∈ cs := by
  constructor
  · intro h
    obtain ⟨c, hc, hlow⟩ := List.mem_map.mp h
    rwa [← Text.eq_nul_of_toLower hlow]
  · intro h
    exact List.mem_map.mpr ⟨'\x00', h, by decide⟩

/-- Names that are the same but for the case of ASCII letters take as many bytes. -/
lemma utf8ByteSize_eq_of_sameName {a b : String} (h : sameName a b = true) :
    a.utf8ByteSize = b.utf8ByteSize := by
  rw [← String.utf8Len_toList, ← String.utf8Len_toList, ← utf8Len_asciiLower a.toList,
    beq_iff_eq.mp h, utf8Len_asciiLower]

/-- **The case of letters is no fault**: names that are the same but for it are valid together. -/
lemma fault?_eq_none_of_sameName {a b : String} (hab : sameName a b = true)
    (ha : fault? a = none) : fault? b = none := by
  have hsize := utf8ByteSize_eq_of_sameName hab
  rw [sameName, beq_iff_eq] at hab
  have hnul : hasNul a = hasNul b := by
    rw [Bool.eq_iff_iff, hasNul_iff, hasNul_iff, ← nul_mem_asciiLower, hab, nul_mem_asciiLower]
  have hempty : a.isEmpty = b.isEmpty := by
    rw [String.isEmpty_eq_utf8ByteSize_beq_zero, hsize, ← String.isEmpty_eq_utf8ByteSize_beq_zero]
  rwa [fault?, hempty, hsize, hnul, ← fault?] at ha

end Identifier

end TableExplorer
