import Mathlib
import TableExplorer.Dashboard.Awardees
import TableExplorer.Proofs.Dashboard.Groups

/-!
Counts by awardee.  The names of the records are counted one after the other by their folded forms;
each folded name that occurs is one awardee, shown as its first spelling, with the number of its
records.  A table keeps the first awardees of a ranking.

* `Cell.awardee`: the name in a cell.
* `IsAwardeeTally`: what it is to count names; `IsAwardeeTally.addName`: **one name more** keeps a
  tally, and so `isAwardeeTally_countAwardees`: **names are counted by their folded forms**.
* `AwardeeCount.Precedes`: the order of rankings; `IsAwardeeTally.numbers_eq_of_perm`: **rankings of
  the same names agree in keys and counts**, in whatever order the names come.
* `Selection.exists_ranking`: **a table keeps the first of a ranking of its records' names**.
-/

namespace TableExplorer

/-- The awardee in a cell: its text without the spaces around it; no text is an empty name. -/
def Cell.awardee (cell : Cell) : String :=
  match cell.trimmedText? with
  | some bytes => Text.Utf8.decode bytes
  | none => ""

/-- The awardees of some records. -/
def Relation.awardeeNames (rel : Relation) (column : String) (records : List Record) :
    List String :=
  records.map fun record => (rel.cell column record).awardee

/-- The order of a ranking: the more frequent awardee first, and of equally frequent ones the one
with the smaller key. -/
def AwardeeCount.Precedes (a b : AwardeeCount) : Prop :=
  b.count < a.count ∨ b.count = a.count ∧ a.key < b.key

/-- The counts are those of some names: each folded name that occurs has one count, which is the
number of names that fold to it, and is shown as the first of them. -/
structure IsAwardeeTally (config : Config) (entries : List AwardeeCount) (names : List String) :
    Prop where
  nodup : (entries.map (·.key)).Nodup
  occurs : ∀ key, key ∈ entries.map (·.key) ↔ key ∈ names.map Text.fold
  count : ∀ entry ∈ entries, entry.count = (names.map Text.fold).count entry.key
  display : ∀ entry ∈ entries, ∃ name, names.find? (fun other => entry.key == Text.fold other) =
    some name ∧ entry.display = config.awardeeLabel name

namespace IsAwardeeTally

variable {config : Config} {entries entries' : List AwardeeCount} {names : List String}

/-- The order of the counts does not matter to a tally. -/
lemma perm (h : IsAwardeeTally config entries names) (hperm : entries'.Perm entries) :
    IsAwardeeTally config entries' names where
  nodup := ((hperm.map _).nodup_iff).mpr h.nodup
  occurs key := (hperm.map _).mem_iff.trans (h.occurs key)
  count entry hentry := h.count entry (hperm.mem_iff.mp hentry)
  display entry hentry := h.display entry (hperm.mem_iff.mp hentry)

/-- The keys are the different folded names. -/
lemma keys_perm (h : IsAwardeeTally config entries names) :
    (entries.map (·.key)).Perm (names.map Text.fold).dedup := by
  refine (List.perm_ext_iff_of_nodup h.nodup (List.nodup_dedup _)).mpr fun key => ?_
  rw [h.occurs, List.mem_dedup]

/-- There are as many counts as different folded names. -/
lemma length_eq (h : IsAwardeeTally config entries names) :
    entries.length = (names.map Text.fold).dedup.length := by
  rw [← h.keys_perm.length_eq, List.length_map]

/-- Each key with its count: how often the folded name occurs. -/
lemma numbers_eq (h : IsAwardeeTally config entries names) :
    entries.map (fun entry => (entry.key, entry.count)) =
      (entries.map (·.key)).map fun key => (key, (names.map Text.fold).count key) := by
  rw [List.map_map]
  exact List.map_congr_left fun entry hentry => Prod.ext rfl (h.count entry hentry)

/-- **Keys and counts do not depend on the order** of the names; only the spellings do. -/
lemma numbers_perm {names' : List String} (h : IsAwardeeTally config entries names)
    (h' : IsAwardeeTally config entries' names') (hnames : names.Perm names') :
    (entries.map fun entry => (entry.key, entry.count)).Perm
      (entries'.map fun entry => (entry.key, entry.count)) := by
  have hfolded : (names.map Text.fold).Perm (names'.map Text.fold) := hnames.map _
  have hkeys : (entries.map (·.key)).Perm (entries'.map (·.key)) :=
    h.keys_perm.trans (hfolded.dedup.trans h'.keys_perm.symm)
  rw [h.numbers_eq, h'.numbers_eq]
  simp only [hfolded.count_eq]
  exact hkeys.map _

/-- **Rankings agree in keys and counts** if they are of the same names, in whatever order these
come. -/
lemma numbers_eq_of_perm {names' : List String} (h : IsAwardeeTally config entries names)
    (h' : IsAwardeeTally config entries' names') (hnames : names.Perm names')
    (hsorted : entries.Pairwise AwardeeCount.Precedes)
    (hsorted' : entries'.Pairwise AwardeeCount.Precedes) :
    entries.map (fun entry => (entry.key, entry.count)) =
      entries'.map fun entry => (entry.key, entry.count) := by
  let order (a b : String × Nat) : Prop := b.2 < a.2 ∨ b.2 = a.2 ∧ a.1 < b.1
  have hasymm : ∀ a b : String × Nat, order a b → order b a → a = b := by
    rintro a b (hlt | ⟨heq, hkey⟩) (hlt' | ⟨heq', hkey'⟩)
    · exact absurd hlt hlt'.asymm
    · exact absurd hlt heq'.symm.not_lt
    · exact absurd hlt' heq.symm.not_lt
    · exact absurd hkey hkey'.asymm
  exact List.Perm.eq_of_pairwise (fun a b _ _ (hab : order a b) hba => hasymm a b hab hba)
    (List.pairwise_map.mpr hsorted) (List.pairwise_map.mpr hsorted') (h.numbers_perm h' hnames)

end IsAwardeeTally

/-! ### Counting names -/

namespace AwardeeCount

variable {config : Config} {entries : List AwardeeCount} {name : String}

/-- A count that is raised keeps its key. -/
@[simp] lemma key_raise (key : String) (entry : AwardeeCount) :
    (raise key entry).key = entry.key := by
  rw [raise]
  split <;> rfl

/-- A count that is raised is shown as before. -/
@[simp] lemma display_raise (key : String) (entry : AwardeeCount) :
    (raise key entry).display = entry.display := by
  rw [raise]
  split <;> rfl

/-- A name that is known adds to the count of its key. -/
lemma addName_of_mem (h : Text.fold name ∈ entries.map (·.key)) :
    addName config entries name = entries.map (raise (Text.fold name)) := by
  obtain ⟨entry, hentry, hkey⟩ := List.mem_map.mp h
  have hany : entries.any (fun entry => entry.key == Text.fold name) = true :=
    List.any_eq_true.mpr ⟨entry, hentry, beq_iff_eq.mpr hkey⟩
  rw [addName, if_pos hany]

/-- A name that is not known is a new count. -/
lemma addName_of_notMem (h : Text.fold name ∉ entries.map (·.key)) :
    addName config entries name =
      entries ++ [⟨Text.fold name, config.awardeeLabel name, 1⟩] := by
  have hnone : ¬entries.any (fun entry => entry.key == Text.fold name) = true := by
    intro hany
    obtain ⟨entry, hentry, hkey⟩ := List.any_eq_true.mp hany
    exact h (List.mem_map.mpr ⟨entry, hentry, beq_iff_eq.mp hkey⟩)
  rw [addName, if_neg hnone]

end AwardeeCount

namespace IsAwardeeTally

variable {config : Config} {entries : List AwardeeCount} {names : List String} {name : String}

/-- A name that is known keeps the tally of the names before it. -/
lemma raise (h : IsAwardeeTally config entries names)
    (hknown : Text.fold name ∈ entries.map (·.key)) :
    IsAwardeeTally config (entries.map (AwardeeCount.raise (Text.fold name)))
      (names ++ [name]) := by
  have hkeys : (entries.map (AwardeeCount.raise (Text.fold name))).map (·.key) =
      entries.map (·.key) := by
    rw [List.map_map]
    exact List.map_congr_left fun entry _ => AwardeeCount.key_raise _ entry
  refine ⟨hkeys ▸ h.nodup, fun key => ?_, fun raised hraised => ?_, fun raised hraised => ?_⟩
  · rw [hkeys, h.occurs, List.map_append, List.mem_append, List.map_singleton, List.mem_singleton]
    refine ⟨Or.inl, fun hkey => hkey.elim id ?_⟩
    rintro rfl
    exact (h.occurs _).mp hknown
  · obtain ⟨entry, hentry, rfl⟩ := List.mem_map.mp hraised
    rw [AwardeeCount.key_raise, List.map_append, List.count_append, ← h.count entry hentry,
      List.map_singleton, List.count_singleton, AwardeeCount.raise]
    by_cases hkey : entry.key = Text.fold name
    · simp [hkey]
    · simp [hkey, Ne.symm hkey]
  · obtain ⟨entry, hentry, rfl⟩ := List.mem_map.mp hraised
    obtain ⟨first, hfirst, hdisplay⟩ := h.display entry hentry
    refine ⟨first, ?_, (AwardeeCount.display_raise _ entry).trans hdisplay⟩
    rw [AwardeeCount.key_raise, List.find?_append, hfirst, Option.some_or]

/-- A name that is not known is a new count of the tally. -/
lemma concat (h : IsAwardeeTally config entries names)
    (hnew : Text.fold name ∉ entries.map (·.key)) :
    IsAwardeeTally config (entries ++ [⟨Text.fold name, config.awardeeLabel name, 1⟩])
      (names ++ [name]) := by
  have hother : Text.fold name ∉ names.map Text.fold := fun hmem => hnew ((h.occurs _).mpr hmem)
  refine ⟨?_, fun key => ?_, fun entry hentry => ?_, fun entry hentry => ?_⟩
  · rw [List.map_append, List.map_singleton]
    exact h.nodup.append (List.nodup_singleton _) (List.disjoint_singleton.mpr hnew)
  · simp only [List.map_append, List.mem_append, h.occurs, List.map_singleton]
  · rw [List.map_append, List.count_append, List.map_singleton, List.count_singleton]
    rcases List.mem_append.mp hentry with hentry | hentry
    · have hne : entry.key ≠ Text.fold name := fun heq => hnew (heq ▸ List.mem_map_of_mem hentry)
      rw [h.count entry hentry, if_neg (by simpa using hne.symm), Nat.add_zero]
    · obtain rfl := List.mem_singleton.mp hentry
      rw [List.count_eq_zero.mpr hother, if_pos (beq_self_eq_true _)]
  · rw [List.find?_append]
    rcases List.mem_append.mp hentry with hentry | hentry
    · obtain ⟨first, hfirst, hdisplay⟩ := h.display entry hentry
      exact ⟨first, by rw [hfirst, Option.some_or], hdisplay⟩
    · obtain rfl := List.mem_singleton.mp hentry
      have hnone : names.find? (fun other => Text.fold name == Text.fold other) = none :=
        List.find?_eq_none.mpr fun other hmem hsame =>
          hother (beq_iff_eq.mp hsame ▸ List.mem_map_of_mem hmem)
      refine ⟨name, ?_, rfl⟩
      rw [hnone, Option.none_or, List.find?_singleton, beq_self_eq_true]
      rfl

/-- **One name more** keeps a tally. -/
lemma addName (h : IsAwardeeTally config entries names) (name : String) :
    IsAwardeeTally config (AwardeeCount.addName config entries name) (names ++ [name]) := by
  by_cases hknown : Text.fold name ∈ entries.map (·.key)
  · rw [AwardeeCount.addName_of_mem hknown]
    exact h.raise hknown
  · rw [AwardeeCount.addName_of_notMem hknown]
    exact h.concat hknown

end IsAwardeeTally

/-- **Names are counted by their folded forms.** -/
lemma isAwardeeTally_countAwardees (config : Config) (names : List String) :
    IsAwardeeTally config (countAwardees config names) names := by
  -- the loop has a tally of the names behind it
  induction names using List.reverseRecOn with
  | nil => exact ⟨List.nodup_nil, fun _ => Iff.rfl, List.forall_mem_nil _, List.forall_mem_nil _⟩
  | append_singleton names name ih =>
      rw [countAwardees, List.foldl_concat]
      exact ih.addName name

/-! ### What a table keeps -/

namespace Selection

variable {s : Selection} {config : Config} {column : Identifier}

/-- The name that is read for a record is the one in its cell. -/
lemma eq_awardee_of_awardeeName {record : Record} {name : String}
    (h : s.awardeeName column record = .ok name) :
    name = (s.relation.cell column.name record).awardee := by
  have hdecode := decode_of_shownText h
  rw [← hdecode, trimmed?, Cell.awardee]
  cases (s.relation.cell column.name record).trimmedText? with
  | some bytes => rfl
  | none => decide +kernel

/-- The names that are read are those of the records. -/
lemma names_eq {records : List Record} {names : List String}
    (h : records.mapM (s.awardeeName column) = .ok names) :
    names = s.relation.awardeeNames column.name records := by
  have hnames := Result.mapM_eq_ok_iff.mp h
  clear h
  induction hnames with
  | nil => rfl
  | cons hname _ ih => rw [ih, eq_awardee_of_awardeeName hname, Relation.awardeeNames,
      Relation.awardeeNames, List.map_cons]

/-- **A table keeps the first of a ranking of its records' names**, as many as are kept. -/
theorem exists_ranking {awardees : List AwardeeCount}
    (h : s.awardees config column = .ok awardees) :
    ∃ ranking,
      IsAwardeeTally config ranking (s.relation.awardeeNames column.name s.records) ∧
      ranking.Pairwise AwardeeCount.Precedes ∧
      awardees = ranking.take config.awardeesPerTable := by
  obtain ⟨names, hnames, h⟩ := Result.bind_eq_ok_iff.mp h
  obtain rfl := names_eq hnames
  have htally := (isAwardeeTally_countAwardees config
    (s.relation.awardeeNames column.name s.records)).perm (sortBy_perm
      (fun (a b : AwardeeCount) => (compare b.count a.count).then (compareText a.key b.key)) _)
  refine ⟨_, htally, ?_, (Except.ok.inj h).symm⟩
  -- equally frequent awardees have different keys
  have hkeys := List.pairwise_map.mp htally.nodup
  refine ((sortBy_ranked_pairwise AwardeeCount.count AwardeeCount.key _).and hkeys).imp ?_
  rintro a b ⟨hlt | ⟨heq, hle⟩, hne⟩
  · exact .inl hlt
  · exact .inr ⟨heq, lt_of_le_of_ne hle hne⟩

end Selection

end TableExplorer
