import Mathlib
import TableExplorer.Dashboard.Monthly
import TableExplorer.Dashboard.Series
import TableExplorer.Proofs.Dashboard.Calendar
import TableExplorer.Proofs.Dashboard.Groups
import TableExplorer.Proofs.Text.ByteOrder

/-!
Records by month.  A statement groups the dates by their keys and lists the groups by them; each
group whose key denotes a month becomes a bucket.  Whatever the keys are, the buckets of a month
count its records, as long as no group has records of different keys.  If each key that denotes a
month is the text of that month, the buckets are the months themselves: each once, in the order of
the calendar.

* `Relation.month?`: the month of a record.
* `Selection.monthlyBuckets_eq`: the buckets are the groups whose keys denote months.
* `Selection.sum_counts_buckets`: **the buckets of a month count its records**.
* `IsMonthAxis`: the months of some records, each with the number of its records;
  `Selection.exists_isMonthAxis`: **buckets are one**.
-/

namespace TableExplorer

/-- The key of the month of a record. -/
def Relation.monthKey? (rel : Relation) (column : String) (record : Record) : Option ByteArray :=
  (rel.cell column record).trimmedText?.map monthKey

/-- The key of the month of a well-formed date is well-formed. -/
lemma isLegible_monthKey? {rel : Relation} {column : String} {record : Record}
    (h : isLegible (rel.cell column record).trimmedText? = true) :
    isLegible (rel.monthKey? column record) = true := by
  rw [Relation.monthKey?]
  cases htext : (rel.cell column record).trimmedText? with
  | none => rfl
  | some date =>
      rw [htext] at h
      exact Text.Utf8.isSome_decode?_iff.mpr
        (Text.Utf8.isEncoded_monthKey (Text.Utf8.isSome_decode?_iff.mp h))

/-- The month that a key denotes. -/
def Month.ofBytes? (key : ByteArray) : Option Month := ofKey? (Text.Utf8.decode key)

/-- The month of a record, if its date ends in one. -/
def Relation.month? (rel : Relation) (column : String) (record : Record) : Option Month :=
  (rel.monthKey? column record).bind Month.ofBytes?

/-- The text of the month of a record. -/
def Relation.monthText? (rel : Relation) (column : String) (record : Record) : Option String :=
  (rel.month? column record).map Month.text

/-- The months of records are written as their texts: four digits, a hyphen, two digits. -/
def Relation.WritesMonths (rel : Relation) (column : String) (records : List Record) : Prop :=
  ∀ record ∈ records, ∀ m, rel.month? column record = some m →
    rel.monthKey? column record = some m.text.toUTF8

/-- The buckets are the months of some records, in the order of the calendar: each month that
occurs has one, under its text, and counts its records. -/
structure IsMonthAxis (buckets : List MonthlyBucket) (months : List Month)
    (month? : Record → Option Month) (records : List Record) : Prop where
  texts : buckets.map (·.month) = months.map Month.text
  counts : buckets.map (·.count) = months.map fun m =>
    records.countP fun record => month? record = some m
  ascending : months.Pairwise Month.Before
  texts_ascending : (buckets.map (·.month)).Pairwise (· < ·)
  occurs : ∀ m, m ∈ months ↔ ∃ record ∈ records, month? record = some m

namespace Selection

variable {s : Selection} {column : Identifier}

/-! ### Buckets -/

/-- The groups of the dates. -/
def monthGroups (s : Selection) (column : Identifier) : List (Record × List Record) :=
  groupRecords s.relation monthName
    (fun record => textCell (s.relation.monthKey? column.name record)) s.records

/-- The groups with their keys, by ascending keys. -/
def keyedGroups (s : Selection) (column : Identifier) : List (Option ByteArray × List Record) :=
  sortBy (fun a b => Cell.compare (textCell a.1) (textCell b.1))
    ((s.monthGroups column).map fun group => (s.relation.monthKey? column.name group.1, group.2))

/-- The months that the keys of the groups denote, in the order of the keys. -/
def groupMonths (s : Selection) (column : Identifier) : List Month :=
  (s.keyedGroups column).filterMap fun entry => entry.1.bind Month.ofBytes?

/-- A keyed group is one of the groups, with the key of its first record. -/
lemma mem_keyedGroups_iff {entry : Option ByteArray × List Record} :
    entry ∈ s.keyedGroups column ↔ ∃ group ∈ s.monthGroups column,
      (s.relation.monthKey? column.name group.1, group.2) = entry := by
  rw [keyedGroups, (sortBy_perm _ _).mem_iff, List.mem_map]

/-- The groups of the dates are groups. -/
lemma isGrouping_monthGroups (s : Selection) (column : Identifier) :
    IsGrouping (fun r t => Cell.compare
      (groupingCell s.relation monthName
        (fun record => textCell (s.relation.monthKey? column.name record)) r)
      (groupingCell s.relation monthName
        (fun record => textCell (s.relation.monthKey? column.name record)) t) = .eq)
      s.records (s.monthGroups column) :=
  isGrouping_groupRecords _ _ _ _

/-- A bucket is made of a group whose key denotes a month. -/
lemma month_count_of_monthlyBucket? {group : Option ByteArray × List Record}
    {bucket? : Option MonthlyBucket} (h : s.monthlyBucket? group = .ok bucket?) :
    bucket?.map (fun b => (b.month, b.count)) =
      (group.1.bind Month.ofBytes?).map fun m => (m.text, group.2.length) := by
  rw [monthlyBucket?] at h
  split at h
  · rename_i hkey
    rw [← Except.ok.inj h, hkey]
    rfl
  · rename_i bytes hkey
    obtain ⟨text, htext, h⟩ := Result.bind_eq_ok_iff.mp h
    rw [← Except.ok.inj h, hkey, Option.bind_some, Month.ofBytes?, decode_of_shownText htext,
      Option.map_map]
    rfl

/-- **The buckets** are the groups whose keys denote months. -/
lemma monthlyBuckets_eq {buckets : List MonthlyBucket}
    (h : s.monthlyBuckets column = .ok buckets) :
    buckets.map (fun b => (b.month, b.count)) =
      (s.keyedGroups column).filterMap fun group =>
        (group.1.bind Month.ofBytes?).map fun m => (m.text, group.2.length) := by
  obtain ⟨bucket?s, hbuckets, h⟩ := Result.bind_eq_ok_iff.mp h
  rw [← Except.ok.inj h]
  have hall : List.Forall₂ (fun group bucket? => s.monthlyBucket? group = .ok bucket?)
      (s.keyedGroups column) bucket?s := Result.mapM_eq_ok_iff.mp hbuckets
  clear hbuckets h
  generalize s.keyedGroups column = groups at hall
  induction hall with
  | nil => rfl
  | @cons group bucket? _ _ hgroup _ ih =>
      have hbucket := month_count_of_monthlyBucket? hgroup
      rw [List.filterMap_cons, List.filterMap_cons]
      cases bucket? with
      | none =>
          rw [Option.map_none] at hbucket
          rw [← hbucket]
          exact ih
      | some b =>
          rw [Option.map_some] at hbucket
          rw [← hbucket]
          exact congrArg (List.cons _) ih

/-- The buckets have the texts of the months of the groups. -/
lemma map_month_buckets {buckets : List MonthlyBucket}
    (h : s.monthlyBuckets column = .ok buckets) :
    buckets.map (·.month) = (s.groupMonths column).map Month.text := by
  have hmonths := congrArg (List.map Prod.fst) (monthlyBuckets_eq h)
  rw [List.map_map, List.map_filterMap] at hmonths
  rw [groupMonths, List.map_filterMap]
  refine hmonths.trans (List.filterMap_congr fun entry _ => ?_)
  rw [Option.map_map]
  rfl

/-- The buckets are made if and only if the key of each group is well-formed. -/
lemma exists_monthlyBuckets_iff :
    (∃ buckets, s.monthlyBuckets column = .ok buckets) ↔ ∀ group ∈ s.monthGroups column,
      isLegible (s.relation.monthKey? column.name group.1) = true := by
  have hbucket : ∀ entry : Option ByteArray × List Record,
      (∃ b, s.monthlyBucket? entry = .ok b) ↔ isLegible entry.1 = true := by
    rintro ⟨key?, records⟩
    rw [monthlyBucket?]
    cases key? with
    | none => exact ⟨fun _ => rfl, fun _ => ⟨none, rfl⟩⟩
    | some bytes =>
        rw [← exists_shownText_iff]
        constructor
        · rintro ⟨b, hb⟩
          obtain ⟨text, htext, -⟩ := Result.bind_eq_ok_iff.mp hb
          exact ⟨text, htext⟩
        · rintro ⟨text, htext⟩
          exact ⟨_, Result.bind_eq_ok htext rfl⟩
  have hbuckets : (∃ buckets, s.monthlyBuckets column = .ok buckets) ↔
      ∃ bucket?s, (s.keyedGroups column).mapM s.monthlyBucket? = .ok bucket?s := by
    constructor
    · rintro ⟨buckets, h⟩
      obtain ⟨bucket?s, hall, -⟩ := Result.bind_eq_ok_iff.mp h
      exact ⟨bucket?s, hall⟩
    · rintro ⟨bucket?s, hall⟩
      exact ⟨_, Result.bind_eq_ok hall rfl⟩
  rw [hbuckets, Result.exists_mapM_iff]
  simp only [hbucket, mem_keyedGroups_iff]
  exact ⟨fun h group hgroup => h _ ⟨group, hgroup, rfl⟩,
    fun h entry ⟨group, hgroup, hentry⟩ => hentry ▸ h group hgroup⟩

/-! ### Counts -/

/-- Among groups, the buckets under some texts count the records of the groups under them. -/
lemma sum_filterMap_groups (month? : Record → Option Month) (p : String → Bool)
    (groups : List (Record × List Record)) :
    (((groups.filterMap fun group => (month? group.1).map fun m =>
        (m.text, group.2.length)).filter fun entry => p entry.1).map (·.2)).sum =
      ((groups.filter fun group => ((month? group.1).map Month.text).any p).map
        fun group => group.2.length).sum := by
  induction groups with
  | nil => rfl
  | cons group rest ih =>
      rw [List.filterMap_cons, List.filter_cons]
      cases hmonth : month? group.1 with
      | none => exact ih
      | some m =>
          rw [Option.map_some, Option.map_some, Option.any_some, List.filter_cons]
          by_cases htext : p m.text = true
          · rw [if_pos htext, if_pos htext, List.map_cons, List.map_cons, List.sum_cons,
              List.sum_cons, ih]
          · rw [if_neg htext, if_neg htext, ih]

/-- The keyed groups are the groups, in another order. -/
lemma filterMap_keyedGroups_perm (s : Selection) (column : Identifier) :
    ((s.keyedGroups column).filterMap fun group =>
        (group.1.bind Month.ofBytes?).map fun m => (m.text, group.2.length)).Perm
      ((s.monthGroups column).filterMap fun group =>
        (s.relation.month? column.name group.1).map fun m => (m.text, group.2.length)) := by
  refine ((sortBy_perm _ _).filterMap _).trans ?_
  rw [List.filterMap_map]
  exact List.Perm.refl _

/-- **The buckets of a month count its records**, if no group has records of different keys: under
any texts, the buckets count the records whose months have these texts. -/
theorem sum_counts_buckets {buckets : List MonthlyBucket}
    (h : s.monthlyBuckets column = .ok buckets)
    (hseparates : s.relation.Separates monthName s.records (s.relation.monthKey? column.name))
    (p : String → Bool) :
    ((buckets.filter fun b => p b.month).map (·.count)).sum =
      s.records.countP fun record => (s.relation.monthText? column.name record).any p := by
  have hmonth : ∀ group ∈ s.monthGroups column, ∀ record ∈ group.2,
      s.relation.monthText? column.name record = s.relation.monthText? column.name group.1 := by
    intro group hgroup record hrecord
    have hkey := same_of_separates hseparates
      (fun _ _ _ _ => compare_textCell_eq_eq_iff.mp) hgroup hrecord
    rw [Relation.monthText?, Relation.monthText?, Relation.month?, Relation.month?, hkey]
  have hcount := (isGrouping_monthGroups s column).countP_eq
    (p := fun record => (s.relation.monthText? column.name record).any p)
    fun group hgroup record hrecord => by rw [hmonth group hgroup record hrecord]
  have hpairs : (buckets.filter fun b => p b.month).map (·.count) =
      ((buckets.map fun b => (b.month, b.count)).filter fun entry => p entry.1).map (·.2) := by
    rw [List.filter_map, List.map_map]
    rfl
  have hperm := ((filterMap_keyedGroups_perm s column).filter fun entry => p entry.1).map (·.2)
  rw [hpairs, monthlyBuckets_eq h, hperm.sum_eq, sum_filterMap_groups, hcount]
  rfl

/-! ### The axis -/

section

variable (hgroups : s.relation.GroupsAs monthName s.records (s.relation.monthKey? column.name))

include hgroups

/-- A keyed group counts the records of its key, which are some. -/
lemma records_of_mem_keyedGroups {entry : Option ByteArray × List Record}
    (h : entry ∈ s.keyedGroups column) :
    (∃ record ∈ s.records, s.relation.monthKey? column.name record = entry.1) ∧
      entry.2.length =
        s.records.countP fun record => s.relation.monthKey? column.name record = entry.1 := by
  obtain ⟨group, hgroup, rfl⟩ := mem_keyedGroups_iff.mp h
  have hfirst := (isGrouping_monthGroups s column).first_mem_items hgroup
  refine ⟨⟨group.1, hfirst, rfl⟩, ?_⟩
  dsimp only
  rw [snd_of_mem_groupRecords hgroup, ← List.countP_eq_length_filter]
  refine List.countP_congr fun record hrecord => ?_
  rw [beq_iff_eq, decide_eq_true_iff, compare_groupingCell_iff hgroups
    (fun _ _ _ _ => compare_textCell_eq_eq_iff) hfirst hrecord]
  exact eq_comm

/-- The months of the groups are the months of the records. -/
lemma mem_groupMonths_iff {m : Month} :
    m ∈ s.groupMonths column ↔
      ∃ record ∈ s.records, s.relation.month? column.name record = some m := by
  have hgrouping := isGrouping_monthGroups s column
  rw [groupMonths, List.mem_filterMap]
  constructor
  · rintro ⟨entry, hentry, hmonth⟩
    obtain ⟨⟨record, hrecord, hkey⟩, -⟩ := records_of_mem_keyedGroups hgroups hentry
    exact ⟨record, hrecord, by rw [Relation.month?, hkey, hmonth]⟩
  · rintro ⟨record, hrecord, hmonth⟩
    obtain ⟨group, hgroup, hmem⟩ := hgrouping.mem_iff.mp hrecord
    have hkey : s.relation.monthKey? column.name group.1 =
        s.relation.monthKey? column.name record :=
      (compare_groupingCell_iff hgroups (fun _ _ _ _ => compare_textCell_eq_eq_iff)
        (hgrouping.first_mem_items hgroup) hrecord).mp
        (hgrouping.same_first group hgroup record hmem)
    refine ⟨_, mem_keyedGroups_iff.mpr ⟨group, hgroup, rfl⟩, ?_⟩
    rw [← hmonth, Relation.month?, ← hkey]

/-- The keys of the groups ascend. -/
lemma keyedGroups_pairwise : (s.keyedGroups column).Pairwise fun a b =>
    Cell.compare (textCell a.1) (textCell b.1) = .lt := by
  have hgrouping := (isGrouping_monthGroups s column).congr fun r hr t ht =>
    compare_groupingCell_iff hgroups (fun _ _ _ _ => compare_textCell_eq_eq_iff) hr ht
  have htrans : Std.TransCmp fun a b : Option ByteArray × List Record =>
      Cell.compare (textCell a.1) (textCell b.1) :=
    transCmp_on fun a : Option ByteArray × List Record => textCell a.1
  refine sortBy_pairwise_lt ?_
  rw [List.pairwise_map]
  exact hgrouping.distinct.imp fun hne heq => hne (compare_textCell_eq_eq_iff.mp heq)

variable (hwrites : s.relation.WritesMonths column.name s.records)

include hwrites

/-- The key of a group that denotes a month is the text of the month. -/
lemma key_eq_text {entry : Option ByteArray × List Record} (h : entry ∈ s.keyedGroups column)
    {m : Month} (hmonth : entry.1.bind Month.ofBytes? = some m) :
    entry.1 = some m.text.toUTF8 := by
  obtain ⟨⟨record, hrecord, hkey⟩, -⟩ := records_of_mem_keyedGroups hgroups h
  rw [← hkey] at hmonth ⊢
  exact hwrites record hrecord m hmonth

/-- A month that is written plainly has a plain year. -/
lemma hasPlainYear_of_mem_keyedGroups {entry : Option ByteArray × List Record}
    (h : entry ∈ s.keyedGroups column) {m : Month}
    (hmonth : entry.1.bind Month.ofBytes? = some m) : m.HasPlainYear := by
  have htext := key_eq_text hgroups hwrites h hmonth
  obtain ⟨⟨record, -, hkey⟩, -⟩ := records_of_mem_keyedGroups hgroups h
  rw [htext] at hkey
  obtain ⟨date, -, hdate⟩ := Option.map_eq_some_iff.mp hkey
  have hascii : ∀ c ∈ m.text.toList, c.toNat < 0x80 := fun _ => Month.toNat_lt_of_mem_text
  have hbytes : (monthKey date).toList = Text.Utf8.encode m.text.toList := by
    rw [hdate]
    exact Text.Utf8.toList_toByteArray _
  have hlength : (monthKey date).toList.length ≤ 7 := Text.Utf8.length_monthKey_le fun b hb => by
    rw [hbytes] at hb
    exact UInt8.lt_trans (Text.Utf8.lt_of_mem_encode hascii hb) (by decide)
  rw [hbytes, Text.Utf8.encode_of_lt hascii, List.length_map] at hlength
  exact Month.hasPlainYear_of_length_text_le hlength

/-- The records of a month are those of its key. -/
lemma countP_month {entry : Option ByteArray × List Record} (h : entry ∈ s.keyedGroups column)
    {m : Month} (hmonth : entry.1.bind Month.ofBytes? = some m) :
    entry.2.length =
      s.records.countP fun record => s.relation.month? column.name record = some m := by
  rw [(records_of_mem_keyedGroups hgroups h).2]
  refine List.countP_congr fun record hrecord => ?_
  rw [decide_eq_true_iff, decide_eq_true_iff]
  constructor
  · intro hkey
    rw [Relation.month?, hkey, hmonth]
  · intro hrecordMonth
    rw [hwrites record hrecord m hrecordMonth, key_eq_text hgroups hwrites h hmonth]

/-- A month whose key comes first has the smaller text, and is before the other. -/
lemma before_of_compare_lt {a b : Option ByteArray × List Record}
    (ha : a ∈ s.keyedGroups column) (hb : b ∈ s.keyedGroups column)
    (hlt : Cell.compare (textCell a.1) (textCell b.1) = .lt) {m n : Month}
    (hm : a.1.bind Month.ofBytes? = some m) (hn : b.1.bind Month.ofBytes? = some n) :
    m.Before n ∧ m.text < n.text := by
  rw [key_eq_text hgroups hwrites ha hm, key_eq_text hgroups hwrites hb hn] at hlt
  have hbytes : Text.Utf8.encode m.text.toList < Text.Utf8.encode n.text.toList := by
    rw [← Text.Utf8.toList_toByteArray, ← Text.Utf8.toList_toByteArray]
    exact compare_bytes_eq_lt_iff.mp hlt
  have hchars := Text.Utf8.encode_lt_encode_iff.mp hbytes
  have hmonth : ∀ {key? : Option ByteArray} {m : Month},
      key?.bind Month.ofBytes? = some m → m.month ≤ 12 := by
    intro key? m h
    obtain ⟨key, -, hkey⟩ := Option.bind_eq_some_iff.mp h
    exact (Month.month_of_ofKey? hkey).2
  exact ⟨Month.before_of_toList_text_lt (hasPlainYear_of_mem_keyedGroups hgroups hwrites ha hm)
    (hasPlainYear_of_mem_keyedGroups hgroups hwrites hb hn) (hmonth hm) (hmonth hn) hchars, hchars⟩

/-- The months of the groups are in the order of the calendar, and so are their texts. -/
lemma groupMonths_pairwise :
    (s.groupMonths column).Pairwise fun m n => m.Before n ∧ m.text < n.text :=
  List.pairwise_filterMap.mpr <|
    (keyedGroups_pairwise hgroups).imp_of_mem fun ha hb hlt _ hm _ hn =>
      before_of_compare_lt hgroups hwrites ha hb hlt hm hn

/-- The buckets count the records of the months of the groups. -/
lemma map_count_buckets {buckets : List MonthlyBucket}
    (h : s.monthlyBuckets column = .ok buckets) :
    buckets.map (·.count) = (s.groupMonths column).map fun m =>
      s.records.countP fun record => s.relation.month? column.name record = some m := by
  have hcounts := congrArg (List.map Prod.snd) (monthlyBuckets_eq h)
  rw [List.map_map, List.map_filterMap] at hcounts
  rw [groupMonths, List.map_filterMap]
  refine hcounts.trans (List.filterMap_congr fun entry hentry => ?_)
  rw [Option.map_map]
  refine Option.map_congr fun m hmonth => ?_
  exact countP_month hgroups hwrites hentry hmonth

/-- **The buckets are the months** of the records, in the order of the calendar. -/
theorem exists_isMonthAxis {buckets : List MonthlyBucket}
    (h : s.monthlyBuckets column = .ok buckets) :
    ∃ months, IsMonthAxis buckets months (s.relation.month? column.name) s.records := by
  have htexts := map_month_buckets h
  have hpairwise := groupMonths_pairwise hgroups hwrites
  refine ⟨s.groupMonths column, htexts, map_count_buckets hgroups hwrites h, ?_, ?_, fun m => ?_⟩
  · exact hpairwise.imp And.left
  · rw [htexts, List.pairwise_map]
    exact hpairwise.imp And.right
  · exact mem_groupMonths_iff hgroups

end

end Selection

end TableExplorer
