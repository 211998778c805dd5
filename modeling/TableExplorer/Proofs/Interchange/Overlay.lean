import TableExplorer.Interchange.Configuration
import TableExplorer.Proofs.Json.Written

/-!
Loading a configuration is an overlay.  A JSON object that holds some fields of a configuration, in
any order and among any others, is read as the configuration with these fields, and with the default
values of the machine elsewhere; and so are, inside of it, the objects of the roles and of the
logging.

* `Json.Holds`: an object holds some fields of a record; `Json.Fields.Gives`: **what is looked up in
  it**.
* `ColumnRoles.overlay`, `LogConfig.overlay`, `Config.overlay`: the fields of one record, where they
  are given, over those of another.
* `Config.IsUsable`, `Config.check_eq_ok_iff`: **which configurations are accepted**.
* `Config.ofJsonOn?_of_holds`: **what an object that holds some fields is read as**.
* `Config.load_overlay`: **what its text is loaded as**.
-/

namespace TableExplorer

namespace Json

/-! ### Fields that are given -/

/-- An object holds those fields of a record that are given, in some order, and members of other
names among them. -/
def Holds (fields : Fields) (given : String → Bool) (json : Json) : Prop :=
  ∃ members, json = .object members ∧
    (members.filter fun m => (fields.map (·.1)).contains m.1).Perm
      (fields.filter fun f => given f.1)

/-- All fields are held by an object of them. -/
lemma holds_object (fields : Fields) : Holds fields (fun _ => true) (.object fields) := by
  refine ⟨fields, rfl, ?_⟩
  rw [List.filter_eq_self.mpr fun field hfield => ?_, List.filter_true]
  simpa using ⟨field.2, hfield⟩

/-- What is found under the names of the fields: the value of a field that is given, and nothing for
any other. -/
def Fields.Gives (known fields : Fields) (given : String → Bool) : Prop :=
  ∀ name value, (name, value) ∈ fields →
    known.lookup name = if given name then some value else none

variable {α : Type} {fields known : Fields} {given : String → Bool} {json : Json}

/-- In a list without repeated names the value of a name is found. -/
lemma Fields.lookup_eq_some {name : String} (hnodup : (known.map (·.1)).Nodup)
    (h : (name, json) ∈ known) : known.lookup name = some json := by
  induction known with
  | nil => cases h
  | cons field known ih =>
      rw [List.map_cons, List.nodup_cons] at hnodup
      rcases List.mem_cons.mp h with rfl | hmem
      · exact List.lookup_cons_self
      · have hne : name ≠ field.1 := by
          rintro rfl
          exact hnodup.1 (List.mem_map.mpr ⟨_, hmem, rfl⟩)
        rw [List.lookup_cons, beq_eq_false_iff_ne.mpr hne, ih hnodup.2 hmem]

/-- **An object that holds some fields gives them.** -/
lemma Holds.exists_gives (hnodup : (fields.map (·.1)).Nodup) (h : Holds fields given json) :
    ∃ known, json.toFields? (fields.map (·.1)) = some known ∧ known.Gives fields given := by
  obtain ⟨members, rfl, hperm⟩ := h
  have hknown : ((members.filter fun m => (fields.map (·.1)).contains m.1).map (·.1)).Nodup :=
    (hperm.map _).nodup_iff.mpr (hnodup.sublist (List.filter_sublist.map _))
  refine ⟨_, if_pos hknown, fun name value hfield => ?_⟩
  cases hgiven : given name with
  | true =>
      exact Fields.lookup_eq_some hknown
        (hperm.mem_iff.mpr (List.mem_filter.mpr ⟨hfield, hgiven⟩))
  | false =>
      rw [if_neg Bool.false_ne_true, List.lookup_eq_none_iff]
      intro member hmember
      have hother := (List.mem_filter.mp (hperm.mem_iff.mp hmember)).2
      rw [bne_iff_ne]
      rintro rfl
      rw [hgiven] at hother
      cases hother

/-! ### Values of fields -/

lemma toSize?_ofNat {n : Nat} (h : n < Word.bound) : toSize? (ofNat n) = some n := by
  rw [ofNat, toSize?, Word.size?, if_pos ⟨Int.natCast_nonneg n, by exact_mod_cast h⟩,
    Int.toNat_natCast]

/-- A list is taken if each of its items is. -/
lemma toList?_array {decode : Json → Option α} {items : List Json} {as : List α}
    (h : List.Forall₂ (fun json a => decode json = some a) items as) :
    toList? decode (.array items) = some as := by
  rw [toList?]
  induction h with
  | nil => rfl
  | cons hitem _ ih => rw [List.mapM_cons, hitem, ih]; rfl

lemma toStrings?_ofStrings (items : List String) : toStrings? (ofStrings items) = some items := by
  refine toList?_array (List.forall₂_map_left_iff.mpr (List.forall₂_same.mpr fun s _ => ?_))
  rfl

/-! ### Reading fields -/

namespace Fields.Gives

variable {value : Json} {decode : Json → Option α} {a : α}

/-- A field that may be missing is read if it is given. -/
lemma optional (h : known.Gives fields given) (name : String) (hfield : (name, value) ∈ fields)
    (hdecode : decode value = some a) (default : α) :
    known.optional name decode default = some (if given name then a else default) := by
  rw [Fields.optional, h name value hfield]
  cases given name with
  | true => exact hdecode
  | false => rfl

/-- A field that must be given is read. -/
lemma required (h : known.Gives fields given) (name : String) (hfield : (name, value) ∈ fields)
    (hdecode : decode value = some a) (hgiven : given name = true) :
    known.required name decode = some a := by
  rw [Fields.required, h name value hfield, if_pos hgiven]
  exact hdecode

lemma optional_bool (h : known.Gives fields given) (name : String) (b : Bool)
    (hfield : (name, .bool b) ∈ fields) (default : Bool) :
    known.optional name toBool? default = some (if given name then b else default) :=
  h.optional (a := b) name hfield rfl default

lemma optional_string (h : known.Gives fields given) (name s : String)
    (hfield : (name, .string s) ∈ fields) (default : String) :
    known.optional name toString? default = some (if given name then s else default) :=
  h.optional (a := s) name hfield rfl default

lemma optional_size (h : known.Gives fields given) (name : String) (n : Nat)
    (hfield : (name, ofNat n) ∈ fields) (hsize : n < Word.bound) (default : Nat) :
    known.optional name toSize? default = some (if given name then n else default) :=
  h.optional name hfield (toSize?_ofNat hsize) default

lemma optional_strings (h : known.Gives fields given) (name : String) (items : List String)
    (hfield : (name, ofStrings items) ∈ fields) (default : List String) :
    known.optional name toStrings? default = some (if given name then items else default) :=
  h.optional name hfield (toStrings?_ofStrings items) default

lemma required_string (h : known.Gives fields given) (name s : String)
    (hfield : (name, .string s) ∈ fields) (hgiven : given name = true) :
    known.required name toString? = some s :=
  h.required name hfield rfl hgiven

end Fields.Gives

lemma isExact_ofNat {n : Nat} (h : n < Word.bound) : (ofNat n).IsExact :=
  .integer n (by omega) (by exact_mod_cast h)

lemma isExact_ofStrings (items : List String) : (ofStrings items).IsExact :=
  .array _ (List.forall_mem_map.mpr fun s _ => .string s)

end Json

/-! ### Roles and logging -/

/-- The candidates for the roles that are given, and others for the rest. -/
def ColumnRoles.overlay (r base : ColumnRoles) (given : String → Bool) : ColumnRoles where
  recordType := if given "record_type" then r.recordType else base.recordType
  amount := if given "amount" then r.amount else base.amount
  awardee := if given "awardee" then r.awardee else base.awardee
  recordId := if given "record_id" then r.recordId else base.recordId
  description := if given "description" then r.description else base.description

/-- **Roles are read over the default ones.** -/
lemma ColumnRoles.ofJson?_of_holds {r : ColumnRoles} {given : String → Bool} {json : Json}
    (h : Json.Holds r.fields given json) : ofJson? json = some (r.overlay {} given) := by
  obtain ⟨known, hknown, hgives⟩ := h.exists_gives (by simp [fields])
  have hnames : r.fields.map (·.1) = fieldNames := rfl
  rw [ofJson?, ← hnames, hknown, Option.bind_eq_bind, Option.bind_some]
  rw [hgives.optional_strings "record_type" r.recordType (by simp [fields]),
    hgives.optional_strings "amount" r.amount (by simp [fields]),
    hgives.optional_strings "awardee" r.awardee (by simp [fields]),
    hgives.optional_strings "record_id" r.recordId (by simp [fields]),
    hgives.optional_strings "description" r.description (by simp [fields])]
  rfl

/-- What is told of what is given, and else what is told by another. -/
def LogConfig.overlay (c base : LogConfig) (given : String → Bool) : LogConfig where
  logQueries := if given "log_queries" then c.logQueries else base.logQueries
  logTableProgress :=
    if given "log_table_progress" then c.logTableProgress else base.logTableProgress
  maxSqlChars := if given "max_sql_chars" then c.maxSqlChars else base.maxSqlChars

/-- **Logging is read over the default one.** -/
lemma LogConfig.ofJson?_of_holds {c : LogConfig} {given : String → Bool} {json : Json}
    (hsize : c.maxSqlChars < Word.bound) (h : Json.Holds c.fields given json) :
    ofJson? json = some (c.overlay {} given) := by
  obtain ⟨known, hknown, hgives⟩ := h.exists_gives (by simp [fields])
  have hnames : c.fields.map (·.1) = fieldNames := rfl
  rw [ofJson?, ← hnames, hknown, Option.bind_eq_bind, Option.bind_some]
  rw [hgives.optional_bool "log_queries" c.logQueries (by simp [fields]),
    hgives.optional_bool "log_table_progress" c.logTableProgress (by simp [fields]),
    hgives.optional_size "max_sql_chars" c.maxSqlChars (by simp [fields]) hsize]
  rfl

/-- A date convention is read if both of its fields are given. -/
lemma DateConvention.ofJson?_of_holds {d : DateConvention} {json : Json}
    (h : Json.Holds d.fields (fun _ => true) json) : ofJson? json = some d := by
  obtain ⟨known, hknown, hgives⟩ := h.exists_gives (by simp [fields])
  have hnames : d.fields.map (·.1) = ["table_suffix", "date_column"] := rfl
  rw [ofJson?, ← hnames, hknown, Option.bind_eq_bind, Option.bind_some]
  rw [hgives.required_string "table_suffix" d.tableSuffix (by simp [fields]) rfl,
    hgives.required_string "date_column" d.dateColumn (by simp [fields]) rfl]
  rfl

/-! ### Configurations -/

/-- Which fields are given: of a configuration, and inside of it of the roles and of the logging. -/
structure GivenFields where
  settings : String → Bool
  roles : String → Bool
  log : String → Bool

/-- Everything is given. -/
def GivenFields.all : GivenFields := ⟨fun _ => true, fun _ => true, fun _ => true⟩

namespace Config

/-- The settings that are given, and those of another configuration for the rest. -/
def overlay (c base : Config) (given : GivenFields) : Config where
  sampleSize := if given.settings "sample_size" then c.sampleSize else base.sampleSize
  defaultPageSize :=
    if given.settings "default_page_size" then c.defaultPageSize else base.defaultPageSize
  histogramLimit :=
    if given.settings "histogram_limit" then c.histogramLimit else base.histogramLimit
  awardeesPerTable :=
    if given.settings "awardees_per_table" then c.awardeesPerTable else base.awardeesPerTable
  awardeesGlobal :=
    if given.settings "awardees_global" then c.awardeesGlobal else base.awardeesGlobal
  topRecords := if given.settings "top_records" then c.topRecords else base.topRecords
  labelMaxChars := if given.settings "label_max_chars" then c.labelMaxChars else base.labelMaxChars
  ellipsis := if given.settings "ellipsis" then c.ellipsis else base.ellipsis
  attachmentSuffixes :=
    if given.settings "attachment_suffixes" then c.attachmentSuffixes else base.attachmentSuffixes
  roles := if given.settings "roles" then c.roles.overlay base.roles given.roles else base.roles
  dateConventions :=
    if given.settings "date_conventions" then c.dateConventions else base.dateConventions
  blankTypeLabel :=
    if given.settings "blank_type_label" then c.blankTypeLabel else base.blankTypeLabel
  blankAwardeeLabel :=
    if given.settings "blank_awardee_label" then c.blankAwardeeLabel else base.blankAwardeeLabel
  enableParallel :=
    if given.settings "enable_parallel" then c.enableParallel else base.enableParallel
  maxConcurrentReads :=
    if given.settings "max_concurrent_reads" then c.maxConcurrentReads else base.maxConcurrentReads
  log := if given.settings "log" then c.log.overlay base.log given.log else base.log

/-- An object holds the fields of a configuration that are given, and so do the objects for its
roles, its date conventions, all of whose fields are given, and its logging. -/
def Holds (c : Config) (given : GivenFields) (json : Json) : Prop :=
  ∃ roles dates log, Json.Holds c.roles.fields given.roles roles ∧
    List.Forall₂ (fun date d => Json.Holds (DateConvention.fields d) (fun _ => true) date) dates
      c.dateConventions ∧
    Json.Holds c.log.fields given.log log ∧
    Json.Holds (c.fields roles (.array dates) log) given.settings json

/-- All sizes are held by 64 bits. -/
structure FitsWords (c : Config) : Prop where
  sizes : ∀ size ∈ c.sizes, size.2 < Word.bound
  maxSqlChars : c.log.maxSqlChars < Word.bound

/-- The sizes are among the fields. -/
lemma mem_fields_of_mem_sizes {c : Config} {roles dates log : Json} {name : String} {n : Nat}
    (h : (name, n) ∈ c.sizes) : (name, Json.ofNat n) ∈ c.fields roles dates log := by
  have hsizes : ∀ size ∈ c.sizes, (size.1, Json.ofNat size.2) ∈ c.fields roles dates log := by
    simp [sizes, fields]
  exact hsizes _ h

/-- **What an object that holds some fields is read as**: the configuration with these fields, over
the default one of the machine. -/
theorem ofJsonOn?_of_holds {c : Config} (hwords : c.FitsWords) {given : GivenFields} {json : Json}
    (h : c.Holds given json) (processors : Nat) :
    ofJsonOn? processors json = some (c.overlay (ofProcessors processors) given) := by
  obtain ⟨roles, dates, log, hroles, hdates, hlog, hjson⟩ := h
  have hroles := ColumnRoles.ofJson?_of_holds hroles
  have hlog := LogConfig.ofJson?_of_holds hwords.maxSqlChars hlog
  have hdates := Json.toList?_array (hdates.imp fun _ _ => DateConvention.ofJson?_of_holds)
  obtain ⟨known, hknown, hgives⟩ := hjson.exists_gives (by simp [fields])
  have hnames : (c.fields roles (.array dates) log).map (·.1) = fieldNames := rfl
  have hsize : ∀ name n default, (name, n) ∈ c.sizes → known.optional name Json.toSize? default =
      some (if given.settings name then n else default) := fun name n default hmem =>
    hgives.optional_size name n (mem_fields_of_mem_sizes hmem) (hwords.sizes _ hmem) default
  rw [ofJsonOn?, ← hnames, hknown, Option.bind_eq_bind, Option.bind_some]
  dsimp only
  rw [hsize "sample_size" c.sampleSize _ (by simp [sizes]),
    hsize "default_page_size" c.defaultPageSize _ (by simp [sizes]),
    hsize "histogram_limit" c.histogramLimit _ (by simp [sizes]),
    hsize "awardees_per_table" c.awardeesPerTable _ (by simp [sizes]),
    hsize "awardees_global" c.awardeesGlobal _ (by simp [sizes]),
    hsize "top_records" c.topRecords _ (by simp [sizes]),
    hsize "label_max_chars" c.labelMaxChars _ (by simp [sizes]),
    hsize "max_concurrent_reads" c.maxConcurrentReads _ (by simp [sizes]),
    hgives.optional_string "ellipsis" c.ellipsis (by simp [fields]),
    hgives.optional_strings "attachment_suffixes" c.attachmentSuffixes (by simp [fields]),
    hgives.optional "roles" (by simp [fields]) hroles,
    hgives.optional "date_conventions" (by simp [fields]) hdates,
    hgives.optional_string "blank_type_label" c.blankTypeLabel (by simp [fields]),
    hgives.optional_string "blank_awardee_label" c.blankAwardeeLabel (by simp [fields]),
    hgives.optional_bool "enable_parallel" c.enableParallel (by simp [fields]),
    hgives.optional "log" (by simp [fields]) hlog]
  rfl

/-! ### Loading -/

/-- The sizes are not zero, and there are suffixes, none of which is empty. -/
structure IsUsable (c : Config) : Prop where
  sizes : ∀ size ∈ c.sizes, size.2 ≠ 0
  suffixes_ne_nil : c.attachmentSuffixes ≠ []
  suffixes_ne_empty : ∀ suffix ∈ c.attachmentSuffixes, suffix ≠ ""

/-- **Which configurations are accepted.** -/
lemma check_eq_ok_iff {c : Config} : c.check = .ok () ↔ c.IsUsable := by
  have hcheck : c.check = .ok () ↔ c.fault? = none := by
    rw [check]
    cases c.fault? <;> simp
  rw [hcheck, fault?]
  cases hfind : c.sizes.find? fun size => size.2 == 0 with
  | some size =>
      refine iff_of_false (fun h => nomatch h) fun h => ?_
      exact h.sizes size (List.mem_of_find?_eq_some hfind) (by simpa using List.find?_some hfind)
  | none =>
      have hsizes : ∀ size ∈ c.sizes, size.2 ≠ 0 := by simpa using hfind
      have hsuffixes : (c.attachmentSuffixes.isEmpty || c.attachmentSuffixes.any String.isEmpty) =
          false ↔ c.attachmentSuffixes ≠ [] ∧ ∀ suffix ∈ c.attachmentSuffixes, suffix ≠ "" := by
        simp
      dsimp only
      rw [ite_eq_right_iff, imp_iff_not (fun h => nomatch h), Bool.not_eq_true, hsuffixes]
      exact ⟨fun h => ⟨hsizes, h.1, h.2⟩, fun h => ⟨h.suffixes_ne_nil, h.suffixes_ne_empty⟩⟩

/-- The default configuration is accepted, on every machine. -/
lemma isUsable_ofProcessors (processors : Nat) : (ofProcessors processors).IsUsable := by
  constructor
  · simp [sizes, ofProcessors]
  · simp [ofProcessors]
  · simp [ofProcessors]

/-- The sizes are mixed one by one. -/
lemma sizes_overlay (c base : Config) (given : GivenFields) : (c.overlay base given).sizes =
    List.zipWith (fun x y => (x.1, if given.settings x.1 then x.2 else y.2)) c.sizes base.sizes :=
  rfl

/-- **What is mixed from accepted configurations is accepted.** -/
lemma IsUsable.overlay {c base : Config} (hc : c.IsUsable) (hbase : base.IsUsable)
    (given : GivenFields) : (c.overlay base given).IsUsable := by
  have hsuffixes : (c.overlay base given).attachmentSuffixes = c.attachmentSuffixes ∨
      (c.overlay base given).attachmentSuffixes = base.attachmentSuffixes := by
    by_cases hgiven : given.settings "attachment_suffixes" = true
    · exact .inl (if_pos hgiven)
    · exact .inr (if_neg hgiven)
  refine ⟨fun size hsize => ?_, ?_, ?_⟩
  · rw [sizes_overlay, ← List.map_uncurry_zip_eq_zipWith] at hsize
    obtain ⟨⟨x, y⟩, hmem, rfl⟩ := List.mem_map.mp hsize
    obtain ⟨hx, hy⟩ := List.of_mem_zip hmem
    show (if given.settings x.1 then x.2 else y.2) ≠ 0
    split
    · exact hc.sizes x hx
    · exact hbase.sizes y hy
  · rcases hsuffixes with h | h <;> rw [h]
    · exact hc.suffixes_ne_nil
    · exact hbase.suffixes_ne_nil
  · rcases hsuffixes with h | h <;> rw [h]
    · exact hc.suffixes_ne_empty
    · exact hbase.suffixes_ne_empty

/-- If everything is given, nothing is left to the other configuration. -/
lemma overlay_all (c base : Config) : c.overlay base .all = c := rfl

lemma holds_dates (dates : List DateConvention) :
    List.Forall₂ (fun date d => Json.Holds (DateConvention.fields d) (fun _ => true) date)
      (dates.map DateConvention.toJson) dates :=
  List.forall₂_map_left_iff.mpr (List.forall₂_same.mpr fun d _ => Json.holds_object d.fields)

lemma holds_encode (c : Config) : c.Holds .all c.encode :=
  ⟨_, _, _, Json.holds_object _, holds_dates _, Json.holds_object _, Json.holds_object _⟩

/-- The settings are exact. -/
lemma isExact_encode {c : Config} (hwords : c.FitsWords) : c.encode.IsExact := by
  have hsizes : ∀ size ∈ c.sizes, (Json.ofNat size.2).IsExact := fun size hsize =>
    Json.isExact_ofNat (hwords.sizes size hsize)
  have hroles : c.roles.toJson.IsExact := by
    refine .object _ ?_
    simp [ColumnRoles.fields, Json.isExact_ofStrings]
  have hdates : (Json.array (c.dateConventions.map DateConvention.toJson)).IsExact := by
    refine .array _ (List.forall_mem_map.mpr fun d _ => .object _ ?_)
    simp [DateConvention.fields, Json.IsExact.string]
  have hlog : c.log.toJson.IsExact := by
    refine .object _ ?_
    simp [LogConfig.fields, Json.IsExact.bool, Json.isExact_ofNat hwords.maxSqlChars]
  refine .object _ ?_
  simp only [sizes, List.forall_mem_cons] at hsizes
  simp [allFields, fields, hsizes, hroles, hdates, hlog, Json.IsExact.string, Json.IsExact.bool,
    Json.isExact_ofStrings]

/-- A text of an object that holds some fields is read as the mixture, which is then checked. -/
lemma loadOn_eq {c : Config} (hwords : c.FitsWords) {given : GivenFields} {json : Json}
    (hholds : c.Holds given json) {text : String} (htext : Json.IsDocument text json)
    (processors : Nat) : loadOn processors text = do
      (c.overlay (ofProcessors processors) given).check
      return c.overlay (ofProcessors processors) given := by
  rw [loadOn, htext.ofText?_eq, Option.bind_some, ofJsonOn?_of_holds hwords hholds]

/-- **What the text of a configuration is loaded as.**  Let a text be a document of an object that
holds some fields of a configuration, inside of its roles and its logging too, in any order and
among any others.  On every machine it is loaded as the mixture of these fields with the default
ones of the machine if the mixture is accepted, and refused as a configuration if not.  If the
configuration is accepted, so is the mixture, and the text of all its settings, on one line or on
many, is loaded as the configuration itself. -/
theorem load_overlay {c : Config} (hwords : c.FitsWords) {given : GivenFields} {json : Json}
    (hholds : c.Holds given json) {text : String} (htext : Json.IsDocument text json)
    (processors : Nat) :
    let mixture := c.overlay (ofProcessors processors) given
    (mixture.check = .ok () → loadOn processors text = .ok mixture) ∧
    (∀ e, mixture.check = .error e →
      loadOn processors text = .error e ∧ ∃ reason, e = .configuration reason) ∧
    (c.check = .ok () → mixture.check = .ok () ∧
      loadOn processors c.encode.compact = .ok c ∧
      loadOn processors c.encode.pretty = .ok c) := by
  have hload := loadOn_eq hwords hholds htext processors
  refine ⟨fun hcheck => ?_, fun e hcheck => ⟨?_, ?_⟩, fun hcheck => ⟨?_, ?_, ?_⟩⟩
  · rw [hload, hcheck]
    rfl
  · rw [hload, hcheck]
    rfl
  · rw [check] at hcheck
    split at hcheck
    · exact ⟨_, (Except.error.inj hcheck).symm⟩
    · cases hcheck
  · exact check_eq_ok_iff.mpr ((check_eq_ok_iff.mp hcheck).overlay
      (isUsable_ofProcessors processors) given)
  · rw [loadOn_eq hwords c.holds_encode (isExact_encode hwords).isDocument_compact, overlay_all,
      hcheck]
    rfl
  · rw [loadOn_eq hwords c.holds_encode (isExact_encode hwords).isDocument_pretty, overlay_all,
      hcheck]
    rfl

/-- A configuration that differs from the default one in three settings. -/
def threeSettings : Config :=
  { sampleSize := 7, topRecords := 3, roles := { amount := ["Total"] } }

/-- The sample size and the candidates for the amount. -/
def twoFields : GivenFields :=
  ⟨(["sample_size", "roles"].contains ·), (· == "amount"), fun _ => true⟩

/-- An object that holds two of the three settings, and members of other names. -/
def twoSettings : Json :=
  .object [("comment", .null),
    ("roles", .object [("note", .ofNat 0), ("amount", .ofStrings ["Total"])]),
    ("sample_size", .ofNat 7)]

lemma holds_twoSettings : threeSettings.Holds twoFields twoSettings := by
  refine ⟨.object [("note", .ofNat 0), ("amount", .ofStrings ["Total"])], _, _, ⟨_, rfl, ?_⟩,
    holds_dates _, Json.holds_object _, ⟨_, rfl, ?_⟩⟩
  · exact .refl _
  · exact .swap _ _ []

lemma isExact_twoSettings : twoSettings.IsExact := by
  refine .object _ ?_
  simp only [List.forall_mem_cons]
  refine ⟨.null, .object _ ?_, Json.isExact_ofNat (by decide), by simp⟩
  simp only [List.forall_mem_cons]
  exact ⟨Json.isExact_ofNat (by decide), Json.isExact_ofStrings _, by simp⟩

/-- No samples, and nothing else. -/
def noSamples : Json := .object [("sample_size", .ofNat 0)]

lemma holds_noSamples : Holds { sampleSize := 0 }
    ⟨(· == "sample_size"), fun _ => true, fun _ => true⟩ noSamples :=
  ⟨_, _, _, Json.holds_object _, holds_dates _, Json.holds_object _, ⟨_, rfl, .refl _⟩⟩

lemma isExact_noSamples : noSamples.IsExact :=
  .object _ (List.forall_mem_singleton.mpr (Json.isExact_ofNat (by decide)))

/-- Two settings are loaded over the default ones of a machine with four processors, and members of
other names are passed over; a size of zero is refused. -/
theorem load_twoSettings :
    loadOn 4 twoSettings.compact =
        .ok { sampleSize := 7, roles := { amount := ["Total"] }, maxConcurrentReads := 4 } ∧
      twoSettings.compact = "\x7b\"comment\":null,\"roles\":\x7b\"note\":0,\"amount\":" ++
        "[\"Total\"]\x7d,\"sample_size\":7\x7d" ∧
      loadOn 4 noSamples.compact =
        .error (.configuration "sample_size must be greater than zero") ∧
      noSamples.compact = "\x7b\"sample_size\":0\x7d" := by
  have hmixed := (load_overlay (c := threeSettings) ⟨by decide, by decide⟩ holds_twoSettings
    isExact_twoSettings.isDocument_compact 4).1 (by decide)
  have hrefused := (load_overlay (c := { sampleSize := 0 }) ⟨by decide, by decide⟩
    holds_noSamples isExact_noSamples.isDocument_compact 4).2.1 _ rfl
  exact ⟨hmixed, by decide +kernel, hrefused.1, by decide +kernel⟩

end Config

end TableExplorer
