import TableExplorer.Proofs.Statement.Tokens
import TableExplorer.Proofs.View.FoldedSearch

/-!
The clause of a search.  Whatever the names of the columns, the clause is read as the same sequence
of tokens, with a test for each column in which only the name differs; and whatever the text that is
searched for, the clause is the same, since the text is bound to it as a parameter.

* `Condition.reads_term`: the test of one column; `Condition.reads_terms`: the tests of all columns.
* `Search.whereClause_tokens`: **the clause of a search has a fixed structure**.
-/

namespace TableExplorer

namespace Condition

/-- The tokens of the test of one column. -/
def termTokens (column : String) : List Token :=
  [.word "unaccent_lower", .sign "(", .word "CAST", .sign "(", .name column, .word "AS",
    .word "TEXT", .sign ")", .sign ")", .word "LIKE", .parameter "?1", .word "ESCAPE", .text "\\"]

/-- The tokens of a clause that tests some columns. -/
def clauseTokens (columns : List String) : List Token :=
  [.word "WHERE", .sign "("] ++ [Token.word "OR"].intercalate (columns.map termTokens) ++
    [.sign ")"]

/-- The beginning of a test is read up to its column. -/
lemma reads_cast (rest : List Char) :
    Token.Reads ("unaccent_lower(CAST(".toList ++ rest)
      [.word "unaccent_lower", .sign "(", .word "CAST", .sign "("] rest :=
  .token rfl rfl (.token rfl rfl (.token rfl rfl (.token rfl rfl (.done rest))))

/-- The end of a test is read, with the escape character between its quotes. -/
lemma reads_like {rest : List Char} (hrest : rest.head? ≠ some '\'') :
    Token.Reads (" AS TEXT)) LIKE ?1 ESCAPE '\\'".toList ++ rest)
      [.word "AS", .word "TEXT", .sign ")", .sign ")", .word "LIKE", .parameter "?1",
        .word "ESCAPE", .text "\\"] rest := by
  have hescape : Token.read? ("'\\'".toList ++ rest) = some (.text "\\", rest) :=
    @Token.read?_text ['\\'] rest (by decide) hrest
  have hend : Token.Reads (" ESCAPE '\\'".toList ++ rest) [.word "ESCAPE", .text "\\"] rest :=
    .blanks rfl (.token rfl rfl (.blanks rfl (.token rfl hescape (.done rest))))
  have hlike : Token.Reads (" LIKE ?1 ESCAPE '\\'".toList ++ rest)
      [.word "LIKE", .parameter "?1", .word "ESCAPE", .text "\\"] rest :=
    .blanks rfl (.token rfl rfl (.blanks rfl (.token rfl rfl hend)))
  have hclose : Token.Reads (")) LIKE ?1 ESCAPE '\\'".toList ++ rest)
      [.sign ")", .sign ")", .word "LIKE", .parameter "?1", .word "ESCAPE", .text "\\"] rest :=
    .token rfl rfl (.token rfl rfl hlike)
  exact .blanks rfl (.token rfl rfl (.blanks rfl (.token rfl rfl hclose)))

/-- The characters of three texts, one after the other. -/
lemma toList_append_append (a b c : String) :
    (a ++ b ++ c).toList = a.toList ++ (b.toList ++ c.toList) := by
  rw [String.toList_append, String.toList_append, List.append_assoc]

/-- The text of the test of one column. -/
lemma toList_term (column : Identifier) :
    (term column).toList = "unaccent_lower(CAST(".toList ++
      (column.quoted.toList ++ " AS TEXT)) LIKE ?1 ESCAPE '\\'".toList) :=
  toList_append_append _ _ _

/-- **The test of one column** is read as such, and what follows it is left. -/
lemma reads_term (column : Identifier) {rest : List Char} (hrest : rest.head? ≠ some '\'') :
    Token.Reads ((term column).toList ++ rest) (termTokens column.name) rest := by
  have hspace : (" AS TEXT)) LIKE ?1 ESCAPE '\\'".toList ++ rest).head? ≠ some '"' := by
    intro h
    exact absurd (Option.some.inj h) (by decide)
  rw [toList_term, List.append_assoc, List.append_assoc]
  exact (reads_cast _).trans ((Token.reads_quoted column hspace).trans (reads_like hrest))

/-- The text of the tests of some columns. -/
def termsText (columns : List Identifier) : List Char :=
  " OR ".toList.intercalate (columns.map fun column => (term column).toList)

/-- The tokens of the tests of some columns. -/
def termsTokens (columns : List Identifier) : List Token :=
  [Token.word "OR"].intercalate (columns.map fun column => termTokens column.name)

lemma termsText_singleton (column : Identifier) : termsText [column] = (term column).toList := by
  rw [termsText, List.map_singleton, List.intercalate_singleton]

lemma termsText_cons_cons (column next : Identifier) (columns : List Identifier) :
    termsText (column :: next :: columns) =
      (term column).toList ++ (" OR ".toList ++ termsText (next :: columns)) := by
  rw [termsText, List.map_cons, List.map_cons, List.intercalate_cons_cons, List.append_assoc]
  rfl

lemma termsTokens_cons_cons (column next : Identifier) (columns : List Identifier) :
    termsTokens (column :: next :: columns) =
      termTokens column.name ++ ([.word "OR"] ++ termsTokens (next :: columns)) := by
  rw [termsTokens, List.map_cons, List.map_cons, List.intercalate_cons_cons, List.append_assoc]
  rfl

/-- The tests begin with a letter. -/
lemma exists_termsText_eq (column : Identifier) (columns : List Identifier) :
    ∃ more, termsText (column :: columns) = 'u' :: more := by
  obtain ⟨more, hmore⟩ : ∃ more, (term column).toList = 'u' :: more := by
    rw [toList_term]
    generalize column.quoted.toList ++ _ = rest
    exact ⟨_, rfl⟩
  cases columns with
  | nil => exact ⟨more, by rw [termsText_singleton, hmore]⟩
  | cons next columns =>
      refine ⟨more ++ (" OR ".toList ++ termsText (next :: columns)), ?_⟩
      rw [termsText_cons_cons, hmore, List.cons_append]

/-- The word between two tests is read. -/
lemma reads_or {rest : List Char} (hrest : rest.dropWhile Token.isBlank = rest) :
    Token.Reads (" OR ".toList ++ rest) [.word "OR"] rest :=
  .blanks rfl (.token rfl rfl (.blanks (congrArg some hrest) (.done rest)))

/-- **The tests of some columns** are read as such, up to the bracket behind them. -/
lemma reads_terms (column : Identifier) (columns : List Identifier) :
    Token.Reads (termsText (column :: columns) ++ [')']) (termsTokens (column :: columns))
      [')'] := by
  induction columns generalizing column with
  | nil =>
      rw [termsText_singleton]
      exact reads_term column (by decide)
  | cons next columns ih =>
      obtain ⟨more, hmore⟩ := exists_termsText_eq next columns
      have hor : Token.Reads (" OR ".toList ++ (termsText (next :: columns) ++ [')']))
          [.word "OR"] (termsText (next :: columns) ++ [')']) := by
        refine reads_or ?_
        rw [hmore]
        rfl
      rw [termsText_cons_cons, termsTokens_cons_cons, List.append_assoc, List.append_assoc]
      refine (reads_term column ?_).trans (hor.trans (ih next))
      intro h
      exact absurd (Option.some.inj h) (by decide)

/-- The text of the tests of some columns, between brackets. -/
lemma toList_text (c : Condition) : c.text.toList = '(' :: (termsText c.columns ++ [')']) := by
  have htext : c.text.toList = "(".toList ++ ((" OR ".intercalate (c.columns.map term)).toList ++
      ")".toList) := toList_append_append _ _ _
  rw [htext, String.toList_intercalate, List.map_map]
  rfl

/-- The clause of some columns is read as its tokens. -/
lemma readAll?_clause {c : Condition} (h : c.columns ≠ []) :
    Token.readAll? ("WHERE " ++ c.text).toList = some (clauseTokens (c.columns.map (·.name))) := by
  obtain ⟨column, columns, hcolumns⟩ := List.exists_cons_of_ne_nil h
  obtain ⟨more, hmore⟩ := exists_termsText_eq column columns
  have hclose : Token.Reads [')'] [.sign ")"] [] := .token rfl rfl (.done [])
  have hwhere : ∀ rest,
      Token.Reads ("WHERE ".toList ++ '(' :: rest) [.word "WHERE", .sign "("] rest :=
    fun rest => .token rfl rfl (.blanks rfl (.token rfl rfl (.done rest)))
  have htokens : clauseTokens (c.columns.map (·.name)) =
      [.word "WHERE", .sign "("] ++ (termsTokens c.columns ++ [.sign ")"]) := by
    rw [clauseTokens, termsTokens, List.map_map, List.append_assoc]
    rfl
  rw [htokens, String.toList_append, toList_text, hcolumns]
  exact Token.readAll?_of_reads ((hwhere _).trans ((reads_terms column columns).trans hclose))

end Condition

/-! ### The clause of a search -/

/-- **The clause of a search has a fixed structure.**  For columns whose names can be written, there
is one clause for all texts that can be searched for and are not blank.  Without columns it is
empty, as everything is found; otherwise it is read as a test for each column, in which only the
name differs.  A quoted identifier is read as its name wherever it stands, and what follows it is
left, unless this is a quote. -/
theorem Search.whereClause_tokens (columns : List String)
    (hnames : ∀ name ∈ columns, Identifier.fault? name = none) :
    (∃ clause : String,
      (∀ query, checkSearchText query = .ok () → Text.trim query ≠ "" →
        ∃ search, Search.ofQuery columns query = .ok search ∧ search.whereClause = clause) ∧
      (columns = [] → clause = "") ∧
      (columns ≠ [] →
        Token.readAll? clause.toList = some (Condition.clauseTokens columns))) ∧
    ∀ (id : Identifier) (rest : List Char), rest.head? ≠ some '"' →
      Token.read? (id.quoted.toList ++ rest) = some (.name id.name, rest) := by
  obtain ⟨ids, rfl⟩ := Identifier.exists_map_name hnames
  refine ⟨?_, fun id rest hrest => Token.read?_quoted id hrest⟩
  cases ids with
  | nil =>
      refine ⟨"", fun query hquery _ => ⟨.all, ?_, rfl⟩, fun _ => rfl, fun h => absurd rfl h⟩
      rw [ofQuery_eq hquery, List.map_nil, List.isEmpty_nil, Bool.or_true, if_pos rfl]
  | cons id ids =>
      refine ⟨"WHERE " ++ (Condition.mk (id :: ids) "").text, fun query hquery hblank =>
        ⟨⟨Text.trim query, some ⟨id :: ids, patternOf (Text.trim query)⟩⟩, ?_, rfl⟩,
        fun h => ?_, fun _ => ?_⟩
      · have hsome : ¬((Text.trim query).isEmpty ||
            ((id :: ids).map (·.name)).isEmpty) = true := by
          rw [List.map_cons, List.isEmpty_cons, Bool.or_false, String.isEmpty_iff]
          exact hblank
        rw [ofQuery_eq hquery, if_neg hsome]
      · cases h
      · exact Condition.readAll?_clause (List.cons_ne_nil id ids)

/-- Quotes, comments and separators in the names of columns stay in these names. -/
theorem whereClause_of_hostile_names :
    (∀ name ∈ ["a\"", "\"\" OR 1=1; --", "/* it's */"], Identifier.fault? name = none) ∧
      ∃ clause : String,
        (∀ query, checkSearchText query = .ok () → Text.trim query ≠ "" →
          ∃ search, Search.ofQuery ["a\"", "\"\" OR 1=1; --", "/* it's */"] query = .ok search ∧
            search.whereClause = clause) ∧
        Token.readAll? clause.toList =
          some (Condition.clauseTokens ["a\"", "\"\" OR 1=1; --", "/* it's */"]) ∧
        ∀ (id : Identifier) (rest : List Char), rest.head? ≠ some '"' →
          Token.read? (id.quoted.toList ++ rest) = some (.name id.name, rest) := by
  have hnames : ∀ name ∈ ["a\"", "\"\" OR 1=1; --", "/* it's */"],
      Identifier.fault? name = none := by decide +kernel
  obtain ⟨⟨clause, hclause, -, htokens⟩, hquoted⟩ := Search.whereClause_tokens _ hnames
  exact ⟨hnames, clause, hclause, htokens (List.cons_ne_nil _ _), hquoted⟩

/-- Without columns the clause is empty, and not a clause without tests. -/
theorem whereClause_of_no_columns :
    (∀ name ∈ ([] : List String), Identifier.fault? name = none) ∧
      checkSearchText "x" = .ok () ∧ Text.trim "x" ≠ "" ∧
      ∃ search, Search.ofQuery [] "x" = .ok search ∧
        ¬Token.readAll? search.whereClause.toList = some (Condition.clauseTokens []) := by
  refine ⟨fun name hname => absurd hname List.not_mem_nil, by decide +kernel, by decide +kernel,
    .all, rfl, ?_⟩
  have hnothing : Token.readAll? Search.all.whereClause.toList = some [] :=
    Token.readAll?_of_reads (.done [])
  rw [hnothing]
  decide

end TableExplorer
