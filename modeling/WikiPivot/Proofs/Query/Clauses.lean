import WikiPivot.Proofs.Query.Keys
import WikiPivot.Proofs.Query.Reading

/-! # Clauses as texts

The text of a statement is made of the texts of its clauses. A clause that reads a joined value has
the alias of that join in it, whoever hands the alias out.
-/
namespace WikiPivot

open Sql

def columnText (table column : Text) : Text := table ++ '.' :: identifier column

namespace StoreSettings

variable (store : StoreSettings)

def entityNameText : Text := columnText (identifier store.entityTable) store.entityName

def entityIdText : Text := columnText (identifier store.entityTable) store.entityId

def valueText (name : Text) : Text := columnText name store.attributeValue

def aggregateText (name : Text) : Text :=
  identifier store.aggregate ++ '(' :: (store.valueText name ++
    (", ".toList ++ ((Literal.ofText store.separator).quoted ++ [')'])))

def joinText (entry : Text × Text) : Text :=
  "LEFT JOIN ".toList ++ (identifier store.attributeTable ++ (" AS ".toList ++ (entry.2 ++
    (" ON ".toList ++ (columnText entry.2 store.attributeEntity ++ (" = ".toList ++
      (store.entityIdText ++ (" AND ".toList ++ (columnText entry.2 store.attributeKey ++
        (" = ".toList ++ (Literal.ofText entry.1).quoted))))))))))

def anchorText (name : Text) : Text :=
  "WHERE ".toList ++ (store.entityIdText ++ (" = ".toList ++ columnText name store.attributeEntity))

def conditionTexts (joins : Joins) (conditions : List (Logic × Text)) : List Text :=
  match joins.entries with
  | (_, name) :: _ =>
    store.anchorText name :: conditions.map fun (logic, condition) =>
      logic.keyword ++ ' ' :: condition
  | [] =>
    match conditions with
    | [] => []
    | (_, condition) :: rest =>
      ("WHERE ".toList ++ condition) :: rest.map fun (logic, condition) =>
        logic.keyword ++ ' ' :: condition

def statementText (joins : Joins) (selected : List Text) (order : Text)
    (conditions : List (Logic × Text)) : Text :=
  [' '].intercalate
    (("SELECT ".toList ++ ", ".toList.intercalate selected) ::
      ("FROM ".toList ++ identifier store.entityTable) ::
      (joins.entries.map store.joinText ++ store.conditionTexts joins conditions ++
        ["GROUP BY ".toList ++ store.entityNameText, order]))

end StoreSettings

def Filter.text (filter : Filter) (value : Text) : Text :=
  value ++ ' ' :: (filter.comparator.keyword ++ ' ' :: filter.value.quoted)

def orderText (value : Text) (direction : Direction) : Text :=
  "ORDER BY ".toList ++ (value ++ ' ' :: direction.keyword)

theorem text_parted (mark : Text) (parts : List (List Token)) :
    Sql.text (parted mark parts) = mark.intercalate (parts.map Sql.text) := by
  induction parts with
  | nil => rfl
  | cons part rest ih =>
    cases rest with
    | nil => simp [parted]
    | cons next rest =>
      have hparts : parted mark (part :: next :: rest) =
          part ++ .word mark :: parted mark (next :: rest) := rfl
      rw [hparts, text_append, text_cons, ih]
      simp [List.intercalate, Token.text]

theorem entries_eq (joins : Joins) :
    joins.entries = joins.keys.zipIdx.map fun (key, slot) => (key, Joins.aliasAt slot) := by
  rw [Joins.entries, Joins.aliases, List.zip_map_right, List.zipIdx_eq_zip_range',
    List.range_eq_range']
  rfl

section

variable (store : StoreSettings)

theorem text_column (use : ColumnUse) :
    Sql.text use.tokens = columnText use.table.text use.column := by
  simp only [ColumnUse.tokens, text_cons, text_nil, List.append_nil]
  rfl

def referenceText (shown : Text → Text) : Operand → Text
  | .entityName => store.entityNameText
  | .joined slot => shown (Joins.aliasAt slot)

theorem text_operand (operand : Operand) :
    Sql.text (operand.tokens store) = referenceText store store.valueText operand := by
  cases operand <;> exact text_column _

theorem text_selected (operand : Operand) :
    Sql.text (operand.selected store) = referenceText store store.aggregateText operand := by
  cases operand with
  | entityName => exact text_operand store .entityName
  | joined slot =>
    simp only [Operand.selected, text_append, text_cons, text_nil, text_operand, List.append_assoc,
      List.append_nil]
    rfl

theorem text_joinClause (key : Text) (slot : Nat) :
    Sql.text (Query.joinClause store key slot) = store.joinText (key, Joins.aliasAt slot) := by
  simp only [Query.joinClause, text_append, text_cons, text_nil, text_column, List.append_assoc,
    List.append_nil]
  rfl

theorem text_anchor :
    Sql.text (word "WHERE " :: Term.anchor.tokens store) =
      store.anchorText (Joins.aliasAt 0) := by
  simp only [Term.tokens, text_append, text_cons, text_column]
  rfl

theorem text_comparison (operand : Operand) (filter : Filter) :
    Sql.text ((Term.comparison operand filter.comparator filter.value).tokens store) =
      filter.text (referenceText store store.valueText operand) := by
  simp only [Term.tokens, text_append, text_cons, text_nil, text_operand, List.append_nil]
  rfl

theorem text_joinClauses (query : Query) :
    (query.joinClauses store).map Sql.text = query.joins.entries.map store.joinText := by
  rw [Query.joinClauses, entries_eq, List.map_map, List.map_map]
  apply List.map_congr_left
  rintro ⟨key, slot⟩ -
  exact text_joinClause store key slot

theorem joinClauses_eq_filter (query : Query) :
    (query.clauses store).filter (·.head? = some (word "LEFT JOIN ")) =
      query.joinClauses store := by
  have hall : ∀ clause ∈ query.joinClauses store, clause.head? = some (word "LEFT JOIN ") := by
    intro clause hclause
    obtain ⟨entry, -, rfl⟩ := List.mem_map.mp hclause
    rfl
  have hterms : ∀ clause ∈ query.termClauses store, clause.head? ≠ some (word "LEFT JOIN ") := by
    intro clause hclause
    unfold Query.termClauses at hclause
    split at hclause
    · exact absurd hclause List.not_mem_nil
    · rcases List.mem_cons.mp hclause with rfl | hrest
      · simp [word]
      · obtain ⟨⟨logic, term⟩, -, rfl⟩ := List.mem_map.mp hrest
        cases logic <;> simp [word, Logic.keyword]
  have horder : (query.orderClause store).head? ≠ some (word "LEFT JOIN ") := by
    unfold Query.orderClause
    split <;> simp [word]
  have hjoins : (query.joinClauses store).filter (·.head? = some (word "LEFT JOIN ")) =
      query.joinClauses store := List.filter_eq_self.mpr fun clause hclause => by
    simpa using hall clause hclause
  have hother : (query.termClauses store).filter (·.head? = some (word "LEFT JOIN ")) = [] :=
    List.filter_eq_nil_iff.mpr fun clause hclause => by
      simpa using hterms clause hclause
  have hlast : [Query.groupClause store, query.orderClause store].filter
      (·.head? = some (word "LEFT JOIN ")) = [] := by
    refine List.filter_eq_nil_iff.mpr fun clause hclause => ?_
    rcases List.mem_cons.mp hclause with rfl | hclause
    · simp [Query.groupClause, word]
    · rw [List.mem_singleton.mp hclause]
      simpa using horder
  rw [Query.clauses, List.filter_append, List.filter_append, List.filter_cons_of_neg,
    List.filter_cons_of_neg, hjoins, hother, hlast, List.append_nil, List.append_nil]
  · simp [Query.fromClause, word]
  · simp [Query.selectClause, word]

end

section

variable (store : StoreSettings) {spec : TableSpec} (h : spec.columns ≠ []) (sentinel : Text)
  (override : Option SortKey)

def sortText (read : Text → Text) : Option SortKey → Text
  | none => "ORDER BY 1 ASC".toList
  | some sort => orderText (read sort.key) sort.direction

include h

theorem sql_eq_intercalate :
    (Query.ofSpec sentinel spec override).sql store =
      [' '].intercalate
        (((Query.ofSpec sentinel spec override).clauses store).map Sql.text) := by
  rw [Query.sql, Query.statement, ofSpec_yieldsNothing h, if_neg (by decide), text_parted]

theorem text_termClauses :
    let query := Query.ofSpec sentinel spec override
    (query.termClauses store).map Sql.text =
      store.conditionTexts query.joins (spec.filters.map fun filter =>
        (filter.logic, filter.text
          (referenceText store store.valueText
            (Query.operand sentinel query.joins filter.key)))) := by
  intro query
  let term (filter : Filter) : Term :=
    .comparison (Query.operand sentinel query.joins filter.key) filter.comparator filter.value
  let condition (filter : Filter) : Text :=
    filter.text
      (referenceText store store.valueText (Query.operand sentinel query.joins filter.key))
  have hterm : ∀ filter, Sql.text ((term filter).tokens store) = condition filter := fun filter =>
    text_comparison store _ filter
  have hrest : ∀ filters : List Filter,
      (filters.map fun filter => (filter.logic, term filter)).map
          (fun entry => Sql.text (.word entry.1.keyword :: word " " :: entry.2.tokens store)) =
        (filters.map fun filter => (filter.logic, condition filter)).map
          (fun entry => entry.1.keyword ++ ' ' :: entry.2) := by
    intro filters
    rw [List.map_map, List.map_map]
    apply List.map_congr_left
    intro filter _
    simp only [Function.comp_apply, text_cons, hterm]
    rfl
  have hterms : query.terms = (if query.joins.keys.isEmpty then [] else [(.and, .anchor)]) ++
      spec.filters.map fun filter => (filter.logic, term filter) := terms_ofSpec h sentinel override
  have hentries := entries_eq query.joins
  cases hkeys : query.joins.keys with
  | nil =>
    rw [hkeys] at hterms hentries
    cases hfilters : spec.filters with
    | nil =>
      rw [hfilters] at hterms
      simp only [Query.termClauses, hterms, StoreSettings.conditionTexts, hentries]
      rfl
    | cons filter filters =>
      rw [hfilters] at hterms
      have hfirst : Sql.text (word "WHERE " :: (term filter).tokens store) =
          "WHERE ".toList ++ condition filter := by
        rw [text_cons, hterm]
        rfl
      have hlater := hrest filters
      simp only [List.map_map] at hlater
      simp only [Query.termClauses, hterms, StoreSettings.conditionTexts, hentries]
      simp only [List.isEmpty_nil, if_true, List.nil_append, List.map_cons, List.map_map,
        hfirst, List.zipIdx_nil, List.map_nil]
      exact congrArg _ hlater
  | cons key keys =>
    rw [hkeys] at hterms hentries
    have hlater := hrest spec.filters
    simp only [List.map_map] at hlater
    simp only [Query.termClauses, hterms, StoreSettings.conditionTexts, hentries]
    simp only [List.isEmpty_cons, Bool.false_eq_true, if_false, List.cons_append, List.nil_append,
      List.map_cons, List.map_map, text_anchor, List.zipIdx_cons]
    exact congrArg _ hlater

/-- The statement of a query, clause by clause. -/
theorem sql_ofSpec :
    let query := Query.ofSpec sentinel spec override
    let read := fun key => referenceText store store.valueText
      (Query.operand sentinel query.joins key)
    query.sql store = store.statementText query.joins
      (spec.columns.map fun column => referenceText store store.aggregateText
        (Query.operand sentinel query.joins column.key))
      (sortText read (Query.effectiveSort spec override))
      (spec.filters.map fun filter => (filter.logic, filter.text (read filter.key))) := by
  intro query read
  have hselect : Sql.text (query.selectClause store) = "SELECT ".toList ++ ", ".toList.intercalate
      (spec.columns.map fun column => referenceText store store.aggregateText
        (Query.operand sentinel query.joins column.key)) := by
    rw [Query.selectClause, text_cons, text_parted, columns_ofSpec h, List.map_map, List.map_map]
    congr 2
    apply List.map_congr_left
    intro column _
    exact text_selected store _
  have hfrom : Sql.text (Query.fromClause store) =
      "FROM ".toList ++ identifier store.entityTable := by
    simp only [Query.fromClause, text_cons, text_nil, List.append_nil]
    rfl
  have hgroup : Sql.text (Query.groupClause store) =
      "GROUP BY ".toList ++ store.entityNameText := by
    rw [Query.groupClause, text_cons, text_column]
    rfl
  have horder : Sql.text (query.orderClause store) =
      sortText read (Query.effectiveSort spec override) := by
    rw [Query.orderClause, order_ofSpec h]
    cases Query.effectiveSort spec override with
    | none => rfl
    | some sort =>
      simp only [Option.map_some, text_append, text_cons, text_nil, text_operand, List.append_nil]
      rfl
  rw [sql_eq_intercalate store h, Query.clauses, List.map_append, List.map_append, List.map_cons,
    List.map_cons, hselect, hfrom, text_joinClauses, text_termClauses store h, List.map_cons,
    List.map_cons, List.map_nil, hgroup, horder, StoreSettings.statementText]
  simp only [List.cons_append, List.append_assoc]
  rfl

end

end WikiPivot
