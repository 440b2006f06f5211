import WikiPivot.Proofs.Store.Execution

/-! # Names of tables in a statement

A statement calls the entity table by its own name and the joins by `T` and their numbers. Each name
stands for one table unless the entity table itself is called `t` and the number of a join, which an
identifier may be. A column that both tables have is then ambiguous, and the statement is refused.
-/
namespace WikiPivot

open Sql

def StoreSettings.TakesAlias (names : StoreSettings) (n : Nat) : Prop :=
  ∃ k, 1 ≤ k ∧ k ≤ n ∧ Text.asciiLowercase names.entityTable = 't' :: Text.ofNat k

def StoreSettings.tableNames (names : StoreSettings) (n : Nat) : List Text :=
  names.entityTable :: (List.range n).map Joins.aliasAt

section

variable {names : StoreSettings} {n : Nat}

theorem takesAlias_iff :
    names.TakesAlias n ↔ ∃ slot < n, sameName (Joins.aliasAt slot) names.entityTable = true := by
  simp only [sameName, asciiLowercase_aliasAt, beq_iff_eq]
  constructor
  · rintro ⟨k, hfirst, hlast, hname⟩
    refine ⟨k - 1, by omega, ?_⟩
    rw [Nat.sub_add_cancel hfirst, hname]
  · rintro ⟨slot, hslot, hname⟩
    exact ⟨slot + 1, by omega, by omega, hname.symm⟩

/-- Where no alias is taken, a placed column is qualified by the name of one table. -/
theorem Placed.countP_tableNames (free : ¬ names.TakesAlias n) {use : ColumnUse}
    (h : Placed names n use) :
    (names.tableNames n).countP (sameName · use.table.tableName) = 1 := by
  have hother : ∀ slot < n, sameName (Joins.aliasAt slot) names.entityTable = false := by
    intro slot hslot
    rw [Bool.eq_false_iff]
    exact fun hsame => free (takesAlias_iff.mpr ⟨slot, hslot, hsame⟩)
  rw [StoreSettings.tableNames, List.countP_cons, List.countP_map]
  cases h with
  | entity h =>
    have hnone : (List.range n).countP
        ((fun name => sameName name names.entityTable) ∘ Joins.aliasAt) = 0 := by
      rw [List.countP_eq_zero]
      intro slot hslot
      simp [hother slot (List.mem_range.mp hslot)]
    simp only [Token.tableName, hnone, sameName_refl, if_true]
  | join hslot h =>
    rename_i slot column
    have hfirst : sameName names.entityTable (Joins.aliasAt slot) = false := by
      rw [sameName_comm]
      exact hother slot hslot
    simp only [Token.tableName, Token.text, hfirst, Bool.false_eq_true, if_false,
      Function.comp_def, sameName_aliasAt, countP_range_eq_one hslot]

/-- A taken alias makes the name of the entity table stand for two tables. -/
theorem one_lt_countP_tableNames (taken : names.TakesAlias n) :
    1 < (names.tableNames n).countP (sameName · names.entityTable) := by
  obtain ⟨slot, hslot, hsame⟩ := takesAlias_iff.mp taken
  have hjoin : 0 < ((List.range n).map Joins.aliasAt).countP (sameName · names.entityTable) :=
    List.countP_pos_iff.mpr
      ⟨_, List.mem_map_of_mem (List.mem_range.mpr hslot), hsame⟩
  rw [StoreSettings.tableNames, List.countP_cons, sameName_refl, if_pos rfl]
  omega

/-- A placed column stands in some source, so all that can be wrong is that it stands in two. -/
theorem Placed.error?_eq_ambiguous {use : ColumnUse} (h : Placed names n use) {place : Text}
    {error : StoreError} (herror : use.error? (names.sources n) place = some error) :
    error = .ambiguousColumn use.table.tableName use.column place := by
  have hfound : use.found (names.sources n) ≠ 0 := by
    apply Nat.pos_iff_ne_zero.mp
    rw [ColumnUse.found, List.countP_pos_iff]
    cases h with
    | entity h =>
      refine ⟨⟨names.entityTable, [names.entityId, names.entityName]⟩, List.mem_cons_self, ?_⟩
      simp only [Token.tableName, sameName_refl, any_sameName h, Bool.and_self]
    | join hslot h =>
      rename_i slot column
      refine ⟨⟨Joins.aliasAt slot, [names.attributeEntity, names.attributeKey,
        names.attributeValue]⟩, ?_, ?_⟩
      · exact List.mem_cons_of_mem _ (List.mem_map.mpr ⟨slot, List.mem_range.mpr hslot, rfl⟩)
      · simp only [Token.tableName, Token.text, sameName_refl, any_sameName h, Bool.and_self]
  rw [ColumnUse.found] at hfound
  simp only [ColumnUse.error?, if_neg hfound] at herror
  split at herror
  · exact (Option.some.inj herror).symm
  · exact absurd herror (by simp)

/-- A column of the entity table that the attribute table has too stands in two sources of one
name. -/
theorem error?_of_shared (taken : names.TakesAlias n) {column other : Text}
    (hcolumn : column ∈ [names.entityId, names.entityName])
    (hother : other ∈ [names.attributeEntity, names.attributeKey, names.attributeValue])
    (hshared : sameName column other = true) (place : Text) :
    ColumnUse.error? (names.sources n) place ⟨.name names.entityTable, column⟩ ≠ none := by
  obtain ⟨slot, hslot, hsame⟩ := takesAlias_iff.mp taken
  let use : ColumnUse := ⟨.name names.entityTable, column⟩
  let joins : List Source := (List.range n).map fun slot =>
    ⟨Joins.aliasAt slot, [names.attributeEntity, names.attributeKey, names.attributeValue]⟩
  have hjoins : 0 < use.found joins := by
    refine List.countP_pos_iff.mpr ⟨_, List.mem_map_of_mem (List.mem_range.mpr hslot), ?_⟩
    exact Bool.and_eq_true_iff.mpr ⟨hsame, List.any_eq_true.mpr ⟨other, hother, hshared⟩⟩
  have hentity : (sameName names.entityTable names.entityTable &&
      [names.entityId, names.entityName].any (sameName column)) = true :=
    Bool.and_eq_true_iff.mpr ⟨sameName_refl _, any_sameName hcolumn⟩
  have hfound : use.found (names.sources n) = use.found joins + 1 :=
    List.countP_cons_of_pos hentity
  intro hnone
  have hone : use.found (names.sources n) = 1 := error?_eq_none_iff.mp hnone
  omega

end

namespace Query

variable (names : StoreSettings) {query : Query}

theorem limits_of_refusal? {names : StoreSettings} (h : query.refusal? names = none) :
    ¬ longestFunction < Text.octets names.aggregate ∧ ¬ mostDepth < query.joinedDepth := by
  unfold refusal? at h
  split at h
  · exact absurd h (by simp)
  · split at h
    · exact absurd h (by simp)
    · rename_i hshort hshallow
      exact ⟨hshort, hshallow⟩

/-- The statement uses the columns that are looked up, in another order. -/
theorem mem_columnsUsed_statement (hcolumns : query.yieldsNothing = false) {use : ColumnUse} :
    use ∈ columnsUsed (query.statement names) ↔ use ∈ (query.uses names).map Prod.snd := by
  have hfrom : columnsUsed (fromClause names) = [] := rfl
  rw [statement, hcolumns, if_neg Bool.false_ne_true, columnsUsed_parted _ (by simp)]
  simp only [uses_map_snd, clauses, List.flatMap_append, List.flatMap_cons, List.flatMap_nil,
    columnsUsed_selectClause, hfrom, columnsUsed_termClauses, columnsUsed_groupClause,
    columnsUsed_orderClause, List.mem_append]
  simp only [List.not_mem_nil, or_false, false_or]
  tauto

theorem entityName_mem_uses : names.entityNameColumn ∈ (query.uses names).map Prod.snd := by
  rw [uses_map_snd]
  exact List.mem_append_right _ (List.mem_singleton_self _)

/-- Every join compares the number of the entity. -/
theorem entityId_mem_uses (hjoined : 0 < query.joins.keys.length) :
    names.entityIdColumn ∈ (query.uses names).map Prod.snd := by
  obtain ⟨key, keys, hkeys⟩ := List.exists_cons_of_length_pos hjoined
  have hclause : joinClause names key 0 ∈ query.joinClauses names := by
    rw [joinClauses, hkeys]
    exact List.mem_cons_self
  have huse : names.entityIdColumn ∈ (query.joinClauses names).flatMap columnsUsed := by
    refine List.mem_flatMap.mpr ⟨_, hclause, ?_⟩
    rw [columnsUsed_joinClause]
    simp
  rw [uses_map_snd]
  simp [huse]

/-- A column of the entity table that is shared is used, and under a taken alias the statement is
refused for it or for one before it. -/
theorem unsettled?_of_shared (closed : query.Closed)
    (taken : names.TakesAlias query.joins.keys.length) (shared : names.SharesColumn) :
    ∃ table column place, query.unsettled? names (names.sources query.joins.keys.length) =
      some (.ambiguousColumn table column place) := by
  obtain ⟨column, hcolumn, other, hother, hshared⟩ := shared
  have hused : ⟨.name names.entityTable, column⟩ ∈ (query.uses names).map Prod.snd := by
    rcases List.mem_pair.mp hcolumn with rfl | rfl
    · obtain ⟨k, hfirst, hlast, -⟩ := taken
      exact entityId_mem_uses names (by omega)
    · exact entityName_mem_uses names
  obtain ⟨⟨offset, use⟩, hentry, rfl⟩ := List.mem_map.mp hused
  cases hfirst : query.unsettled? names (names.sources query.joins.keys.length) with
  | none =>
    have hnone := List.findSome?_eq_none_iff.mp hfirst _ hentry
    exact absurd hnone (error?_of_shared taken hcolumn hother hshared _)
  | some error =>
    obtain ⟨⟨offset, use⟩, hentry, herror⟩ := List.exists_of_findSome?_eq_some hfirst
    have hplaced := placed_uses names closed _ hentry
    exact ⟨_, _, _, congrArg some (hplaced.error?_eq_ambiguous herror)⟩

/-- Each column of a statement is qualified by the name of one table unless an alias is taken: the
groups are always formed by a column of the entity table. -/
theorem columnsUsed_clear_iff (hcolumns : query.yieldsNothing = false) (closed : query.Closed) :
    (∀ use ∈ columnsUsed (query.statement names),
        (names.tableNames query.joins.keys.length).countP (sameName · use.table.tableName) = 1) ↔
      ¬ names.TakesAlias query.joins.keys.length := by
  simp only [mem_columnsUsed_statement names hcolumns]
  constructor
  · intro hclear taken
    have hone := hclear _ (entityName_mem_uses names)
    have htwo := one_lt_countP_tableNames taken
    have hsame : names.entityNameColumn.table.tableName = names.entityTable := rfl
    rw [hsame] at hone
    omega
  · intro free use huse
    obtain ⟨entry, hentry, rfl⟩ := List.mem_map.mp huse
    exact (placed_uses names closed entry hentry).countP_tableNames free

/-- On tables of its own names a statement that the engine accepts runs unless an alias is taken and
a column is shared, and else it is refused as ambiguous. -/
theorem run_or_ambiguous (store : Store) (hcolumns : query.yieldsNothing = false)
    (hfew : query.joins.keys.length < mostTables) (closed : query.Closed)
    (tables : sameName names.attributeTable names.entityTable = false)
    (accepted : query.refusal? names = none) :
    let clash := names.TakesAlias query.joins.keys.length ∧ names.SharesColumn
    (¬ clash → query.run names (.tables ⟨names, store⟩) =
      .ok ⟨query, store.answer names.separator query⟩) ∧
    (clash → ∃ table column place, query.run names (.tables ⟨names, store⟩) =
      .error (.ambiguousColumn table column place)) := by
  intro clash
  constructor
  · intro hclear
    have apart : ∀ slot < query.joins.keys.length,
        sameName (Joins.aliasAt slot) names.entityTable = true → ¬ names.SharesColumn :=
      fun slot hslot hsame hshared => hclear ⟨takesAlias_iff.mpr ⟨slot, hslot, hsame⟩, hshared⟩
    rw [run_settled store hcolumns hfew closed tables apart, accepted]
    rfl
  · rintro ⟨taken, shared⟩
    obtain ⟨table, column, place, hambiguous⟩ := unsettled?_of_shared names closed taken shared
    refine ⟨table, column, place, ?_⟩
    obtain ⟨hshort, hshallow⟩ := limits_of_refusal? accepted
    rw [run_own store hcolumns hfew tables, hambiguous, if_neg hshort, if_neg hshallow]
    rfl

end Query

/-- The name of the entity table is that of a join exactly if it is `t` and the number of one, in
any case of the letter, and otherwise each column is qualified by the name of one table. On tables
of these names such a statement is refused as ambiguous if the tables share a column, and else it
runs. -/
theorem table_names_are_clear_iff (settings : Settings) (spec : TableSpec)
    (override : Option SortKey) :
    let names := settings.store
    let query := Query.ofSpec settings.directive.sentinel spec override
    let n := query.joins.keys.length
    ((∃ called ∈ query.joins.aliases, sameName called names.entityTable = true) ↔
        names.TakesAlias n) ∧
      ((∀ use ∈ columnsUsed (query.statement names),
          (names.entityTable :: query.joins.aliases).countP (sameName · use.table.tableName) = 1) ↔
        ¬ names.TakesAlias n) ∧
      (spec.columns ≠ [] → n < Query.mostTables →
        sameName names.attributeTable names.entityTable = false → query.refusal? names = none →
        ∀ store,
          (¬ (names.TakesAlias n ∧ names.SharesColumn) →
            query.run names (.tables ⟨names, store⟩) =
              .ok ⟨query, store.answer names.separator query⟩) ∧
          (names.TakesAlias n ∧ names.SharesColumn → ∃ table column place,
            query.run names (.tables ⟨names, store⟩) =
              .error (.ambiguousColumn table column place))) := by
  intro names query n
  have haliases : query.joins.aliases = (List.range n).map Joins.aliasAt := rfl
  refine ⟨?_, ?_, ?_⟩
  · rw [takesAlias_iff, haliases]
    simp
  · by_cases hcolumns : spec.columns = []
    · -- nothing is selected, and no column is used
      have hnothing : query = Query.nothing := by
        simp only [query, Query.ofSpec, hcolumns, List.isEmpty_nil, if_true]
      have hfree : ¬ names.TakesAlias n := by
        rintro ⟨k, hfirst, hlast, -⟩
        have hzero : n = 0 := congrArg (fun query : Query => query.joins.keys.length) hnothing
        omega
      refine iff_of_true ?_ hfree
      rw [hnothing]
      intro use huse
      exact absurd huse List.not_mem_nil
    · rw [haliases]
      exact Query.columnsUsed_clear_iff names (ofSpec_yieldsNothing hcolumns _ _)
        (closed_ofSpec hcolumns _ _)
  · intro hcolumns hfew tables accepted store
    exact Query.run_or_ambiguous names store (ofSpec_yieldsNothing hcolumns _ _) hfew
      (closed_ofSpec hcolumns _ _) tables accepted

def appleStore : Store where
  entities := [⟨1, "Apple".toList⟩]
  attributes := [⟨1, "color".toList, some "red".toList⟩]

def appleSpec : TableSpec where
  columns := [⟨"color".toList, .text⟩]
  headers := ["color".toList]

/-- The color is shown under the default names, and not if the entity table is called `t1`. -/
theorem apple_color_is_shown_unless_t1 :
    let settings : Settings := {}
    let renamed : Settings := { store := { entityTable := "t1".toList } }
    let query := Query.ofSpec settings.directive.sentinel appleSpec none
    query.run settings.store (.tables ⟨settings.store, appleStore⟩) =
        .ok ⟨query, [["red".toList]]⟩ ∧
      ∃ table column place, query.run renamed.store (.tables ⟨renamed.store, appleStore⟩) =
        .error (.ambiguousColumn table column place) := by
  intro settings renamed query
  have hcolumns : appleSpec.columns ≠ [] := List.cons_ne_nil _ _
  have hfew : query.joins.keys.length < Query.mostTables := by decide +kernel
  constructor
  · obtain ⟨htaken, -, hruns⟩ := table_names_are_clear_iff settings appleSpec none
    have hfree : ¬ settings.store.TakesAlias query.joins.keys.length := by
      rw [← htaken]
      decide +kernel
    have hrun := (hruns hcolumns hfew (by decide) (by decide +kernel) appleStore).1
      fun hboth => hfree hboth.1
    have hrows : appleStore.answer settings.store.separator query = [["red".toList]] := by
      decide +kernel
    rw [hrun, hrows]
  · obtain ⟨htaken, -, hruns⟩ := table_names_are_clear_iff renamed appleSpec none
    have htakes : renamed.store.TakesAlias query.joins.keys.length := by
      rw [← htaken]
      decide +kernel
    have hshared : renamed.store.SharesColumn := by
      refine ⟨_, List.mem_cons_self, _, List.mem_cons_self, ?_⟩
      decide
    exact (hruns hcolumns hfew (by decide) (by decide +kernel) appleStore).2 ⟨htakes, hshared⟩

/-- The settings pass the check, and the first join is called as their entity table is. -/
theorem join_called_as_entity_table :
    let settings : Settings := { store := { entityTable := "t1".toList } }
    let query := Query.ofSpec settings.directive.sentinel appleSpec none
    settings.check = .ok settings ∧
      query.joins.aliases = ["T1".toList] ∧ sameName "T1".toList settings.store.entityTable = true ∧
      query.run settings.store (.tables ⟨settings.store, appleStore⟩) =
        .error (.ambiguousColumn "t1".toList "pid".toList
          (Query.placeText (query.sql settings.store) (some 127))) := by
  decide +kernel

end WikiPivot
