import WikiPivot.Pivot
import WikiPivot.Proofs.Query.Keys
import WikiPivot.Proofs.Store.ColumnUses
import WikiPivot.Proofs.Store.Rows
import WikiPivot.Proofs.Text.Decimal

/-! # Queries that are not refused

On tables of its own names a query runs if it keeps to the limits of the engine, as far as they are
read here, and no alias is the name of the entity table. Each column that the statement uses then
stands in exactly one source.
-/
namespace WikiPivot

open Sql

theorem sameName_refl (t : Text) : sameName t t = true := by simp [sameName]

theorem sameName_comm (s t : Text) : sameName s t = sameName t s := by
  simp only [sameName, Bool.beq_comm]

theorem asciiLowercase_aliasAt (slot : Nat) :
    Text.asciiLowercase (Joins.aliasAt slot) = 't' :: Text.ofNat (slot + 1) := by
  have := Text.asciiLowercase_ofNat (slot + 1)
  simp only [Text.asciiLowercase] at this
  simp [Text.asciiLowercase, Joins.aliasAt, this]

theorem sameName_aliasAt (i j : Nat) :
    sameName (Joins.aliasAt i) (Joins.aliasAt j) = decide (i = j) := by
  simp only [sameName, asciiLowercase_aliasAt, Bool.beq_eq_decide_eq, List.cons.injEq, true_and]
  congr 1
  apply propext
  constructor
  · intro h
    have := Text.ofNat_injective h
    omega
  · rintro rfl
    rfl

/-- No two of the sources have one name: the two tables, as in every database, and the entity table
and the first `n` joins. -/
structure StoreSettings.TellsApart (names : StoreSettings) (n : Nat) : Prop where
  tables : sameName names.attributeTable names.entityTable = false
  aliases : ∀ slot < n, sameName (Joins.aliasAt slot) names.entityTable = false

def StoreSettings.sources (names : StoreSettings) (n : Nat) : List Source :=
  ⟨names.entityTable, [names.entityId, names.entityName]⟩ ::
    (List.range n).map fun slot =>
      ⟨Joins.aliasAt slot, [names.attributeEntity, names.attributeKey, names.attributeValue]⟩

inductive Placed (names : StoreSettings) (n : Nat) : ColumnUse → Prop where
  | entity {column : Text} (h : column ∈ [names.entityId, names.entityName]) :
    Placed names n ⟨.name names.entityTable, column⟩
  | join {slot : Nat} {column : Text} (hslot : slot < n)
    (h : column ∈ [names.attributeEntity, names.attributeKey, names.attributeValue]) :
    Placed names n ⟨.joined slot, column⟩

theorem any_sameName {column : Text} {columns : List Text} (h : column ∈ columns) :
    columns.any (sameName column) = true :=
  List.any_eq_true.mpr ⟨column, h, sameName_refl column⟩

def Sql.ColumnUse.found (sources : List Source) (use : ColumnUse) : Nat :=
  sources.countP fun source =>
    sameName source.name use.table.tableName && source.columns.any (sameName use.column)

theorem error?_eq_none_iff {sources : List Source} {place : Text} {use : ColumnUse} :
    use.error? sources place = none ↔ use.found sources = 1 := by
  have herror : use.error? sources place =
      if use.found sources = 0 then some (.noColumn use.table.tableName use.column place)
      else if 1 < use.found sources then
        some (.ambiguousColumn use.table.tableName use.column place)
      else none := rfl
  rw [herror]
  split
  · simp_all
  · split
    · simp
      omega
    · simp
      omega

def StoreSettings.SharesColumn (names : StoreSettings) : Prop :=
  ∃ a ∈ [names.entityId, names.entityName],
    ∃ b ∈ [names.attributeEntity, names.attributeKey, names.attributeValue], sameName a b = true

section

variable {names : StoreSettings} {n : Nat}

theorem countP_range_eq_one {slot : Nat} (hslot : slot < n) :
    (List.range n).countP (fun i => decide (i = slot)) = 1 := by
  have := List.count_eq_one_of_mem List.nodup_range (List.mem_range.mpr hslot)
  rw [← this]
  rfl

/-- A placed column stands in exactly one source, also where an alias is the name of the entity
table as long as the two tables share no column. -/
theorem Placed.found_eq_one
    (apart : ∀ slot < n, sameName (Joins.aliasAt slot) names.entityTable = true →
      ¬ names.SharesColumn)
    {use : ColumnUse} (h : Placed names n use) : use.found (names.sources n) = 1 := by
  rw [ColumnUse.found]
  cases h with
  | entity h =>
    rename_i column
    have hjoins : ((List.range n).map fun slot => (⟨Joins.aliasAt slot,
        [names.attributeEntity, names.attributeKey, names.attributeValue]⟩ : Source)).countP
        (fun source => sameName source.name names.entityTable &&
          source.columns.any (sameName column)) = 0 := by
      rw [List.countP_eq_zero]
      intro source hsource hboth
      obtain ⟨slot, hslot, rfl⟩ := List.mem_map.mp hsource
      obtain ⟨hsame, hany⟩ := Bool.and_eq_true_iff.mp hboth
      obtain ⟨b, hb, hshared⟩ := List.any_eq_true.mp hany
      exact apart slot (List.mem_range.mp hslot) hsame ⟨column, h, b, hb, hshared⟩
    rw [StoreSettings.sources, List.countP_cons]
    simp only [Token.tableName, sameName_refl, any_sameName h, Bool.and_self, if_true, hjoins]
  | join hslot h =>
    rename_i slot column
    have hfirst : (sameName names.entityTable (Joins.aliasAt slot) &&
        [names.entityId, names.entityName].any (sameName column)) = false := by
      rw [Bool.eq_false_iff]
      intro hboth
      obtain ⟨hsame, hany⟩ := Bool.and_eq_true_iff.mp hboth
      obtain ⟨a, ha, hshared⟩ := List.any_eq_true.mp hany
      rw [sameName_comm] at hsame hshared
      exact apart slot hslot hsame ⟨a, ha, column, h, hshared⟩
    rw [StoreSettings.sources, List.countP_cons, List.countP_map]
    simp only [Token.tableName, Token.text, hfirst, Bool.false_eq_true, if_false,
      Function.comp_def, sameName_aliasAt, any_sameName h, Bool.and_true,
      countP_range_eq_one hslot]

end

def Term.Within (n : Nat) : Term → Prop
  | anchor => 0 < n
  | comparison operand _ _ => operand.Within n

structure Query.Closed (query : Query) : Prop where
  columns : ∀ operand ∈ query.columns, operand.Within query.joins.keys.length
  terms : ∀ entry ∈ query.terms, entry.2.Within query.joins.keys.length
  order : ∀ entry ∈ query.order, entry.1.Within query.joins.keys.length

section

variable {names : StoreSettings} {n : Nat}

theorem placed_entityName : Placed names n names.entityNameColumn := .entity (by simp)

theorem placed_entityId : Placed names n names.entityIdColumn := .entity (by simp)

theorem placed_operand {operand : Operand} (h : operand.Within n) :
    Placed names n (operand.column names) := by
  cases operand with
  | entityName => exact placed_entityName
  | joined slot => exact .join h (by simp)

theorem placed_term {term : Term} (h : term.Within n) :
    ∀ use ∈ term.columns names, Placed names n use := by
  cases term with
  | anchor =>
    intro use huse
    rcases List.mem_pair.mp huse with rfl | rfl
    · exact placed_entityId
    · exact .join h (by simp)
  | comparison operand comparator literal =>
    intro use huse
    rw [List.mem_singleton.mp huse]
    exact placed_operand h

end

namespace Query

theorem placedUses_map_snd (before clauses : List (List Token)) :
    (placedUses before clauses).map Prod.snd = clauses.flatMap columnsUsed :=
  map_snd_columnUses_parted (fun _ => rfl) _ clauses

variable (names : StoreSettings)

theorem uses_map_snd (query : Query) :
    (query.uses names).map Prod.snd =
      query.columns.map (·.column names) ++
      (query.terms.map Prod.snd).flatMap (Term.columns names) ++
      (query.joinClauses names).flatMap columnsUsed ++
      (query.order.toList.map fun entry => entry.1.column names) ++
      [names.entityNameColumn] := by
  simp only [uses, List.map_append, placedUses_map_snd]
  rw [map_snd_columnUses_parted (fun _ => rfl)]
  simp only [List.flatMap_cons, List.flatMap_nil, List.append_nil, columnsUsed_selectClause,
    columnsUsed_termClauses, columnsUsed_orderClause, columnsUsed_groupClause]

theorem placed_uses {query : Query} (closed : query.Closed) :
    ∀ entry ∈ query.uses names, Placed names query.joins.keys.length entry.2 := by
  intro entry hentry
  have huse : entry.2 ∈ (query.uses names).map Prod.snd := List.mem_map_of_mem hentry
  simp only [uses_map_snd, List.mem_append] at huse
  rcases huse with ((((hselect | hterm) | hjoin) | horder) | hgroup)
  · obtain ⟨operand, hoperand, he⟩ := List.mem_map.mp hselect
    rw [← he]
    exact placed_operand (closed.columns operand hoperand)
  · obtain ⟨term, hterm, huse⟩ := List.mem_flatMap.mp hterm
    obtain ⟨pair, hpair, rfl⟩ := List.mem_map.mp hterm
    exact placed_term (closed.terms pair hpair) _ huse
  · obtain ⟨clause, hclause, huse⟩ := List.mem_flatMap.mp hjoin
    obtain ⟨⟨key, slot⟩, hkey, rfl⟩ := List.mem_map.mp hclause
    have hslot : slot < query.joins.keys.length := by
      have := List.snd_lt_of_mem_zipIdx hkey
      omega
    rw [columnsUsed_joinClause] at huse
    simp only [List.mem_cons, List.not_mem_nil, or_false] at huse
    rcases huse with h | h | h
    · rw [h]
      exact .join hslot (by simp)
    · rw [h]
      exact placed_entityId
    · rw [h]
      exact .join hslot (by simp)
  · obtain ⟨pair, hpair, he⟩ := List.mem_map.mp horder
    rw [← he]
    exact placed_operand (closed.order pair (Option.mem_toList.mp hpair))
  · rw [List.mem_singleton.mp hgroup]
    exact placed_entityName

end Query

theorem closed_ofSpec {spec : TableSpec} (h : spec.columns ≠ []) (sentinel : Text)
    (override : Option SortKey) : (Query.ofSpec sentinel spec override).Closed where
  columns := by
    rw [columns_ofSpec h]
    intro operand hoperand
    obtain ⟨column, hcolumn, rfl⟩ := List.mem_map.mp hoperand
    exact within_operand _ (eq_sentinel_or_mem_keys h sentinel override
      (by simp [TableSpec.mentions, List.mem_map_of_mem hcolumn]))
  terms := by
    rw [terms_ofSpec h]
    intro entry hentry
    rcases List.mem_append.mp hentry with hanchor | hcomparison
    · cases hkeys : (Query.ofSpec sentinel spec override).joins.keys with
      | nil => simp [hkeys] at hanchor
      | cons key rest =>
        obtain rfl : entry = (.and, .anchor) := by simpa [hkeys] using hanchor
        exact Nat.zero_lt_succ _
    · obtain ⟨filter, hfilter, rfl⟩ := List.mem_map.mp hcomparison
      exact within_operand _ (eq_sentinel_or_mem_keys h sentinel override
        (List.mem_append_right _ (List.mem_map_of_mem hfilter)))
  order := by
    rw [order_ofSpec h]
    intro entry hentry
    obtain ⟨sort, hsort, rfl⟩ := Option.mem_map.mp hentry
    exact within_operand _ (eq_sentinel_or_mem_keys h sentinel override
      (by simp [TableSpec.mentions, Option.mem_def.mp hsort]))

theorem Database.sources_named {names : StoreSettings} (query : Query) (store : Store)
    (tables : sameName names.attributeTable names.entityTable = false) :
    Database.sources names ⟨names, store⟩ query = .ok (names.sources query.joins.keys.length) := by
  have hentity : Database.table ⟨names, store⟩ names.entityTable =
      .ok [names.entityId, names.entityName] := by
    simp [Database.table, Database.columns?, sameName_refl]
  have hattribute : Database.table ⟨names, store⟩ names.attributeTable =
      .ok [names.attributeEntity, names.attributeKey, names.attributeValue] := by
    simp [Database.table, Database.columns?, sameName_refl, tables]
  have hjoins : query.joins.aliases.mapM (fun called => do
        return (⟨called, ← Database.table ⟨names, store⟩ names.attributeTable⟩ : Source)) =
      .ok (query.joins.aliases.map fun called => ⟨called,
        [names.attributeEntity, names.attributeKey, names.attributeValue]⟩) := by
    rw [hattribute]
    exact List.mapM_pure
  rw [Database.sources, hentity, hjoins]
  simp only [StoreSettings.sources, Joins.aliases, List.map_map]
  rfl

namespace Query

/-- Why the engine refuses a statement although its tables and columns are there: the name of the
aggregate is too long, the terms are too deep, or the aggregate hides the patterns. -/
def refusal? (names : StoreSettings) (query : Query) : Option StoreError :=
  if longestFunction < Text.octets names.aggregate then some .longAggregate
  else if mostDepth < query.joinedDepth then some .tooDeep
  else query.hiddenPattern? names

theorem depth_le_joinedDepth (query : Query) : query.depth ≤ query.joinedDepth := by
  unfold joinedDepth
  split <;> omega

def unsettled? (names : StoreSettings) (sources : List Source) (query : Query) :
    Option StoreError :=
  (query.uses names).findSome? fun (offset, use) =>
    use.error? sources (placeText (query.sql names) offset)

section

variable {names : StoreSettings} {query : Query} (store : Store)
  (hcolumns : query.yieldsNothing = false) (hfew : query.joins.keys.length < mostTables)

include hcolumns hfew

/-- A query with fewer than sixty-four joins runs on a database of its own names unless a column is
not settled or the engine refuses it. -/
theorem run_own (tables : sameName names.attributeTable names.entityTable = false) :
    query.run names (.tables ⟨names, store⟩) =
      (if longestFunction < Text.octets names.aggregate then some .longAggregate
        else if mostDepth < query.joinedDepth then some .tooDeep
        else (query.unsettled? names (names.sources query.joins.keys.length)).or
          (query.hiddenPattern? names)).elim
        (.ok ⟨query, store.answer names.separator query⟩) .error := by
  have hnamed : Database.storeUnder ⟨names, store⟩ names = store := by
    simp [Database.storeUnder, Database.isNamedBy]
  have hsources : ¬ mostTables < (names.sources query.joins.keys.length).length := by
    simp only [StoreSettings.sources, List.length_cons, List.length_map, List.length_range]
    omega
  have hmany : ¬ mostSources ≤ query.joins.keys.length := by
    simp only [mostTables] at hfew
    simp only [mostSources]
    omega
  have hle := query.depth_le_joinedDepth
  unfold run
  by_cases hlong : longestFunction < Text.octets names.aggregate
  · rw [if_pos hlong, if_pos hlong]
    rfl
  rw [if_neg hlong, if_neg hlong, hcolumns, if_neg (by decide)]
  have hrun : query.error? names (names.sources query.joins.keys.length) =
      if mostDepth < query.joinedDepth then some .tooDeep
      else (query.unsettled? names (names.sources query.joins.keys.length)).or
        (query.hiddenPattern? names) := by
    simp only [error?, if_neg hsources, Option.or_none]
    rfl
  by_cases hdepth : mostDepth < query.depth
  · -- the terms alone are too deep to be read
    have hunreadable : query.unreadable? = some .tooDeep := by
      rw [unreadable?, if_neg hmany, if_pos hdepth]
    have hjoined : mostDepth < query.joinedDepth := by omega
    rw [hunreadable, if_pos hjoined]
    rfl
  · have hunreadable : query.unreadable? = none := by
      rw [unreadable?, if_neg hmany, if_neg hdepth]
    simp only [hunreadable, Database.sources_named query store tables, bind, Except.bind, hrun,
      hnamed]
    cases (if mostDepth < query.joinedDepth then some StoreError.tooDeep
      else (query.unsettled? names (names.sources query.joins.keys.length)).or
        (query.hiddenPattern? names)) <;> rfl

/-- If no alias is the name of the entity table, or no column is shared, all columns are settled. -/
theorem run_settled (closed : query.Closed)
    (tables : sameName names.attributeTable names.entityTable = false)
    (apart : ∀ slot < query.joins.keys.length,
      sameName (Joins.aliasAt slot) names.entityTable = true → ¬ names.SharesColumn) :
    query.run names (.tables ⟨names, store⟩) =
      (query.refusal? names).elim (.ok ⟨query, store.answer names.separator query⟩) .error := by
  have hsettled : query.unsettled? names (names.sources query.joins.keys.length) = none := by
    rw [unsettled?, List.findSome?_eq_none_iff]
    intro entry hentry
    exact error?_eq_none_iff.mpr ((placed_uses names closed entry hentry).found_eq_one apart)
  rw [run_own store hcolumns hfew tables, hsettled, refusal?, Option.none_or]

theorem run_named (closed : query.Closed) (apart : names.TellsApart query.joins.keys.length) :
    query.run names (.tables ⟨names, store⟩) =
      (query.refusal? names).elim (.ok ⟨query, store.answer names.separator query⟩) .error :=
  run_settled store hcolumns hfew closed apart.tables fun slot hslot hsame => by
    rw [apart.aliases slot hslot] at hsame
    exact absurd hsame Bool.false_ne_true

end

end Query

theorem answer_named (settings : Settings) (store : Store) {spec : TableSpec}
    (parameter : Option Text) (hcolumns : spec.columns ≠ [])
    (hfew : (settings.query spec parameter).joins.keys.length < Query.mostTables)
    (apart : settings.store.TellsApart (settings.query spec parameter).joins.keys.length) :
    settings.answer (.tables ⟨settings.store, store⟩) spec parameter =
      ((settings.query spec parameter).refusal? settings.store).elim
        (.ok ⟨settings.query spec parameter,
          store.answer settings.store.separator (settings.query spec parameter)⟩) .error :=
  Query.run_named store (ofSpec_yieldsNothing hcolumns _ _) hfew (closed_ofSpec hcolumns _ _) apart

theorem default_tellsApart (n : Nat) : ({} : StoreSettings).TellsApart n where
  tables := by decide
  aliases := by
    intro slot _
    simp [sameName, Joins.aliasAt, Text.asciiLowercase]

end WikiPivot
