import WikiPivot.Proofs.Store.Execution
import WikiPivot.Proofs.Store.Verdicts

/-! # Rows computed entity by entity

Under filters chained by AND an answer can be had without combining joins: each entity is looked at
alone, and each of its cells is joined from the values of one key that pass the filters on it.
-/
namespace WikiPivot

/-- A filter on another key lets a value pass. -/
def Filter.passes (filter : Filter) (key : Text) (value : Option Text) : Bool :=
  filter.key != key || filter.accepts value

theorem passes_iff {filter : Filter} {key : Text} {value : Option Text} :
    filter.passes key value = true ↔ (filter.key = key → filter.accepts value = true) := by
  unfold Filter.passes
  by_cases hk : filter.key = key
  · simp [hk]
  · simp [hk]

namespace Store

variable (store : Store)

def attributesOf (entity : Int) (key : Text) : List Attribute :=
  store.attributes.filter fun a => a.entity = entity ∧ a.key = key.filter (· != '\x00')

/-- The values of a key in the order they were added, or one missing value if there are none. -/
def valuesOf (entity : Int) (key : Text) : List (Option Text) :=
  if store.attributesOf entity key = [] then [none]
  else (store.attributesOf entity key).map (·.value)

def passingValues (filters : List Filter) (entity : Int) (key : Text) : List (Option Text) :=
  (store.valuesOf entity key).filter fun value => filters.all (·.passes key value)

/-- What a row asks of an entity whatever is picked for its keys: it has an attribute of the first
key, and its name passes the filters on it. -/
def Admits (sentinel : Text) (filters : List Filter) (keys : List Text) (entity : Entity) : Prop :=
  (∀ key ∈ keys.head?, store.attributesOf entity.id key ≠ []) ∧
    ∀ filter ∈ filters, filter.passes sentinel (some entity.name)

instance (sentinel : Text) (filters : List Filter) (keys : List Text) :
    DecidablePred (store.Admits sentinel filters keys) :=
  fun _ => inferInstanceAs (Decidable (_ ∧ _))

/-- An admitted entity has a row if every key has a value that passes. -/
def HasRow (sentinel : Text) (filters : List Filter) (keys : List Text) (entity : Entity) : Prop :=
  store.Admits sentinel filters keys entity ∧
    ∀ key ∈ keys, store.passingValues filters entity.id key ≠ []

instance (sentinel : Text) (filters : List Filter) (keys : List Text) :
    DecidablePred (store.HasRow sentinel filters keys) :=
  fun _ => inferInstanceAs (Decidable (_ ∧ _))

def rowOf (sentinel separator : Text) (spec : TableSpec) (entity : Entity) : List Text :=
  spec.columns.map fun column =>
    if column.key = sentinel then entity.name
    else (separator.filter (· != '\x00')).intercalate
      (distinct ((store.passingValues spec.filters entity.id column.key).filterMap id))

theorem matchesOf_eq (entity : Int) (key : Text) :
    store.matchesOf entity key =
      if store.attributesOf entity key = [] then [.unmatched]
      else (store.attributesOf entity key).map fun a => .matched a.value := by
  unfold matchesOf attributesOf Literal.ofText
  split
  · rename_i h
    rw [if_pos h]
  · rename_i found h
    rw [if_neg h]

theorem map_value?_matchesOf (entity : Int) (key : Text) :
    (store.matchesOf entity key).map Match.value? = store.valuesOf entity key := by
  rw [matchesOf_eq, valuesOf]
  by_cases h : store.attributesOf entity key = []
  · rw [if_pos h, if_pos h]
    rfl
  · rw [if_neg h, if_neg h, List.map_map]
    rfl

/-- The anchor looks at the entity alone: all matches of a key are of one kind. -/
theorem isMatched_of_mem {entity : Int} {key : Text} {found : Match}
    (h : found ∈ store.matchesOf entity key) :
    found.isMatched = decide (store.attributesOf entity key ≠ []) := by
  rw [matchesOf_eq] at h
  by_cases hnone : store.attributesOf entity key = []
  · rw [if_pos hnone, List.mem_singleton] at h
    simp [h, hnone, Match.isMatched]
  · rw [if_neg hnone] at h
    obtain ⟨a, _, rfl⟩ := List.mem_map.mp h
    simp [hnone, Match.isMatched]

def passingMatches (filters : List Filter) (entity : Int) (key : Text) : List Match :=
  (store.matchesOf entity key).filter fun found => filters.all (·.passes key found.value?)

theorem map_value?_passingMatches (filters : List Filter) (entity : Int) (key : Text) :
    (store.passingMatches filters entity key).map Match.value? =
      store.passingValues filters entity key := by
  rw [passingValues, ← map_value?_matchesOf, List.filter_map]
  rfl

section

variable {spec : TableSpec} (h : spec.columns ≠ [])
  (hand : ∀ filter ∈ spec.filters, filter.logic = .and) (sentinel : Text)
  (override : Option SortKey) (entity : Entity)

include h hand

theorem and_of_mem_terms :
    ∀ entry ∈ (Query.ofSpec sentinel spec override).terms, entry.1 = .and := by
  rw [terms_ofSpec h]
  intro entry hentry
  rcases List.mem_append.mp hentry with hanchor | hcomparison
  · split at hanchor
    · cases hanchor
    · rw [List.mem_singleton.mp hanchor]
  · obtain ⟨filter, hfilter, rfl⟩ := List.mem_map.mp hcomparison
    exact hand filter hfilter

/-- Conditions chained by AND come apart: one on the entity and one on each pick. -/
theorem allHold_pick {pick : Text → Match}
    (hpick : ∀ key, pick key ∈ store.matchesOf entity.id key) :
    Term.allHold (Query.ofSpec sentinel spec override).terms
        ⟨entity.name, (Query.ofSpec sentinel spec override).joins.keys.map pick⟩ = true ↔
      store.Admits sentinel spec.filters (Query.ofSpec sentinel spec override).joins.keys entity ∧
        ∀ key ∈ (Query.ofSpec sentinel spec override).joins.keys, ∀ filter ∈ spec.filters,
          filter.passes key (pick key).value? := by
  have hall : ∀ row, Term.allHold (Query.ofSpec sentinel spec override).terms row =
      ((Query.ofSpec sentinel spec override).terms.map (Term.verdict row)).all (·.2) := by
    intro row
    rw [Term.allHold_of_and (and_of_mem_terms h hand sentinel override), List.all_map, List.all_map]
    rfl
  rw [hall, verdicts_ofSpec h, List.all_append, Bool.and_eq_true, List.all_eq_true,
    List.all_eq_true]
  simp only [TableSpec.verdicts, List.forall_mem_map, Option.mem_toList, Admits, passes_iff]
  rw [and_assoc]
  apply and_congr
  · simp only [store.isMatched_of_mem (hpick _), decide_eq_true_eq]
    exact Iff.rfl
  · constructor
    · intro hfilters
      constructor
      · intro filter hfilter hk
        have := hfilters filter hfilter
        rwa [pickedValue, if_pos hk] at this
      · rintro key hkey filter hfilter rfl
        have := hfilters filter hfilter
        rwa [pickedValue, if_neg (ne_sentinel_of_mem_keys h sentinel override hkey)] at this
    · rintro ⟨hname, hkeys⟩ filter hfilter
      unfold pickedValue
      by_cases hk : filter.key = sentinel
      · rw [if_pos hk]
        exact hname filter hfilter hk
      · rw [if_neg hk]
        refine hkeys filter.key (mem_keys_ofSpec h sentinel override hk ?_) filter hfilter rfl
        exact List.mem_append_right _ (List.mem_map_of_mem hfilter)

/-- An admitted entity combines the passing matches of its keys, and another one nothing. -/
theorem passing_of_and :
    store.passing (Query.ofSpec sentinel spec override) entity =
      if store.Admits sentinel spec.filters (Query.ofSpec sentinel spec override).joins.keys entity
      then (choices ((Query.ofSpec sentinel spec override).joins.keys.map
        (store.passingMatches spec.filters entity.id))).map (⟨entity.name, ·⟩)
      else [] := by
  have hverdict : ∀ x ∈ choices ((Query.ofSpec sentinel spec override).joins.keys.map
      (store.matchesOf entity.id)),
      Term.allHold (Query.ofSpec sentinel spec override).terms ⟨entity.name, x⟩ =
        (decide (store.Admits sentinel spec.filters
            (Query.ofSpec sentinel spec override).joins.keys entity) &&
          ((Query.ofSpec sentinel spec override).joins.keys.zip x).all fun entry =>
            spec.filters.all (·.passes entry.1 entry.2.value?)) := by
    intro x hx
    obtain ⟨pick, hpick, rfl⟩ := (mem_choices_map (store.matchesOf_ne_nil entity.id)
      (nodup_keys_ofSpec h sentinel override)).mp hx
    rw [Bool.eq_iff_iff, store.allHold_pick h hand sentinel override entity hpick,
      ← List.map_prod_left_eq_zip]
    simp [List.all_map]
  rw [passing, combinationsOf, List.filter_map]
  simp only [Function.comp_def]
  rw [List.filter_congr hverdict]
  by_cases hadmits : store.Admits sentinel spec.filters
      (Query.ofSpec sentinel spec override).joins.keys entity
  · rw [if_pos hadmits]
    simp only [hadmits, decide_true, Bool.true_and]
    have hfactor := filter_choices (Query.ofSpec sentinel spec override).joins.keys
      (store.matchesOf entity.id) fun key found =>
        spec.filters.all (·.passes key found.value?)
    exact congrArg (List.map _) hfactor
  · rw [if_neg hadmits]
    simp [hadmits]

theorem passing_ne_nil_iff :
    store.passing (Query.ofSpec sentinel spec override) entity ≠ [] ↔
      store.HasRow sentinel spec.filters (Query.ofSpec sentinel spec override).joins.keys
        entity := by
  rw [store.passing_of_and h hand, HasRow]
  by_cases hadmits : store.Admits sentinel spec.filters
      (Query.ofSpec sentinel spec override).joins.keys entity
  · rw [if_pos hadmits, and_iff_right hadmits, ne_eq, List.map_eq_nil_iff, ← ne_eq,
      choices_ne_nil, List.forall_mem_map]
    simp only [← map_value?_passingMatches, ne_eq, List.map_eq_nil_iff]
  · rw [if_neg hadmits]
    simp [hadmits]

theorem cell_passing (separator : Text)
    (hrow : store.HasRow sentinel spec.filters (Query.ofSpec sentinel spec override).joins.keys
      entity) {column : Column} (hcolumn : column ∈ spec.columns) :
    cell separator entity.name (store.passing (Query.ofSpec sentinel spec override) entity)
        (Query.operand sentinel (Query.ofSpec sentinel spec override).joins column.key) =
      if column.key = sentinel then entity.name
      else (separator.filter (· != '\x00')).intercalate
        (distinct ((store.passingValues spec.filters entity.id column.key).filterMap id)) := by
  unfold Query.operand
  by_cases hk : column.key = sentinel
  · rw [if_pos hk, if_pos hk]
    rfl
  · rw [if_neg hk, if_neg hk, cell_joined, store.passing_of_and h hand, if_pos hrow.1]
    have hmem : column.key ∈ (Query.ofSpec sentinel spec override).joins.keys :=
      mem_keys_ofSpec h sentinel override hk
        (by simp [TableSpec.mentions, List.mem_map_of_mem hcolumn])
    have hlists : ∀ options ∈ (Query.ofSpec sentinel spec override).joins.keys.map
        (store.passingMatches spec.filters entity.id), options ≠ [] := by
      rw [List.forall_mem_map]
      intro key hkey
      have := hrow.2 key hkey
      rwa [← map_value?_passingMatches, ne_eq, List.map_eq_nil_iff] at this
    have hplace : ((Query.ofSpec sentinel spec override).joins.keys.map
        (store.passingMatches spec.filters entity.id))[
          (Query.ofSpec sentinel spec override).joins.slot column.key]? =
        some (store.passingMatches spec.filters entity.id column.key) := by
      rw [List.getElem?_map, Joins.slot, List.getElem?_idxOf hmem]
      rfl
    have hvalues := congrArg (fun found => distinct (found.filterMap Match.value?))
      (distinct_choices_getElem hlists hplace)
    simp only [distinct_filterMap_distinct, List.filterMap_filterMap] at hvalues
    rw [List.filterMap_map, ← map_value?_passingMatches, List.filterMap_map]
    exact congrArg _ hvalues

end

/-- Rows of entities with names of their own are told apart by them. -/
theorem filter_name_flatMap {entities : List Entity} {rows : Entity → List Combination}
    (hnames : (entities.map (·.name)).Nodup)
    (hrows : ∀ entity, ∀ row ∈ rows entity, row.name = entity.name)
    {entity : Entity} (hentity : entity ∈ entities) :
    (entities.flatMap rows).filter (·.name = entity.name) = rows entity := by
  induction entities with
  | nil => cases hentity
  | cons first rest ih =>
    obtain ⟨hfirst, hrest⟩ := List.nodup_cons.mp hnames
    rw [List.flatMap_cons, List.filter_append]
    rcases List.mem_cons.mp hentity with rfl | hmem
    -- the rows of the entity are kept and those of the others dropped
    · have hown : (rows entity).filter (·.name = entity.name) = rows entity := by
        rw [List.filter_eq_self]
        intro row hrow
        simpa using hrows entity row hrow
      have hothers : (rest.flatMap rows).filter (·.name = entity.name) = [] := by
        rw [List.filter_eq_nil_iff]
        intro row hrow
        obtain ⟨other, hother, hrow⟩ := List.mem_flatMap.mp hrow
        have hne : other.name ≠ entity.name := fun e =>
          hfirst (List.mem_map.mpr ⟨other, hother, e⟩)
        simpa [hrows other row hrow] using hne
      rw [hown, hothers, List.append_nil]
    · have hnone : (rows first).filter (·.name = entity.name) = [] := by
        rw [List.filter_eq_nil_iff]
        intro row hrow
        have hne : first.name ≠ entity.name := fun e =>
          hfirst (List.mem_map.mpr ⟨entity, hmem, e.symm⟩)
        simpa [hrows first row hrow] using hne
      rw [hnone, List.nil_append, ih hrest hmem]

/-- Under names of their own every entity that has combinations has one row. -/
theorem tabled_flatMap (separator : Text) (columns : List Operand) {entities : List Entity}
    {rows : Entity → List Combination} (hnames : (entities.map (·.name)).Nodup)
    (hrows : ∀ entity, ∀ row ∈ rows entity, row.name = entity.name) :
    tabled separator columns (entities.flatMap rows) =
      (entities.filter fun entity => rows entity ≠ []).map fun entity =>
        columns.map (cell separator entity.name (rows entity)) := by
  have hgroups : distinct ((entities.flatMap rows).map (·.name)) =
      (entities.filter fun entity => rows entity ≠ []).map (·.name) := by
    have hnodup : ((entities.filter fun entity => rows entity ≠ []).map (·.name)).Nodup :=
      hnames.sublist (List.filter_sublist.map _)
    rw [← distinct_eq_self hnodup, ← flatMap_ite_singleton, List.map_flatMap, List.map_flatMap]
    apply distinct_flatMap_congr
    intro entity _
    by_cases hnone : rows entity = []
    · simp [hnone]
    · have hsame : (rows entity).map (·.name) = (rows entity).flatMap fun _ => [entity.name] := by
        rw [← List.map_eq_flatMap]
        exact List.map_congr_left (hrows entity)
      rw [hsame, distinct_flatMap_const hnone]
      simp [hnone]
  rw [tabled, hgroups, List.map_map]
  apply List.map_congr_left
  intro entity hentity
  have hmem : entity ∈ entities := (List.mem_filter.mp hentity).1
  simp only [Function.comp_apply, filter_name_flatMap hnames hrows hmem]

theorem answer_perm_of_and {spec : TableSpec} (h : spec.columns ≠ [])
    (hand : ∀ filter ∈ spec.filters, filter.logic = .and)
    (hnames : (store.entities.map (·.name)).Nodup) (sentinel separator : Text)
    (override : Option SortKey) :
    (store.answer separator (Query.ofSpec sentinel spec override)).Perm
      ((store.entities.filter (store.HasRow sentinel spec.filters
        (Query.ofSpec sentinel spec override).joins.keys)).map
          (store.rowOf sentinel separator spec)) := by
  have hsorted := List.mergeSort_perm store.entities (·.id ≤ ·.id)
  have hrows : ∀ entity, ∀ row ∈ store.passing (Query.ofSpec sentinel spec override) entity,
      row.name = entity.name := by
    intro entity row hrow
    obtain ⟨x, _, rfl⟩ := List.mem_map.mp (List.mem_filter.mp hrow).1
    rfl
  -- entities are looked at in the order of their numbers, which a permutation forgets
  have hrow : ∀ entity, (store.passing (Query.ofSpec sentinel spec override) entity ≠ []) =
      store.HasRow sentinel spec.filters (Query.ofSpec sentinel spec override).joins.keys entity :=
    fun entity => propext (store.passing_ne_nil_iff h hand sentinel override entity)
  refine (answer_perm separator store (ofSpec_yieldsNothing h sentinel override)).trans ?_
  rw [combinations_eq, tabled_flatMap separator _ ((hsorted.map _).nodup_iff.mpr hnames) hrows]
  simp only [hrow]
  refine ((hsorted.filter _).map _).trans (List.Perm.of_eq ?_)
  apply List.map_congr_left
  intro entity hentity
  have hhas := of_decide_eq_true (List.mem_filter.mp hentity).2
  rw [columns_ofSpec h, List.map_map, rowOf]
  apply List.map_congr_left
  intro column hcolumn
  exact store.cell_passing h hand sentinel override entity separator hhas hcolumn

end Store

/-- With distinct entity names and filters chained by AND, a directive's answer has the rows that
are computed entity by entity, each once. It is given unless a limit of the engine refuses it. -/
theorem answer_is_per_entity (settings : Settings) (store : Store) (spec : TableSpec)
    (parameter : Option Text) (hnames : (store.entities.map (·.name)).Nodup)
    (hcolumns : spec.columns ≠ []) (hand : ∀ filter ∈ spec.filters, filter.logic = .and)
    (hfew : (settings.query spec parameter).joins.keys.length < Query.mostTables)
    (apart : settings.store.TellsApart (settings.query spec parameter).joins.keys.length) :
    let sentinel := settings.directive.sentinel
    let query := settings.query spec parameter
    let rows := store.answer settings.store.separator query
    rows.Perm
      ((store.entities.filter (store.HasRow sentinel spec.filters query.joins.keys)).map
        (store.rowOf sentinel settings.store.separator spec)) ∧
    settings.answer (.tables ⟨settings.store, store⟩) spec parameter =
      (query.refusal? settings.store).elim (.ok ⟨query, rows⟩) .error :=
  ⟨store.answer_perm_of_and hcolumns hand hnames _ _ _,
    answer_named settings store parameter hcolumns hfew apart⟩

def fruitStore : Store :=
  { entities := [⟨1, "apple".toList⟩, ⟨2, "lemon".toList⟩, ⟨3, "melon".toList⟩]
    attributes := [⟨1, "color".toList, some "red".toList⟩, ⟨1, "tag".toList, some "x".toList⟩,
      ⟨1, "color".toList, some "green".toList⟩, ⟨1, "tag".toList, some "y".toList⟩,
      ⟨1, "tag".toList, some "x".toList⟩, ⟨2, "color".toList, some "yellow".toList⟩,
      ⟨3, "tag".toList, some "x".toList⟩] }

def fruitSpec : TableSpec :=
  { columns := [⟨"%pageid%".toList, .page⟩, ⟨"color".toList, .text⟩, ⟨"tag".toList, .text⟩]
    filters := [⟨"color".toList, .notEqual, .ofText "green".toList, .and⟩] }

set_option maxRecDepth 20000 in
theorem fruit_rows :
    ∃ rows, ({} : Settings).answer (.tables ⟨{}, fruitStore⟩) fruitSpec none =
        .ok ⟨({} : Settings).query fruitSpec none, rows⟩ ∧
      rows.Perm [["apple".toList, "red".toList, "x, y".toList],
        ["lemon".toList, "yellow".toList, []]] := by
  obtain ⟨hrows, hanswer⟩ := answer_is_per_entity {} fruitStore fruitSpec none (by decide)
    (by decide) (by decide) (by decide) (default_tellsApart _)
  exact ⟨_, hanswer, hrows.trans (List.Perm.of_eq (by decide))⟩

end WikiPivot
