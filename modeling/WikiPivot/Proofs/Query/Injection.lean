import WikiPivot.Proofs.Query.Keys
import WikiPivot.Proofs.Query.Reading

/-! # Texts of a directive stay inside their literals

Keys, values and separators reach the statement as literals only. All that stands outside of the
literals is settled by which mentions of a directive name the same key, never by what the key is.
-/
namespace WikiPivot

open Sql

def SamePattern (xs ys : List Text) : Prop := ∀ i j : Nat, xs[i]? = xs[j]? ↔ ys[i]? = ys[j]?

/-- Two directives that differ in the texts of their keys and values alone: they have as many
columns, the same direction of sort if any, the same comparators and logic words, and mention equal
keys, and the page itself, in the same places. -/
structure SameShape (sentinel : Text) (spec spec' : TableSpec) (sort sort' : Option SortKey) :
    Prop where
  columns : spec.columns.length = spec'.columns.length
  direction : sort.map (·.direction) = sort'.map (·.direction)
  comparisons : spec.filters.map (fun f => (f.logic, f.comparator)) =
    spec'.filters.map (fun f => (f.logic, f.comparator))
  keys : SamePattern (sentinel :: spec.mentions sort) (sentinel :: spec'.mentions sort')

theorem SamePattern.length_le {xs ys : List Text} (h : SamePattern xs ys) :
    ys.length ≤ xs.length := by
  -- a place behind both lists looks like the first one behind `xs`
  have hx : xs[xs.length]? = xs[xs.length + ys.length]? := by simp
  have hy := (h _ _).mp hx
  rw [List.getElem?_eq_none (Nat.le_add_left _ _)] at hy
  exact List.getElem?_eq_none_iff.mp hy

theorem SamePattern.symm {xs ys : List Text} (h : SamePattern xs ys) : SamePattern ys xs :=
  fun i j => (h i j).symm

/-- Lists of one pattern differ by a renaming that keeps different members different. -/
theorem SamePattern.exists_renaming {xs ys : List Text} (h : SamePattern xs ys) :
    ∃ f : Text → Text, ys = xs.map f ∧ ∀ x ∈ xs, ∀ y ∈ xs, f x = f y → x = y := by
  have hlen : xs.length = ys.length := Nat.le_antisymm h.symm.length_le h.length_le
  let f (x : Text) : Text := (ys[xs.idxOf x]?).getD []
  have at_place : ∀ i (hi : i < xs.length), ys[i]? = some (f xs[i]) := by
    intro i hi
    have hmem : xs[i] ∈ xs := List.getElem_mem hi
    have hplace : xs.idxOf xs[i] < xs.length := List.idxOf_lt_length_iff.mpr hmem
    have same : ys[i]? = ys[xs.idxOf xs[i]]? := (h _ _).mp (by
      rw [List.getElem?_idxOf hmem, List.getElem?_eq_getElem hi])
    have inside : ys[xs.idxOf xs[i]]? = some ys[xs.idxOf xs[i]] :=
      List.getElem?_eq_getElem (by omega)
    simp only [f, inside, Option.getD_some]
    rw [same, inside]
  refine ⟨f, ?_, ?_⟩
  · apply List.ext_getElem?
    intro i
    by_cases hi : i < xs.length
    · rw [at_place i hi, List.getElem?_map, List.getElem?_eq_getElem hi, Option.map_some]
    · rw [List.getElem?_eq_none (by omega), List.getElem?_eq_none (by simp; omega)]
  · intro x hx y hy hxy
    obtain ⟨i, hi, rfl⟩ := List.mem_iff_getElem.mp hx
    obtain ⟨j, hj, rfl⟩ := List.mem_iff_getElem.mp hy
    have := (h i j).mpr (by rw [at_place i hi, at_place j hj, hxy])
    rw [List.getElem?_eq_getElem hi, List.getElem?_eq_getElem hj] at this
    exact Option.some.inj this

theorem SamePattern.of_renaming {xs : List Text} {f : Text → Text}
    (h : ∀ x ∈ xs, ∀ y ∈ xs, f x = f y → x = y) : SamePattern xs (xs.map f) := by
  intro i j
  rw [List.getElem?_map, List.getElem?_map]
  constructor
  · intro e
    rw [e]
  · intro e
    cases hi : xs[i]? with
    | none => simpa [hi, eq_comm] using e
    | some x =>
      cases hj : xs[j]? with
      | none => simp [hi, hj] at e
      | some y =>
        have := h x (List.mem_of_getElem? hi) y (List.mem_of_getElem? hj)
          (by simpa [hi, hj] using e)
        rw [this]

theorem idxOf_map_of_injOn {f : Text → Text} {x : Text} {xs : List Text}
    (h : ∀ y ∈ xs, f y = f x → y = x) : (xs.map f).idxOf (f x) = xs.idxOf x := by
  induction xs with
  | nil => rfl
  | cons y ys ih =>
    have hys := ih fun z hz => h z (List.mem_cons_of_mem _ hz)
    by_cases hy : y = x
    · simp [hy]
    · have hf : f y ≠ f x := fun e => hy (h y List.mem_cons_self e)
      rw [List.map_cons, List.idxOf_cons_ne _ hf, List.idxOf_cons_ne _ hy, hys]

/-- The place of a key among the joins survives a renaming. -/
theorem operand_renamed {sentinel : Text} {mentioned : List Text} {f : Text → Text}
    (hs : f sentinel = sentinel)
    (hinj : ∀ x ∈ sentinel :: mentioned, ∀ y ∈ sentinel :: mentioned, f x = f y → x = y) :
    (mentioned.map f).map
        (Query.operand sentinel (.ofKeys ((mentioned.map f).filter (· ≠ sentinel)))) =
      mentioned.map (Query.operand sentinel (.ofKeys (mentioned.filter (· ≠ sentinel)))) ∧
    (Joins.ofKeys ((mentioned.map f).filter (· ≠ sentinel))).keys =
      (Joins.ofKeys (mentioned.filter (· ≠ sentinel))).keys.map f := by
  have itself : ∀ x ∈ mentioned, f x = sentinel ↔ x = sentinel := by
    intro x hx
    constructor
    · intro e
      exact hinj x (List.mem_cons_of_mem _ hx) sentinel List.mem_cons_self (e.trans hs.symm)
    · rintro rfl
      exact hs
  have hfilter : (mentioned.map f).filter (· ≠ sentinel) =
      (mentioned.filter (· ≠ sentinel)).map f := by
    rw [List.filter_map]
    congr 1
    apply List.filter_congr
    intro x hx
    simp [itself x hx]
  have hkeys : distinct ((mentioned.filter (· ≠ sentinel)).map f) =
      (distinct (mentioned.filter (· ≠ sentinel))).map f := by
    apply distinct_map_of_injOn
    intro x hx y hy
    exact hinj x (List.mem_cons_of_mem _ (List.mem_filter.mp hx).1)
      y (List.mem_cons_of_mem _ (List.mem_filter.mp hy).1)
  refine ⟨?_, by rw [hfilter]; exact hkeys⟩
  rw [hfilter, List.map_map]
  apply List.map_congr_left
  intro x hx
  by_cases hxs : x = sentinel
  · simp [Query.operand, hxs, hs]
  · have hfx : f x ≠ sentinel := fun e => hxs ((itself x hx).mp e)
    simp only [Function.comp_apply, Query.operand, if_neg hfx, if_neg hxs, Joins.slot,
      Joins.ofKeys, hkeys]
    congr 1
    apply idxOf_map_of_injOn
    intro y hy
    exact hinj y (List.mem_cons_of_mem _ (List.mem_filter.mp (mem_distinct.mp hy)).1)
      x (List.mem_cons_of_mem _ hx)

def Term.blanked : Term → Term
  | anchor => anchor
  | comparison operand comparator _ => comparison operand comparator ⟨[]⟩

def Query.blanked (query : Query) : Query :=
  { query with
    joins := ⟨query.joins.keys.map fun _ => []⟩
    terms := query.terms.map fun (logic, term) => (logic, term.blanked)
    sort := none }

theorem order_congr {operand operand' : Text → Operand} {sort sort' : Option SortKey}
    (hdirection : sort.map (·.direction) = sort'.map (·.direction))
    (h : sort'.toList.map (operand' ∘ (·.key)) = sort.toList.map (operand ∘ (·.key))) :
    sort.map (fun s => (operand s.key, s.direction)) =
      sort'.map fun s => (operand' s.key, s.direction) := by
  cases sort with
  | none =>
    cases sort' with
    | none => rfl
    | some s' => cases hdirection
  | some s =>
    cases sort' with
    | none => cases hdirection
    | some s' =>
      have hs : s.direction = s'.direction := Option.some.inj hdirection
      have ho : operand' s'.key = operand s.key := (List.cons.inj h).1
      simp [hs, ho]

/-- Directives of one shape lead to queries that differ in their texts alone. -/
theorem blanked_ofSpec {sentinel : Text} {spec spec' : TableSpec}
    {override override' : Option SortKey} (h : spec.columns ≠ []) (h' : spec'.columns ≠ [])
    (shape : SameShape sentinel spec spec' (Query.effectiveSort spec override)
      (Query.effectiveSort spec' override')) :
    (Query.ofSpec sentinel spec override).blanked =
      (Query.ofSpec sentinel spec' override').blanked := by
  rw [ofSpec_eq h, ofSpec_eq h']
  generalize Query.effectiveSort spec override = sort at *
  generalize Query.effectiveSort spec' override' = sort' at *
  obtain ⟨f, hf, hinj⟩ := shape.keys.exists_renaming
  obtain ⟨hs, hmentions⟩ := List.cons.inj hf
  obtain ⟨hoperands, hkeys⟩ := operand_renamed hs.symm hinj
  change spec'.mentions sort' = (spec.mentions sort).map f at hmentions
  rw [← hmentions] at hoperands hkeys
  simp only
  generalize Joins.ofKeys ((spec.mentions sort).filter (· ≠ sentinel)) = joins at *
  generalize Joins.ofKeys ((spec'.mentions sort').filter (· ≠ sentinel)) = joins' at *
  simp only [TableSpec.mentions, List.map_append, List.map_map] at hoperands
  have hsort : sort'.toList.length = sort.toList.length := by
    have := congrArg (·.toList.length) shape.direction
    simpa only [Option.toList_map, List.length_map] using this.symm
  obtain ⟨hfront, hfilters⟩ := List.append_inj hoperands (by simp [shape.columns, hsort])
  obtain ⟨hcolumns, horder⟩ := List.append_inj hfront (by simp [shape.columns])
  have hcomparisons : ∀ (spec : TableSpec) (joins : Joins),
      (spec.filters.map fun filter => (filter.logic,
        Term.comparison (Query.operand sentinel joins filter.key) filter.comparator ⟨[]⟩)) =
      List.zipWith (fun operand (entry : Logic × Comparator) =>
          (entry.1, Term.comparison operand entry.2 ⟨[]⟩))
        (spec.filters.map (Query.operand sentinel joins ∘ (·.key)))
        (spec.filters.map fun f => (f.logic, f.comparator)) := by
    intro spec joins
    simp [List.zipWith_map, List.zipWith_self]
  simp only [Query.blanked, List.map_append, List.map_map, Query.mk.injEq, Joins.mk.injEq]
  refine ⟨hcolumns.symm, ?_, ?_, trivial, ?_⟩
  · rw [hkeys, List.map_map]
    rfl
  · congr 1
    · rw [hkeys]
      cases joins.keys <;> rfl
    · have left := hcomparisons spec joins
      have right := hcomparisons spec' joins'
      rw [hfilters, ← shape.comparisons] at right
      exact left.trans right.symm
  · exact order_congr shape.direction horder

namespace Query

variable (store : StoreSettings)

theorem joinClauses_blanked (query : Query) :
    (query.blanked.joinClauses store).map (·.map Token.blanked) =
      (query.joinClauses store).map (·.map Token.blanked) := by
  -- only the place of a join is left of it
  have each : ∀ keys : List Text,
      (keys.zipIdx.map fun entry => (joinClause store entry.1 entry.2).map Token.blanked) =
        (List.range' 0 keys.length).map fun slot =>
          (joinClause store [] slot).map Token.blanked := by
    intro keys
    rw [← List.zipIdx_map_snd 0 keys, List.map_map]
    rfl
  simp only [joinClauses, List.map_map, Function.comp_def, each, blanked, List.length_map]

theorem term_blanked (term : Term) :
    (term.blanked.tokens store).map Token.blanked = (term.tokens store).map Token.blanked := by
  cases term with
  | anchor => rfl
  | comparison operand comparator literal => simp [Term.tokens, Term.blanked, Token.blanked]

theorem termClauses_blanked (query : Query) :
    (query.blanked.termClauses store).map (·.map Token.blanked) =
      (query.termClauses store).map (·.map Token.blanked) := by
  unfold termClauses blanked
  cases query.terms with
  | nil => rfl
  | cons first rest => simp [term_blanked]

/-- What a statement says outside of its literals is settled by the blanked query. -/
theorem outline_statement (query : Query) :
    (query.blanked.statement store).map Token.blanked =
      (query.statement store).map Token.blanked := by
  have hsame : query.blanked.yieldsNothing = query.yieldsNothing := rfl
  unfold statement
  rw [hsame]
  split
  · rfl
  · have hselect : query.blanked.selectClause store = query.selectClause store := rfl
    have horder : query.blanked.orderClause store = query.orderClause store := rfl
    simp only [clauses, List.cons_append, List.map_cons, List.map_append, blanked_parted,
      joinClauses_blanked, termClauses_blanked, hselect, horder]

end Query

theorem isJoined_operand (sentinel : Text) (joins : Joins) (key : Text) :
    (Query.operand sentinel joins key).isJoined = decide (key ≠ sentinel) := by
  unfold Query.operand
  split <;> simp_all [Operand.isJoined]

/-- The literals of a directive's statement: the separator for each joined column, the joined keys
and the compared values. -/
theorem literals_ofSpec (store : StoreSettings) {spec : TableSpec} (h : spec.columns ≠ [])
    (sentinel : Text) (override : Option SortKey) :
    ((Query.ofSpec sentinel spec override).statement store).filterMap Token.literal? =
      ((spec.columns.filter (·.key ≠ sentinel)).map fun _ =>
        (Literal.ofText store.separator).value) ++
      ((Query.ofSpec sentinel spec override).joins.keys.map fun key =>
        (Literal.ofText key).value) ++
      spec.filters.map (·.value.value) := by
  have hcolumns : ∀ joins : Joins,
      ((spec.columns.map fun column => Query.operand sentinel joins column.key).filter
        Operand.isJoined).map (fun _ => (Literal.ofText store.separator).value) =
      (spec.columns.filter (·.key ≠ sentinel)).map fun _ =>
        (Literal.ofText store.separator).value := by
    intro joins
    rw [List.filter_map, List.map_map]
    congr 1
    apply List.filter_congr
    intro column _
    exact isJoined_operand sentinel joins column.key
  have hanchor : ∀ joins : Joins,
      (((if joins.keys.isEmpty then [] else [(Logic.and, Term.anchor)]).map Prod.snd).filterMap
        Term.literal?) = [] := by
    intro joins
    cases joins.keys <;> rfl
  rw [Query.literals_statement store (ofSpec_yieldsNothing h sentinel override), ofSpec_eq h]
  simp only [hcolumns, List.map_append, List.filterMap_append, hanchor, List.nil_append,
    List.map_map]
  congr 1
  rw [List.filterMap_map, ← List.filterMap_eq_map]
  rfl

/-- A statement ends outside of every quote. Its literals are the separators, the joined keys and
the raw values without their NUL characters; its names are the configured ones; and what stands
outside of the literals is the same for every directive of the same shape. -/
theorem statement_keeps_texts_in_literals (settings : Settings) (spec : TableSpec)
    (override : Option SortKey) (raws : List Text) (hcolumns : spec.columns ≠ [])
    (hraws : spec.filters.map (·.value) = raws.map Literal.ofText) :
    let sentinel := settings.directive.sentinel
    let query := Query.ofSpec sentinel spec override
    ∃ pieces, read (query.sql settings.store) = some pieces ∧
      literals pieces =
        (((spec.columns.filter (·.key ≠ sentinel)).map fun _ => settings.store.separator) ++
          query.joins.keys ++ raws).map (·.filter (· != '\x00')) ∧
      (∀ name ∈ identifiers pieces, ∃ which : StoreName, name = settings.store.get which) ∧
      ∀ (spec' : TableSpec) (override' : Option SortKey), spec'.columns ≠ [] →
        SameShape sentinel spec spec' (Query.effectiveSort spec override)
          (Query.effectiveSort spec' override') →
        ∃ pieces', read ((Query.ofSpec sentinel spec' override').sql settings.store) =
            some pieces' ∧
          outline pieces' = outline pieces := by
  intro sentinel query
  refine ⟨_, query.read_sql settings.store, ?_, ?_, ?_⟩
  · have hvalues : spec.filters.map (·.value.value) = raws.map (·.filter (· != '\x00')) := by
      have := congrArg (List.map Literal.value) hraws
      rwa [List.map_map, List.map_map] at this
    rw [literals_pieces, literals_ofSpec settings.store hcolumns, hvalues, List.map_append,
      List.map_append, List.map_map]
    rfl
  · intro name hname
    rw [identifiers_pieces] at hname
    obtain ⟨token, htoken, hnamed⟩ := List.mem_filterMap.mp hname
    exact query.configured_statement settings.store token htoken name hnamed
  · intro spec' override' hcolumns' hshape
    refine ⟨_, Query.read_sql settings.store _, ?_⟩
    have hblanked := blanked_ofSpec hcolumns hcolumns' hshape
    rw [outline_pieces, outline_pieces, ← Query.outline_statement, ← hblanked,
      Query.outline_statement]

def hostileSpec : TableSpec :=
  { columns := [⟨"%pageid%".toList, .page⟩, ⟨"o'clock".toList, .text⟩]
    filters := [⟨"o'clock".toList, .equal, .ofText "x' OR '1'='1".toList, .and⟩] }

def plainSpec : TableSpec :=
  { columns := [⟨"%pageid%".toList, .page⟩, ⟨"hour".toList, .text⟩]
    filters := [⟨"hour".toList, .equal, .ofText "noon".toList, .and⟩] }

theorem hostile_and_plain_same_shape :
    SameShape "%pageid%".toList hostileSpec plainSpec none none where
  columns := rfl
  direction := rfl
  comparisons := rfl
  keys := by
    have h : "%pageid%".toList :: plainSpec.mentions none =
        ("%pageid%".toList :: hostileSpec.mentions none).map fun key =>
          if key = "o'clock".toList then "hour".toList else key := by decide
    rw [h]
    exact SamePattern.of_renaming (by decide)

theorem hostile_texts_stay_in_literals :
    ∃ pieces pieces',
      read ((Query.ofSpec "%pageid%".toList hostileSpec none).sql {}) = some pieces ∧
      literals pieces = [", ".toList, "o'clock".toList, "x' OR '1'='1".toList] ∧
      read ((Query.ofSpec "%pageid%".toList plainSpec none).sql {}) = some pieces' ∧
      outline pieces' = outline pieces := by
  obtain ⟨pieces, hread, hliterals, _, hsame⟩ :=
    statement_keeps_texts_in_literals {} hostileSpec none ["x' OR '1'='1".toList] (by decide)
      (by decide)
  obtain ⟨pieces', hread', houtline⟩ :=
    hsame plainSpec none (by decide) hostile_and_plain_same_shape
  exact ⟨pieces, pieces', hread, hliterals.trans (by decide), hread', houtline⟩

end WikiPivot
