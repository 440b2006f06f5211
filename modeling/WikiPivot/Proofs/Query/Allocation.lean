import WikiPivot.Proofs.Query.Clauses
import WikiPivot.Proofs.Text.Decimal

/-! # Aliases handed out while a statement is written

A statement can be written in one pass that asks for an alias wherever it reads a joined value and
writes the joins last. An alias keeps its key however many joins follow, so the pass ends with the
same statement and the same joins.
-/
namespace WikiPivot

open Sql

variable {α β : Type}

namespace Joins

def reading (sentinel : Text) (joins : Joins) (key : Text) : Joins :=
  if key = sentinel then joins else joins.insert key

theorem isPrefix_insert (joins : Joins) (key : Text) : joins.keys <+: (joins.insert key).keys := by
  unfold insert addNew
  split
  · exact List.prefix_refl _
  · exact List.prefix_append _ _

theorem reading_isPrefix (sentinel : Text) (joins : Joins) (key : Text) :
    joins.keys <+: (joins.reading sentinel key).keys := by
  unfold reading
  split
  · exact List.prefix_refl _
  · exact joins.isPrefix_insert key

/-- Steps that each keep the joins there are keep those at the beginning. -/
theorem foldl_isPrefix {step : Joins → α → Joins}
    (hstep : ∀ joins item, joins.keys <+: (step joins item).keys) (joins : Joins) (items : List α) :
    joins.keys <+: (items.foldl step joins).keys := by
  induction items generalizing joins with
  | nil => exact List.prefix_refl _
  | cons item items ih => exact (hstep joins item).trans (ih _)

theorem foldl_reading_isPrefix (sentinel : Text) (joins : Joins) (keys : List Text) :
    joins.keys <+: (keys.foldl (reading sentinel) joins).keys :=
  foldl_isPrefix (reading_isPrefix sentinel) joins keys

theorem mem_reading {sentinel key : Text} (hkey : key ≠ sentinel) (joins : Joins) :
    key ∈ (joins.reading sentinel key).keys := by
  rw [reading, if_neg hkey]
  exact mem_addNew.mpr (Or.inr rfl)

theorem foldl_reading (sentinel : Text) (keys : List Text) :
    keys.foldl (reading sentinel) empty = ofKeys (keys.filter (· ≠ sentinel)) := by
  induction keys using List.reverseRecOn with
  | nil => rfl
  | append_singleton keys key ih =>
    rw [List.foldl_append, ih, List.foldl_cons, List.foldl_nil, List.filter_append, reading]
    by_cases hkey : key = sentinel
    · simp [hkey]
    · have hone : [key].filter (· ≠ sentinel) = [key] := by simp [hkey]
      rw [if_neg hkey, hone, ofKeys, insert, ofKeys, distinct, distinct, List.foldl_append,
        List.foldl_cons, List.foldl_nil]

/-- An alias is that of the same key in all later joins. -/
theorem slot_eq_of_isPrefix {joins later : Joins} {key : Text} (hkey : key ∈ joins.keys)
    (hlater : joins.keys <+: later.keys) : joins.slot key = later.slot key :=
  hlater.idxOf_eq_of_mem hkey

end Joins

section

variable (store : StoreSettings) (sentinel : Text)

/-- What a key is written as under some joins, with `shown` for the alias of its own join. -/
def written (shown : Text → Text) (joins : Joins) (key : Text) : Text :=
  if key = sentinel then store.entityNameText else shown (Joins.aliasAt (joins.slot key))

theorem referenceText_operand (shown : Text → Text) (joins : Joins) (key : Text) :
    referenceText store shown (Query.operand sentinel joins key) =
      written store sentinel shown joins key := by
  unfold Query.operand written
  split <;> rfl

def reference (shown : Text → Text) (key : Text) : StateM Joins Text :=
  if key = sentinel then pure store.entityNameText
  else do
    let name ← modifyGet (·.request key)
    pure (shown name)

def writeOrder : Option SortKey → StateM Joins Text
  | none => pure "ORDER BY 1 ASC".toList
  | some sort => do
    let value ← reference store sentinel store.valueText sort.key
    pure (orderText value sort.direction)

/-- Writes a statement in one pass over the columns, the sort and the filters; the joins are written
from what was asked for. -/
def writeStatement (spec : TableSpec) (sort : Option SortKey) : StateM Joins Text := do
  let selected ← spec.columns.mapM fun column =>
    reference store sentinel store.aggregateText column.key
  let order ← writeOrder store sentinel sort
  let conditions ← spec.filters.mapM fun filter => do
    let value ← reference store sentinel store.valueText filter.key
    pure (filter.logic, filter.text value)
  let joins ← get
  pure (store.statementText joins selected order conditions)

variable {sentinel}

theorem run_reference (shown : Text → Text) (key : Text) {joins later : Joins}
    (hlater : (joins.reading sentinel key).keys <+: later.keys) :
    (reference store sentinel shown key).run joins =
      pure (written store sentinel shown later key, joins.reading sentinel key) := by
  unfold reference written
  by_cases hkey : key = sentinel
  · rw [if_pos hkey, if_pos hkey, Joins.reading, if_pos hkey]
    rfl
  · have hslot := Joins.slot_eq_of_isPrefix (Joins.mem_reading hkey joins) hlater
    rw [if_neg hkey, if_neg hkey, ← hslot, Joins.reading, if_neg hkey]
    rfl

/-- A pass over items leaves the joins of their keys, and every reference it wrote on the way is
right for all later joins. -/
theorem run_mapM_reference (shown : Text → Text) (key : α → Text) (f : α → Text → β)
    (items : List α) {joins later : Joins}
    (hlater : ((items.map key).foldl (Joins.reading sentinel) joins).keys <+: later.keys) :
    (items.mapM fun item => do
        let value ← reference store sentinel shown (key item)
        pure (f item value)).run joins =
      pure (items.map fun item => f item (written store sentinel shown later (key item)),
        (items.map key).foldl (Joins.reading sentinel) joins) := by
  induction items generalizing joins with
  | nil => rfl
  | cons item items ih =>
    -- The first reference has to be right for joins that only the later items ask for.
    have hfirst : (joins.reading sentinel (key item)).keys <+: later.keys :=
      (Joins.foldl_reading_isPrefix sentinel _ _).trans hlater
    have hstep := run_reference store shown (key item) hfirst
    have hrest := ih hlater
    rw [List.mapM_cons, StateT.run_bind, StateT.run_bind, hstep]
    simp only [pure_bind, StateT.run_bind, StateT.run_pure, hrest]
    rfl

theorem run_writeOrder (sort : Option SortKey) {joins later : Joins}
    (hlater :
      ((sort.toList.map (·.key)).foldl (Joins.reading sentinel) joins).keys <+: later.keys) :
    (writeOrder store sentinel sort).run joins =
      pure (sortText (written store sentinel store.valueText later) sort,
        (sort.toList.map (·.key)).foldl (Joins.reading sentinel) joins) := by
  cases sort with
  | none => rfl
  | some sort =>
    have hstep := run_reference store store.valueText sort.key hlater
    rw [writeOrder, StateT.run_bind, hstep, pure_bind]
    rfl

/-- One pass writes every reference as the joins at its end want it. -/
theorem run_writeStatement (spec : TableSpec) (sort : Option SortKey) :
    let joins := Joins.ofKeys ((spec.mentions sort).filter (· ≠ sentinel))
    let read := written store sentinel store.valueText joins
    (writeStatement store sentinel spec sort).run .empty =
      pure (store.statementText joins
          (spec.columns.map fun column =>
            written store sentinel store.aggregateText joins column.key)
          (sortText read sort)
          (spec.filters.map fun filter => (filter.logic, filter.text (read filter.key))),
        joins) := by
  intro joins read
  -- Each part starts from the joins that the one before it left, and all of them extend to `joins`.
  let shown := (spec.columns.map (·.key)).foldl (Joins.reading sentinel) .empty
  let sorted := (sort.toList.map (·.key)).foldl (Joins.reading sentinel) shown
  have hjoins : (spec.filters.map (·.key)).foldl (Joins.reading sentinel) sorted = joins := by
    rw [← List.foldl_append, ← List.foldl_append, ← List.append_assoc]
    exact Joins.foldl_reading sentinel (spec.mentions sort)
  have hsorted : sorted.keys <+: joins.keys := by
    rw [← hjoins]
    exact Joins.foldl_reading_isPrefix sentinel sorted _
  have hshown : shown.keys <+: joins.keys :=
    (Joins.foldl_reading_isPrefix sentinel shown _).trans hsorted
  have hfilters : ((spec.filters.map (·.key)).foldl (Joins.reading sentinel) sorted).keys <+:
      joins.keys := congrArg Joins.keys hjoins ▸ List.prefix_refl _
  have hselect := run_mapM_reference store store.aggregateText Column.key
    (fun _ value => value) spec.columns hshown
  have horder := run_writeOrder store sort hsorted
  have hconditions := run_mapM_reference store store.valueText Filter.key
    (fun filter value => (filter.logic, filter.text value)) spec.filters hfilters
  simp only [bind_pure] at hselect
  rw [writeStatement, StateT.run_bind, hselect, pure_bind, StateT.run_bind, horder, pure_bind,
    StateT.run_bind, hconditions, pure_bind, hjoins]
  rfl

end

namespace Joins

theorem aliasAt_injective {slot slot' : Nat} (h : aliasAt slot = aliasAt slot') : slot = slot' := by
  have htail : Text.ofNat (slot + 1) = Text.ofNat (slot' + 1) := (List.cons.inj h).2
  have := Text.ofNat_injective htail
  omega

theorem mem_entries {joins : Joins} {entry : Text × Text} :
    entry ∈ joins.entries ↔
      ∃ slot, joins.keys[slot]? = some entry.1 ∧ entry.2 = aliasAt slot := by
  rw [entries_eq, List.mem_map]
  constructor
  · rintro ⟨⟨key, slot⟩, hmem, rfl⟩
    exact ⟨slot, List.mk_mem_zipIdx_iff_getElem?.mp hmem, rfl⟩
  · rintro ⟨slot, hkey, hname⟩
    refine ⟨(entry.1, slot), List.mk_mem_zipIdx_iff_getElem?.mpr hkey, ?_⟩
    simp only [← hname]

/-- Entries of one alias have one place. -/
theorem entry_eq {joins : Joins} {a b : Text × Text} (ha : a ∈ joins.entries)
    (hb : b ∈ joins.entries) (hname : a.2 = b.2) : a = b := by
  obtain ⟨slot, hkey, hat⟩ := mem_entries.mp ha
  obtain ⟨slot', hkey', hat'⟩ := mem_entries.mp hb
  have hslot : slot = slot' := aliasAt_injective (by rw [← hat, ← hat', hname])
  rw [hslot, hkey'] at hkey
  exact Prod.ext (Option.some.inj hkey).symm hname

theorem map_fst_entries (joins : Joins) : joins.entries.map Prod.fst = joins.keys := by
  rw [entries_eq, List.map_map]
  exact List.zipIdx_map_fst 0 joins.keys

theorem map_snd_entries (joins : Joins) : joins.entries.map Prod.snd = joins.aliases := by
  have hlength : joins.aliases.length = joins.keys.length := by simp [aliases]
  exact List.map_snd_zip (by rw [hlength])

end Joins

structure Query.Allocated (store : StoreSettings) (sentinel : Text) (spec : TableSpec)
    (sort : Option SortKey) (query : Query) : Prop where
  /-- The joined keys are those mentioned, where they are mentioned first. -/
  keys : query.joins.entries.map Prod.fst =
    ((spec.mentions sort).filter (· ≠ sentinel)).eraseDups
  once : (query.joins.entries.map Prod.fst).Nodup
  names : query.joins.entries.map Prod.snd =
    (List.range query.joins.entries.length).map fun slot => 'T' :: Text.ofNat (slot + 1)
  clauses : query.sql store = [' '].intercalate ((query.clauses store).map Sql.text)
  /-- Each join has one clause, in order, and no other clause joins. -/
  joined : ((query.clauses store).filter (·.head? = some (word "LEFT JOIN "))).map Sql.text =
    query.joins.entries.map store.joinText
  /-- Every reference is the entity's name or has the alias of its own key. -/
  statement :
    let name := fun key => Joins.aliasAt (query.joins.slot key)
    let read := fun key => if key = sentinel then store.entityNameText else
      store.valueText (name key)
    query.sql store = store.statementText query.joins
      (spec.columns.map fun column => if column.key = sentinel then store.entityNameText else
        store.aggregateText (name column.key))
      (sortText read sort)
      (spec.filters.map fun filter => (filter.logic, filter.text (read filter.key)))
  anchor : ∀ entry ∈ query.joins.entries.head?, entry.2 = "T1".toList
  declared : ∀ key ∈ spec.mentions sort, key ≠ sentinel →
    (key, Joins.aliasAt (query.joins.slot key)) ∈ query.joins.entries
  used : ∀ entry ∈ query.joins.entries, entry.1 ∈ spec.mentions sort ∧ entry.1 ≠ sentinel
  unshared : ∀ a ∈ query.joins.entries, ∀ b ∈ query.joins.entries, a.2 = b.2 → a = b

section

variable (store : StoreSettings) (sentinel : Text) {spec : TableSpec} (h : spec.columns ≠ [])
  (override : Option SortKey)

include h

theorem joins_ofSpec :
    (Query.ofSpec sentinel spec override).joins =
      Joins.ofKeys ((spec.mentions (Query.effectiveSort spec override)).filter (· ≠ sentinel)) := by
  rw [ofSpec_eq h]

theorem allocated_ofSpec :
    (Query.ofSpec sentinel spec override).Allocated store sentinel spec
      (Query.effectiveSort spec override) where
  keys := by
    rw [Joins.map_fst_entries, keys_ofSpec h, eraseDups_eq_distinct]
  once := by
    rw [Joins.map_fst_entries]
    exact nodup_keys_ofSpec h sentinel override
  names := by
    have hlength := congrArg List.length
      (Joins.map_fst_entries (Query.ofSpec sentinel spec override).joins)
    rw [List.length_map] at hlength
    rw [Joins.map_snd_entries, hlength]
    rfl
  clauses := sql_eq_intercalate store h sentinel override
  joined := by
    rw [joinClauses_eq_filter, text_joinClauses]
  statement := by
    have hsql := sql_ofSpec store h sentinel override
    simp only [referenceText_operand] at hsql
    exact hsql
  anchor := by
    intro entry hentry
    rw [entries_eq] at hentry
    cases hkeys : (Query.ofSpec sentinel spec override).joins.keys with
    | nil =>
      rw [hkeys] at hentry
      exact absurd hentry (by simp)
    | cons key keys =>
      rw [hkeys] at hentry
      obtain rfl : (key, Joins.aliasAt 0) = entry := by simpa using hentry
      simp [Joins.aliasAt, Text.ofNat]
  declared := by
    intro key hmention hkey
    refine Joins.mem_entries.mpr ⟨_, ?_, rfl⟩
    exact List.getElem?_idxOf (mem_keys_ofSpec h sentinel override hkey hmention)
  used := by
    intro entry hentry
    obtain ⟨slot, hkey, -⟩ := Joins.mem_entries.mp hentry
    have hmem := List.mem_of_getElem? hkey
    rw [keys_ofSpec h, mem_distinct, List.mem_filter] at hmem
    exact ⟨hmem.1, by simpa using hmem.2⟩
  unshared := fun _ ha _ hb hsame => Joins.entry_eq ha hb hsame

end

/-- The joins of a query are the keys that it reads, at first occurrence, and every alias of its
statement is that of the key it stands for. Handing the aliases out on the way, over the columns,
the sort and the filters, gives the same joins and the same statement. -/
theorem joins_allocated (store : StoreSettings) (sentinel : Text) {spec : TableSpec}
    (h : spec.columns ≠ []) (override : Option SortKey) :
    (Query.ofSpec sentinel spec override).Allocated store sentinel spec
        (Query.effectiveSort spec override) ∧
      (writeStatement store sentinel spec (Query.effectiveSort spec override)).run .empty =
        ((Query.ofSpec sentinel spec override).sql store,
          (Query.ofSpec sentinel spec override).joins) := by
  have hsql := sql_ofSpec store h sentinel override
  simp only [referenceText_operand] at hsql
  refine ⟨allocated_ofSpec store sentinel h override, ?_⟩
  rw [run_writeStatement, hsql, joins_ofSpec sentinel h override]
  rfl

def overlappingSpec : TableSpec :=
  { columns := [⟨"b".toList, .text⟩, ⟨"%pageid%".toList, .page⟩, ⟨"a".toList, .text⟩]
    sort := some ⟨"c".toList, .descending⟩
    filters := [⟨"d".toList, .equal, .ofText [], .and⟩,
      ⟨"b".toList, .like, .ofText "x".toList, .or⟩,
      ⟨"%pageid%".toList, .less, .ofText [], .and⟩] }

theorem overlapping_keys_joined_once :
    let query := Query.ofSpec "%pageid%".toList overlappingSpec none
    query.joins.entries = [("b".toList, "T1".toList), ("a".toList, "T2".toList),
      ("c".toList, "T3".toList), ("d".toList, "T4".toList)] ∧
    query.Allocated {} "%pageid%".toList overlappingSpec overlappingSpec.sort ∧
    (writeStatement {} "%pageid%".toList overlappingSpec overlappingSpec.sort).run .empty =
      (query.sql {}, query.joins) := by
  intro query
  have hcolumns : overlappingSpec.columns ≠ [] := by decide
  have hallocated := joins_allocated {} "%pageid%".toList hcolumns none
  exact ⟨by decide +kernel, hallocated.1, hallocated.2⟩

end WikiPivot
