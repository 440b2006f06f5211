import WikiPivot.Query.Basic
import WikiPivot.Proofs.Distinct
import Mathlib.Data.List.Basic

/-! # The joined keys of a directive's query

A query joins the distinct keys that the directive mentions, those of its columns first.
-/
namespace WikiPivot

def TableSpec.mentions (spec : TableSpec) (sort : Option SortKey) : List Text :=
  spec.columns.map (·.key) ++ sort.toList.map (·.key) ++ spec.filters.map (·.key)

/-- The sort in force is the one asked for or the directive's own. -/
theorem TableSpec.mem_mentions_effectiveSort {spec : TableSpec} {override : Option SortKey}
    {key : Text} (h : key ∈ spec.mentions (Query.effectiveSort spec override)) :
    key ∈ spec.mentions spec.sort ∨ ∃ sort ∈ override, sort.key = key := by
  rw [mentions, List.mem_append, List.mem_append] at h
  rcases h with (hshown | hsorted) | hcompared
  · left
    exact List.mem_append_left _ (List.mem_append_left _ hshown)
  · obtain ⟨sort, hsort, rfl⟩ := List.mem_map.mp hsorted
    rw [Option.mem_toList, Query.effectiveSort, Option.filter_eq_some_iff,
      Option.or_eq_some_iff, Option.filter_eq_some_iff] at hsort
    rcases hsort.1 with ⟨hasked, -⟩ | ⟨-, hown⟩
    · exact Or.inr ⟨sort, hasked, rfl⟩
    · left
      refine List.mem_append_left _ (List.mem_append_right _ ?_)
      rw [hown]
      exact List.mem_singleton_self _
  · left
    exact List.mem_append_right _ hcompared

def TableSpec.shownKeys (spec : TableSpec) (sentinel : Text) : List Text :=
  distinct ((spec.columns.map (·.key)).filter (· ≠ sentinel))

theorem mem_shownKeys {spec : TableSpec} {sentinel key : Text} (hkey : key ≠ sentinel)
    (hm : key ∈ spec.columns.map (·.key)) : key ∈ spec.shownKeys sentinel :=
  mem_distinct.mpr (List.mem_filter.mpr ⟨hm, by simpa using hkey⟩)

theorem ofSpec_of_no_columns {spec : TableSpec} (h : spec.columns = []) (sentinel : Text)
    (override : Option SortKey) : Query.ofSpec sentinel spec override = Query.nothing := by
  rw [Query.ofSpec, h]
  rfl

theorem ofSpec_eq {spec : TableSpec} (h : spec.columns ≠ []) (sentinel : Text)
    (override : Option SortKey) :
    Query.ofSpec sentinel spec override =
      let sort := Query.effectiveSort spec override
      let joins := Joins.ofKeys ((spec.mentions sort).filter (· ≠ sentinel))
      let operand := Query.operand sentinel joins
      { columns := spec.columns.map fun column => operand column.key
        joins
        terms :=
          (if joins.keys.isEmpty then [] else [(.and, .anchor)]) ++
            spec.filters.map fun filter =>
              (filter.logic, .comparison (operand filter.key) filter.comparator filter.value)
        sort
        order := sort.map fun sort => (operand sort.key, sort.direction) } := by
  rw [Query.ofSpec, if_neg (by simpa using h)]
  rfl

section

variable {spec : TableSpec} (h : spec.columns ≠ []) (sentinel : Text) (override : Option SortKey)

include h

theorem ofSpec_yieldsNothing : (Query.ofSpec sentinel spec override).yieldsNothing = false := by
  simp [ofSpec_eq h, Query.yieldsNothing, h]

theorem keys_ofSpec :
    (Query.ofSpec sentinel spec override).joins.keys =
      distinct ((spec.mentions (Query.effectiveSort spec override)).filter (· ≠ sentinel)) := by
  rw [ofSpec_eq h]
  rfl

theorem nodup_keys_ofSpec : (Query.ofSpec sentinel spec override).joins.keys.Nodup := by
  rw [keys_ofSpec h]
  exact nodup_distinct _

theorem shownKeys_isPrefix_keys :
    spec.shownKeys sentinel <+: (Query.ofSpec sentinel spec override).joins.keys := by
  rw [keys_ofSpec h, TableSpec.mentions, List.append_assoc, List.filter_append]
  exact isPrefix_distinct_append _ _

/-- Whatever the sort and the filters are, the first joined key is that of a column if a column is
joined. -/
theorem head?_keys_ofSpec (hshown : spec.shownKeys sentinel ≠ []) :
    (Query.ofSpec sentinel spec override).joins.keys.head? =
      (spec.shownKeys sentinel).head? := by
  obtain ⟨back, hback⟩ := shownKeys_isPrefix_keys h sentinel override
  rw [← hback, List.head?_append_of_ne_nil _ hshown]

theorem mem_keys_ofSpec {key : Text} (hkey : key ≠ sentinel)
    (hm : key ∈ spec.mentions (Query.effectiveSort spec override)) :
    key ∈ (Query.ofSpec sentinel spec override).joins.keys := by
  rw [keys_ofSpec h]
  simpa [hkey] using hm

theorem eq_sentinel_or_mem_keys {key : Text}
    (hm : key ∈ spec.mentions (Query.effectiveSort spec override)) :
    key = sentinel ∨ key ∈ (Query.ofSpec sentinel spec override).joins.keys := by
  by_cases hk : key = sentinel
  · exact Or.inl hk
  · exact Or.inr (mem_keys_ofSpec h sentinel override hk hm)

theorem ne_sentinel_of_mem_keys {key : Text}
    (hm : key ∈ (Query.ofSpec sentinel spec override).joins.keys) : key ≠ sentinel := by
  rw [keys_ofSpec h] at hm
  simpa using (List.mem_filter.mp (mem_distinct.mp hm)).2

theorem columns_ofSpec :
    (Query.ofSpec sentinel spec override).columns =
      spec.columns.map fun column =>
        Query.operand sentinel (Query.ofSpec sentinel spec override).joins column.key := by
  rw [ofSpec_eq h]

/-- The columns stand at the places of their keys among the joined keys of the columns alone. -/
theorem columns_shown :
    (Query.ofSpec sentinel spec override).columns =
      spec.columns.map fun column =>
        Query.operand sentinel ⟨spec.shownKeys sentinel⟩ column.key := by
  rw [columns_ofSpec h]
  apply List.map_congr_left
  intro column hcolumn
  unfold Query.operand
  by_cases hk : column.key = sentinel
  · rw [if_pos hk, if_pos hk]
  · have hmem : column.key ∈ spec.shownKeys sentinel :=
      mem_shownKeys hk (List.mem_map_of_mem hcolumn)
    rw [if_neg hk, if_neg hk]
    congr 1
    exact ((shownKeys_isPrefix_keys h sentinel override).idxOf_eq_of_mem hmem).symm

theorem terms_ofSpec :
    (Query.ofSpec sentinel spec override).terms =
      (if (Query.ofSpec sentinel spec override).joins.keys.isEmpty then [] else
        [(.and, .anchor)]) ++
      spec.filters.map fun filter =>
        (filter.logic,
          .comparison
            (Query.operand sentinel (Query.ofSpec sentinel spec override).joins filter.key)
            filter.comparator filter.value) := by
  rw [ofSpec_eq h]

theorem order_ofSpec :
    (Query.ofSpec sentinel spec override).order =
      (Query.effectiveSort spec override).map fun sort =>
        (Query.operand sentinel (Query.ofSpec sentinel spec override).joins sort.key,
          sort.direction) := by
  rw [ofSpec_eq h]

end

end WikiPivot
