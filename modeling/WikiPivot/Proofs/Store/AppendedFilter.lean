import WikiPivot.Proofs.Store.PerEntity
import WikiPivot.Proofs.Store.Shown
import WikiPivot.Proofs.Store.SortIndependence

/-! # A filter that is added last

A filter added by OR is a group of its own, so whatever met a group before still does. One added
by AND asks more of the last group and nothing of the others. The anchor does not move, for it
stands on a column's key, and a key that only the new filter mentions is joined behind the others.
-/
namespace WikiPivot

namespace TableSpec

def withFilter (spec : TableSpec) (filter : Filter) : TableSpec :=
  { spec with filters := spec.filters ++ [filter] }

variable (spec : TableSpec) {filter : Filter} (first : Text)

theorem conditions_withFilter :
    (spec.withFilter filter).conditions first = spec.conditions first ++ [.filter filter] := by
  simp [conditions, withFilter]

theorem conditionGroups_withFilter_or (hor : filter.logic = .or) :
    (spec.withFilter filter).conditionGroups first =
      spec.conditionGroups first ++ [[.filter filter]] := by
  rw [conditionGroups, conditions_withFilter]
  refine List.splitBy_append_cons [] fun last _ => ?_
  simp [Condition.logic, hor]

theorem conditionGroups_withFilter_and (hand : filter.logic = .and) :
    ∃ groups last, spec.conditionGroups first = groups ++ [last] ∧
      (spec.withFilter filter).conditionGroups first = groups ++ [last ++ [.filter filter]] := by
  rw [conditionGroups, conditionGroups, conditions_withFilter]
  refine splitBy_append_singleton (List.cons_ne_nil _ _) fun last _ => ?_
  exact decide_eq_true hand

end TableSpec

namespace Store

variable (store : Store) {sentinel : Text} {spec : TableSpec} {filter : Filter} {first : Text}
  {entity : Entity} {pick : Text → Match}

theorem meets_withFilter_or (hor : filter.logic = .or)
    (h : store.Meets sentinel (spec.conditionGroups first) entity pick) :
    store.Meets sentinel ((spec.withFilter filter).conditionGroups first) entity pick := by
  obtain ⟨hpick, group, hgroup, hall⟩ := h
  rw [spec.conditionGroups_withFilter_or first hor]
  exact ⟨hpick, group, List.mem_append_left _ hgroup, hall⟩

theorem meets_of_withFilter_and (hand : filter.logic = .and)
    (h : store.Meets sentinel ((spec.withFilter filter).conditionGroups first) entity pick) :
    store.Meets sentinel (spec.conditionGroups first) entity pick := by
  obtain ⟨groups, last, hbefore, hafter⟩ := spec.conditionGroups_withFilter_and first hand
  rw [hafter] at h
  obtain ⟨hpick, group, hgroup, hall⟩ := h
  rw [hbefore]
  refine ⟨hpick, ?_⟩
  rcases List.mem_append.mp hgroup with hearlier | hlast
  · exact ⟨group, List.mem_append_left _ hearlier, hall⟩
  · obtain rfl := List.mem_singleton.mp hlast
    exact ⟨last, List.mem_append_right _ List.mem_cons_self,
      fun condition hcondition => hall condition (List.mem_append_left _ hcondition)⟩

/-- Conditions that are met more often show no fewer names and values. -/
theorem shown_subset {spec spec' : TableSpec} (h : spec.columns ≠ [])
    (hcolumns : spec'.columns = spec.columns) (override override' : Option SortKey)
    (hfirst : (Query.ofSpec sentinel spec override).joins.keys.head? = some first)
    (hfirst' : (Query.ofSpec sentinel spec' override').joins.keys.head? = some first)
    (hmeets : ∀ entity pick, store.Meets sentinel (spec.conditionGroups first) entity pick →
      store.Meets sentinel (spec'.conditionGroups first) entity pick) :
    store.shownNames (Query.ofSpec sentinel spec override) ⊆
      store.shownNames (Query.ofSpec sentinel spec' override') ∧
    ∀ name, ∀ column ∈ spec.columns,
      store.shownValues sentinel (Query.ofSpec sentinel spec override) name column.key ⊆
        store.shownValues sentinel (Query.ofSpec sentinel spec' override') name column.key := by
  have h' : spec'.columns ≠ [] := hcolumns ▸ h
  constructor
  · intro name hname
    obtain ⟨entity, hentity, heq, pick, hpick⟩ :=
      (store.mem_shownNames_iff h sentinel override hfirst).mp hname
    exact (store.mem_shownNames_iff h' sentinel override' hfirst').mpr
      ⟨entity, hentity, heq, pick, hmeets entity pick hpick⟩
  · intro name column hcolumn value hvalue
    have hmentioned : column.key ∈ spec.mentions (Query.effectiveSort spec override) :=
      List.mem_append_left _ (List.mem_append_left _ (List.mem_map_of_mem hcolumn))
    have hmentioned' : column.key ∈ spec'.mentions (Query.effectiveSort spec' override') :=
      List.mem_append_left _
        (List.mem_append_left _ (List.mem_map_of_mem (hcolumns ▸ hcolumn)))
    obtain ⟨entity, hentity, heq, pick, hpick, hpicked⟩ :=
      (store.mem_shownValues_iff h sentinel override hfirst hmentioned).mp hvalue
    exact (store.mem_shownValues_iff h' sentinel override' hfirst' hmentioned').mpr
      ⟨entity, hentity, heq, pick, hmeets entity pick hpick, hpicked⟩

end Store

/-- A filter that is added last by AND adds no row and no value to the values of a cell, and one
that is added by OR takes none away. -/
theorem appended_filter_is_monotone (settings : Settings) (database : Database) (spec : TableSpec)
    (filter : Filter) (parameter : Option Text) {before after : Answer}
    (hcolumn : ∃ column ∈ spec.columns, column.key ≠ settings.directive.sentinel)
    (hbefore : settings.answer (.tables database) spec parameter = .ok before)
    (hafter : settings.answer (.tables database) (spec.withFilter filter) parameter = .ok after) :
    let store := database.storeUnder settings.store
    let sentinel := settings.directive.sentinel
    let separator := settings.store.separator
    let query := settings.query spec parameter
    let query' := settings.query (spec.withFilter filter) parameter
    before.rows.Perm ((store.shownNames query).map
      (store.shownRow sentinel separator spec query)) ∧
    after.rows.Perm ((store.shownNames query').map
      (store.shownRow sentinel separator (spec.withFilter filter) query')) ∧
    (filter.logic = .and → store.shownNames query' ⊆ store.shownNames query ∧
      ∀ name, ∀ column ∈ spec.columns, store.shownValues sentinel query' name column.key ⊆
        store.shownValues sentinel query name column.key) ∧
    (filter.logic = .or → store.shownNames query ⊆ store.shownNames query' ∧
      ∀ name, ∀ column ∈ spec.columns, store.shownValues sentinel query name column.key ⊆
        store.shownValues sentinel query' name column.key) := by
  intro store sentinel separator query query'
  obtain ⟨column, hmem, hkey⟩ := hcolumn
  have hne : spec.columns ≠ [] := List.ne_nil_of_mem hmem
  have hshown : spec.shownKeys sentinel ≠ [] :=
    List.ne_nil_of_mem (mem_shownKeys hkey (List.mem_map_of_mem hmem))
  have hcolumns : (spec.withFilter filter).columns = spec.columns := rfl
  have hne' : (spec.withFilter filter).columns ≠ [] := hne
  have hshown' : (spec.withFilter filter).shownKeys sentinel ≠ [] := hshown
  have hquery : query.joins.keys.head? = some ((spec.shownKeys sentinel).head hshown) :=
    (head?_keys_ofSpec hne sentinel _ hshown).trans (List.head?_eq_some_head hshown)
  have hquery' : query'.joins.keys.head? = some ((spec.shownKeys sentinel).head hshown) :=
    (head?_keys_ofSpec hne' sentinel _ hshown').trans (List.head?_eq_some_head hshown)
  obtain ⟨_, hsame, rfl⟩ := run_ok (ofSpec_yieldsNothing hne _ _) hbefore
  cases hsame
  obtain ⟨_, hsame, rfl⟩ := run_ok (ofSpec_yieldsNothing hne' _ _) hafter
  cases hsame
  refine ⟨store.answer_perm_shown hne sentinel _ _,
    store.answer_perm_shown hne' sentinel _ _, ?_, ?_⟩
  · intro hand
    exact store.shown_subset hne' hcolumns.symm _ _ hquery' hquery
      fun _ _ => store.meets_of_withFilter_and hand
  · intro hor
    exact store.shown_subset hne hcolumns _ _ hquery hquery'
      fun _ _ => store.meets_withFilter_or hor

def tagFilter : Filter := ⟨"tag".toList, .equal, .ofText "x".toList, .and⟩

set_option maxRecDepth 20000 in
theorem tag_filter_shows_no_other_fruit :
    ∃ before after,
      ({} : Settings).answer (.tables ⟨{}, fruitStore⟩) fruitSpec none = .ok before ∧
      ({} : Settings).answer (.tables ⟨{}, fruitStore⟩) (fruitSpec.withFilter tagFilter) none =
        .ok after ∧
      fruitStore.shownNames (({} : Settings).query (fruitSpec.withFilter tagFilter) none) ⊆
        fruitStore.shownNames (({} : Settings).query fruitSpec none) := by
  have hcolumns : fruitSpec.columns ≠ [] := by decide
  have hcolumns' : (fruitSpec.withFilter tagFilter).columns ≠ [] := hcolumns
  have hbefore := answer_named {} fruitStore none hcolumns (by decide +kernel)
    (default_tellsApart _)
  have hafter := answer_named {} fruitStore none hcolumns' (by decide +kernel)
    (default_tellsApart _)
  obtain ⟨-, -, hand, -⟩ := appended_filter_is_monotone {} ⟨{}, fruitStore⟩ fruitSpec tagFilter none
    ⟨⟨"color".toList, .text⟩, by decide, by decide⟩ hbefore hafter
  exact ⟨_, _, hbefore, hafter, (hand rfl).1⟩

end WikiPivot
