import WikiPivot.Pivot
import WikiPivot.Proofs.Store.Execution
import WikiPivot.Proofs.Store.Verdicts

/-! # A sort only reorders

The key of a sort may be joined behind the keys of the columns, and it moves the joins of the
filters. Neither matters to the rows: a choice for the columns stands in the answer if some pick for
all keys completes it and passes, and the verdict of a pick does not depend on the joins' places.
-/
namespace WikiPivot

namespace Store

variable (store : Store) {spec : TableSpec} (h : spec.columns ≠ []) (sentinel : Text)

section

variable (entity : Entity)

include h

/-- A choice for the first joins is completed by one for the others exactly if some pick for all
keys extends it and passes. -/
theorem completed_iff (override : Option SortKey) {front back : List Text}
    (hkeys : (Query.ofSpec sentinel spec override).joins.keys = front ++ back) (x : List Match) :
    (x ∈ choices (front.map (store.matchesOf entity.id)) ∧
      (choices (back.map (store.matchesOf entity.id))).any fun y =>
        Term.allHold (Query.ofSpec sentinel spec override).terms ⟨entity.name, x ++ y⟩) ↔
    ∃ pick : Text → Match, (∀ key, pick key ∈ store.matchesOf entity.id key) ∧
      x = front.map pick ∧
      Term.allHold (Query.ofSpec sentinel spec override).terms
        ⟨entity.name, (Query.ofSpec sentinel spec override).joins.keys.map pick⟩ := by
  have hnodup : (front ++ back).Nodup := hkeys ▸ nodup_keys_ofSpec h sentinel override
  have hfront : front.Nodup := (List.nodup_append.mp hnodup).1
  have hback : back.Nodup := (List.nodup_append.mp hnodup).2.1
  have hne := store.matchesOf_ne_nil entity.id
  rw [hkeys]
  constructor
  · rintro ⟨hx, hany⟩
    obtain ⟨y, hy, hpass⟩ := List.any_eq_true.mp hany
    have hxy : x ++ y ∈ choices ((front ++ back).map (store.matchesOf entity.id)) := by
      rw [List.map_append, choices_append]
      exact List.mem_flatMap.mpr ⟨x, hx, List.mem_map_of_mem hy⟩
    obtain ⟨pick, hpick, heq⟩ := (mem_choices_map hne hnodup).mp hxy
    have hlen : x.length = (front.map pick).length := by
      simpa using length_of_mem_choices hx
    have hsplit := heq
    rw [List.map_append] at hsplit
    refine ⟨pick, hpick, (List.append_inj hsplit hlen).1, ?_⟩
    rw [← heq]
    exact hpass
  · rintro ⟨pick, hpick, rfl, hpass⟩
    refine ⟨(mem_choices_map hne hfront).mpr ⟨pick, hpick, rfl⟩, ?_⟩
    refine List.any_eq_true.mpr ⟨back.map pick, ?_, ?_⟩
    · exact (mem_choices_map hne hback).mpr ⟨pick, hpick, rfl⟩
    · rwa [List.map_append] at hpass

omit h

/-- The combinations of an entity, cut behind the first joins. -/
theorem distinct_cut_passing {query : Query} {front back : List Text}
    (hkeys : query.joins.keys = front ++ back) :
    distinct ((store.passing query entity).map (·.cut front.length)) =
      (distinct ((choices (front.map (store.matchesOf entity.id))).filter fun x =>
        (choices (back.map (store.matchesOf entity.id))).any fun y =>
          Term.allHold query.terms ⟨entity.name, x ++ y⟩)).map (⟨entity.name, ·⟩) := by
  have htake := distinct_choices_take (front.map (store.matchesOf entity.id))
    (back.map (store.matchesOf entity.id)) fun x => Term.allHold query.terms ⟨entity.name, x⟩
  rw [List.length_map] at htake
  have hcut : (store.passing query entity).map (·.cut front.length) =
      (((choices (front.map (store.matchesOf entity.id) ++
        back.map (store.matchesOf entity.id))).filter fun x =>
          Term.allHold query.terms ⟨entity.name, x⟩).map (·.take front.length)).map
        fun x => (⟨entity.name, x⟩ : Combination) := by
    rw [passing, combinationsOf, hkeys, List.map_append, List.filter_map, List.map_map,
      List.map_map]
    rfl
  rw [hcut, distinct_map_of_injOn, htake]
  rintro x _ y _ ⟨⟩
  rfl

end

include h

/-- The verdict on a pick is the same under every sort, if the first joins are the same. -/
theorem verdict_congr {override override' : Option SortKey}
    (hfirst : (Query.ofSpec sentinel spec override).joins.keys.head? =
      (Query.ofSpec sentinel spec override').joins.keys.head?)
    (name : Text) (pick : Text → Match) :
    Term.allHold (Query.ofSpec sentinel spec override).terms
        ⟨name, (Query.ofSpec sentinel spec override).joins.keys.map pick⟩ =
      Term.allHold (Query.ofSpec sentinel spec override').terms
        ⟨name, (Query.ofSpec sentinel spec override').joins.keys.map pick⟩ := by
  apply Term.allHold_congr
  rw [verdicts_ofSpec h, verdicts_ofSpec h, hfirst]

theorem distinct_cut_combinations (hshown : spec.shownKeys sentinel ≠ [])
    (override override' : Option SortKey) :
    distinct ((store.combinations (Query.ofSpec sentinel spec override)).map
        (·.cut (spec.shownKeys sentinel).length)) =
      distinct ((store.combinations (Query.ofSpec sentinel spec override')).map
        (·.cut (spec.shownKeys sentinel).length)) := by
  obtain ⟨back, hback⟩ := shownKeys_isPrefix_keys h sentinel override
  obtain ⟨back', hback'⟩ := shownKeys_isPrefix_keys h sentinel override'
  have hfirst : (Query.ofSpec sentinel spec override).joins.keys.head? =
      (Query.ofSpec sentinel spec override').joins.keys.head? :=
    (head?_keys_ofSpec h sentinel override hshown).trans
      (head?_keys_ofSpec h sentinel override' hshown).symm
  rw [combinations_eq, combinations_eq, List.map_flatMap, List.map_flatMap]
  apply distinct_flatMap_congr
  intro entity _
  rw [store.distinct_cut_passing entity hback.symm, store.distinct_cut_passing entity hback'.symm]
  congr 2
  apply List.filter_congr
  intro x hx
  -- both sides ask for a pick that extends `x` and passes
  have left := store.completed_iff h sentinel entity override hback.symm x
  have right := store.completed_iff h sentinel entity override' hback'.symm x
  simp only [verdict_congr h sentinel hfirst] at left
  have := left.trans right.symm
  simpa only [hx, true_and, Bool.coe_iff_coe] using this

theorem within_shown (override : Option SortKey) :
    ∀ operand ∈ (Query.ofSpec sentinel spec override).columns,
      operand.Within (spec.shownKeys sentinel).length := by
  intro operand hoperand
  rw [columns_shown h] at hoperand
  obtain ⟨column, hcolumn, rfl⟩ := List.mem_map.mp hoperand
  apply within_operand ⟨spec.shownKeys sentinel⟩
  by_cases hk : column.key = sentinel
  · exact Or.inl hk
  · exact Or.inr (mem_shownKeys hk (List.mem_map_of_mem hcolumn))

theorem answer_perm_of_sorts (separator : Text) (hshown : spec.shownKeys sentinel ≠ [])
    (override override' : Option SortKey) :
    (store.answer separator (Query.ofSpec sentinel spec override)).Perm
      (store.answer separator (Query.ofSpec sentinel spec override')) := by
  have left := answer_perm separator store (ofSpec_yieldsNothing h sentinel override)
  have right := answer_perm separator store (ofSpec_yieldsNothing h sentinel override')
  rw [← tabled_cut (within_shown h sentinel override)] at left
  rw [← tabled_cut (within_shown h sentinel override')] at right
  rw [store.distinct_cut_combinations h sentinel hshown override override',
    columns_shown h sentinel override, ← columns_shown h sentinel override'] at left
  exact left.trans right.symm

end Store

/-- An answer with columns is read off the store that the settings see in the tables. -/
theorem run_ok {names : StoreSettings} {storage : Storage} {query : Query} {answer : Answer}
    (hy : query.yieldsNothing = false) (h : query.run names storage = .ok answer) :
    ∃ database, storage = .tables database ∧
      answer = ⟨query, (database.storeUnder names).answer names.separator query⟩ := by
  unfold Query.run at h
  split at h
  · cases h
  rw [hy, if_neg (by decide)] at h
  split at h
  · cases h
  cases storage with
  | empty => cases h
  | foreign => cases h
  | tables database =>
    refine ⟨database, rfl, ?_⟩
    simp only [bind, Except.bind] at h
    split at h
    · cases h
    split at h
    · cases h
    · exact (Except.ok.inj h).symm

/-- Whatever two sorts are asked for, the answers to a directive with a joined column have the same
rows, each as often in one as in the other. -/
theorem runtime_sort_only_reorders (settings : Settings) (storage : Storage) (spec : TableSpec)
    (p q : Option Text) {a b : Answer}
    (hcolumn : ∃ column ∈ spec.columns, column.key ≠ settings.directive.sentinel)
    (ha : settings.answer storage spec p = .ok a) (hb : settings.answer storage spec q = .ok b) :
    a.rows.Perm b.rows := by
  obtain ⟨column, hmem, hkey⟩ := hcolumn
  have hne : spec.columns ≠ [] := List.ne_nil_of_mem hmem
  have hshown : spec.shownKeys settings.directive.sentinel ≠ [] :=
    List.ne_nil_of_mem (mem_shownKeys hkey (List.mem_map_of_mem hmem))
  obtain ⟨database, rfl, rfl⟩ := run_ok (ofSpec_yieldsNothing hne _ _) ha
  obtain ⟨_, hsame, rfl⟩ := run_ok (ofSpec_yieldsNothing hne _ _) hb
  cases hsame
  exact (database.storeUnder settings.store).answer_perm_of_sorts hne _ settings.store.separator
    hshown _ _

def taggedStore : Store :=
  { entities := [⟨1, "alpha".toList⟩, ⟨2, "beta".toList⟩]
    attributes := [⟨1, "color".toList, some "red".toList⟩, ⟨1, "tag".toList, some "x".toList⟩,
      ⟨1, "tag".toList, some "y".toList⟩, ⟨2, "color".toList, some "blue".toList⟩] }

def colorSpec : TableSpec :=
  { columns := [⟨"%pageid%".toList, .page⟩, ⟨"color".toList, .text⟩]
    filters := [⟨"tag".toList, .equal, .ofText "z".toList, .and⟩,
      ⟨"color".toList, .notEqual, .ofText "green".toList, .or⟩] }

set_option maxRecDepth 20000 in
theorem color_answered (parameter : Option Text)
    (hparameter : parameter = none ∨ parameter = some "tag".toList) :
    ∃ a, ({} : Settings).answer (.tables ⟨{}, taggedStore⟩) colorSpec parameter = .ok a := by
  rcases hparameter with rfl | rfl
  · exact ⟨_, answer_named {} taggedStore none (by decide) (by decide +kernel)
      (default_tellsApart _)⟩
  · exact ⟨_, answer_named {} taggedStore _ (by decide) (by decide +kernel)
      (default_tellsApart _)⟩

theorem tag_sort_keeps_color_rows :
    ∃ a b, ({} : Settings).answer (.tables ⟨{}, taggedStore⟩) colorSpec none = .ok a ∧
      ({} : Settings).answer (.tables ⟨{}, taggedStore⟩) colorSpec (some "tag".toList) = .ok b ∧
      a.rows.Perm b.rows := by
  obtain ⟨a, ha⟩ := color_answered none (Or.inl rfl)
  obtain ⟨b, hb⟩ := color_answered (some "tag".toList) (Or.inr rfl)
  exact ⟨a, b, ha, hb, runtime_sort_only_reorders {} _ colorSpec none (some "tag".toList)
    ⟨⟨"color".toList, .text⟩, by decide, by decide⟩ ha hb⟩

end WikiPivot
