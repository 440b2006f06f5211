import WikiPivot.Proofs.Store.PerEntity
import WikiPivot.Proofs.Store.Shown
import WikiPivot.Proofs.Store.SortIndependence

/-! # What a filter joined by OR lets in

The anchor asks for an attribute of the first joined key, and it is a condition of the first group
alone. An entity without such an attribute is therefore left out of that group, and it has a row
exactly if it meets another one; without OR there is no other.
-/
namespace WikiPivot

namespace TableSpec

variable (spec : TableSpec) (first : Text)

/-- The anchor begins the first group. -/
theorem exists_conditionGroups :
    ∃ conditions groups,
      spec.conditionGroups first = (.anchor first :: conditions) :: groups := by
  have hne : spec.conditions first ≠ [] := List.cons_ne_nil _ _
  obtain ⟨group, groups, hsplit⟩ := List.exists_cons_of_ne_nil
    (List.splitBy_ne_nil (r := fun _ next : Condition => next.logic = .and).mpr hne)
  have hgroup : group ≠ [] :=
    List.ne_nil_of_mem_splitBy (hsplit ▸ List.mem_cons_self)
  obtain ⟨head, conditions, rfl⟩ := List.exists_cons_of_ne_nil hgroup
  have hjoined := List.flatten_splitBy (fun _ next => next.logic = .and) (spec.conditions first)
  rw [hsplit] at hjoined
  obtain rfl : head = .anchor first := (List.cons.inj hjoined).1
  exact ⟨conditions, groups, hsplit⟩

/-- Without OR there is one group. -/
theorem conditionGroups_of_and (hand : ∀ filter ∈ spec.filters, filter.logic = .and) :
    spec.conditionGroups first = [spec.conditions first] := by
  have hall : ∀ condition ∈ spec.conditions first, condition.logic = .and :=
    List.forall_mem_cons.mpr ⟨rfl, List.forall_mem_map.mpr hand⟩
  refine List.splitBy_of_isChain (List.cons_ne_nil _ _) (List.Pairwise.isChain ?_)
  refine List.pairwise_of_forall_mem_list fun _ _ next hnext => ?_
  exact decide_eq_true (hall next hnext)

end TableSpec

namespace Store

variable (store : Store) {sentinel : Text} {spec : TableSpec} {first : Text} {entity : Entity}

/-- An entity without an attribute of the first joined key meets no group but the later ones. -/
theorem meets_iff_meets_tail (hnone : store.attributesOf entity.id first = [])
    (pick : Text → Match) :
    store.Meets sentinel (spec.conditionGroups first) entity pick ↔
      store.Meets sentinel (spec.conditionGroups first).tail entity pick := by
  obtain ⟨conditions, groups, hgroups⟩ := spec.exists_conditionGroups first
  rw [hgroups, List.tail_cons]
  unfold Meets
  refine and_congr_right fun hpick => ?_
  have hanchor : (Condition.anchor first).holds sentinel entity.name pick = false := by
    rw [Condition.holds, store.isMatched_of_mem (hpick first)]
    exact decide_eq_false (not_not.mpr hnone)
  simp [hanchor]

/-- Without OR such an entity meets nothing. -/
theorem not_meets_of_and (hand : ∀ filter ∈ spec.filters, filter.logic = .and)
    (hnone : store.attributesOf entity.id first = []) (pick : Text → Match) :
    ¬ store.Meets sentinel (spec.conditionGroups first) entity pick := by
  rw [store.meets_iff_meets_tail hnone, spec.conditionGroups_of_and first hand]
  rintro ⟨_, group, hgroup, _⟩
  cases hgroup

end Store

/-- An answer has one row for each name of which some entity can be picked from so that one group of
conditions is met. A name whose entities have no attribute of the first joined key has a row exactly
if one of them meets a later group, and never without OR. -/
theorem row_iff_group_met (settings : Settings) (database : Database) (spec : TableSpec)
    (parameter : Option Text) {first : Text} {answer : Answer} (hcolumns : spec.columns ≠ [])
    (hfirst : (settings.query spec parameter).joins.keys.head? = some first)
    (hanswer : settings.answer (.tables database) spec parameter = .ok answer) :
    let store := database.storeUnder settings.store
    let sentinel := settings.directive.sentinel
    let groups := spec.conditionGroups first
    let query := settings.query spec parameter
    answer.rows.Perm ((store.shownNames query).map
      (store.shownRow sentinel settings.store.separator spec query)) ∧
    (store.shownNames query).Nodup ∧
    ∀ name,
      (name ∈ store.shownNames query ↔ ∃ entity ∈ store.entities, entity.name = name ∧
        ∃ pick, store.Meets sentinel groups entity pick) ∧
      ((∀ entity ∈ store.entities, entity.name = name →
          store.attributesOf entity.id first = []) →
        (name ∈ store.shownNames query ↔ ∃ entity ∈ store.entities, entity.name = name ∧
          ∃ pick, store.Meets sentinel groups.tail entity pick) ∧
        ((∀ filter ∈ spec.filters, filter.logic = .and) → name ∉ store.shownNames query)) := by
  intro store sentinel groups query
  obtain ⟨_, hsame, rfl⟩ := run_ok (ofSpec_yieldsNothing hcolumns _ _) hanswer
  cases hsame
  have hnames : ∀ name, name ∈ store.shownNames query ↔ ∃ entity ∈ store.entities,
      entity.name = name ∧ ∃ pick, store.Meets sentinel groups entity pick :=
    fun name => store.mem_shownNames_iff hcolumns sentinel _ hfirst
  refine ⟨store.answer_perm_shown hcolumns sentinel _ _, store.nodup_shownNames query, ?_⟩
  intro name
  refine ⟨hnames name, fun hnone => ⟨(hnames name).trans ?_, ?_⟩⟩
  · refine exists_congr fun entity => and_congr_right fun hentity => ?_
    refine and_congr_right fun hname => exists_congr fun pick => ?_
    exact store.meets_iff_meets_tail (hnone entity hentity hname) pick
  · intro hand hshown
    obtain ⟨entity, hentity, hname, pick, hmeets⟩ := (hnames name).mp hshown
    exact store.not_meets_of_and hand (hnone entity hentity hname) pick hmeets

def colorOrTagSpec : TableSpec :=
  { columns := [⟨"%pageid%".toList, .page⟩, ⟨"color".toList, .text⟩]
    filters := [⟨"color".toList, .notEqual, .ofText "green".toList, .and⟩,
      ⟨"tag".toList, .equal, .ofText "x".toList, .or⟩] }

set_option maxRecDepth 20000 in
theorem melon_has_row_without_color :
    ∃ answer, ({} : Settings).answer (.tables ⟨{}, fruitStore⟩) colorOrTagSpec none = .ok answer ∧
      fruitStore.attributesOf 3 "color".toList = [] ∧
      "melon".toList ∈ fruitStore.shownNames (({} : Settings).query colorOrTagSpec none) := by
  have hcolumns : colorOrTagSpec.columns ≠ [] := by decide
  have hfirst : (({} : Settings).query colorOrTagSpec none).joins.keys.head? =
      some "color".toList := by decide
  have hanswer := answer_named {} fruitStore none hcolumns (by decide +kernel)
    (default_tellsApart _)
  obtain ⟨-, -, hnames⟩ := row_iff_group_met {} ⟨{}, fruitStore⟩ colorOrTagSpec none hcolumns
    hfirst hanswer
  refine ⟨_, hanswer, by decide, ((hnames "melon".toList).2 (by decide)).1.mpr ?_⟩
  refine ⟨⟨3, "melon".toList⟩, by decide, rfl,
    fun key => (fruitStore.matchesOf 3 key).head (fruitStore.matchesOf_ne_nil 3 key), ?_, ?_⟩
  · exact fun key => List.head_mem _
  · exact ⟨[.filter ⟨"tag".toList, .equal, .ofText "x".toList, .or⟩], by decide, by decide⟩

end WikiPivot
