import WikiPivot.Proofs.Store.Conditions
import WikiPivot.Proofs.Store.Rows

/-! # Names and values that an answer shows

An answer has one row for each name that has a passing combination, and a cell is joined from the
values that its key has in the passing combinations of the name. Both are settled by what can be
picked for the keys of single entities.
-/
namespace WikiPivot

namespace Store

variable (store : Store)

def shownNames (query : Query) : List Text := distinct ((store.combinations query).map (·.name))

def shownValues (sentinel : Text) (query : Query) (name key : Text) : List Text :=
  distinct (((store.combinations query).filter (·.name = name)).filterMap
    (·.value? (Query.operand sentinel query.joins key)))

def shownRow (sentinel separator : Text) (spec : TableSpec) (query : Query) (name : Text) :
    List Text :=
  spec.columns.map fun column =>
    if column.key = sentinel then name
    else (separator.filter (· != '\x00')).intercalate
      (store.shownValues sentinel query name column.key)

/-- A pick for each key of an entity that meets all conditions of one of the groups. -/
def Meets (sentinel : Text) (groups : List (List Condition)) (entity : Entity)
    (pick : Text → Match) : Prop :=
  (∀ key, pick key ∈ store.matchesOf entity.id key) ∧
    ∃ group ∈ groups, ∀ condition ∈ group, condition.holds sentinel entity.name pick = true

theorem nodup_shownNames (query : Query) : (store.shownNames query).Nodup := nodup_distinct _

theorem mem_combinations {query : Query} {row : Combination} :
    row ∈ store.combinations query ↔
      ∃ entity ∈ store.entities, row ∈ store.passing query entity := by
  simp only [combinations_eq, List.mem_flatMap, List.mem_mergeSort]

section

variable {spec : TableSpec} (h : spec.columns ≠ []) (sentinel : Text) (override : Option SortKey)

include h

theorem answer_perm_shown (separator : Text) :
    (store.answer separator (Query.ofSpec sentinel spec override)).Perm
      ((store.shownNames (Query.ofSpec sentinel spec override)).map
        (store.shownRow sentinel separator spec (Query.ofSpec sentinel spec override))) := by
  refine (answer_perm separator store (ofSpec_yieldsNothing h sentinel override)).trans ?_
  apply List.Perm.of_eq
  apply List.map_congr_left
  intro name _
  rw [columns_ofSpec h, List.map_map, shownRow]
  apply List.map_congr_left
  intro column _
  simp only [Function.comp_apply]
  unfold shownValues Query.operand
  by_cases hkey : column.key = sentinel
  · rw [if_pos hkey, if_pos hkey]
    rfl
  · rw [if_neg hkey, if_neg hkey, cell_joined]
    rfl

variable {first : Text}
  (hfirst : (Query.ofSpec sentinel spec override).joins.keys.head? = some first)

include hfirst

/-- The passing combinations of an entity are the picks that meet one of the groups. -/
theorem mem_passing_iff {entity : Entity} {row : Combination} :
    row ∈ store.passing (Query.ofSpec sentinel spec override) entity ↔
      ∃ pick, store.Meets sentinel (spec.conditionGroups first) entity pick ∧
        row = ⟨entity.name, (Query.ofSpec sentinel spec override).joins.keys.map pick⟩ := by
  have hnodup := nodup_keys_ofSpec h sentinel override
  have hne := store.matchesOf_ne_nil entity.id
  simp only [passing, combinationsOf, List.mem_filter, List.mem_map, mem_choices_map hne hnodup,
    Meets]
  constructor
  · rintro ⟨⟨_, ⟨pick, hpick, rfl⟩, rfl⟩, hpass⟩
    exact ⟨pick, ⟨hpick, (allHold_pick_iff h sentinel override hfirst _ _).mp hpass⟩, rfl⟩
  · rintro ⟨pick, ⟨hpick, hgroup⟩, rfl⟩
    exact ⟨⟨_, ⟨pick, hpick, rfl⟩, rfl⟩,
      (allHold_pick_iff h sentinel override hfirst _ _).mpr hgroup⟩

theorem mem_shownNames_iff {name : Text} :
    name ∈ store.shownNames (Query.ofSpec sentinel spec override) ↔
      ∃ entity ∈ store.entities, entity.name = name ∧
        ∃ pick, store.Meets sentinel (spec.conditionGroups first) entity pick := by
  simp only [shownNames, mem_distinct, List.mem_map, mem_combinations,
    store.mem_passing_iff h sentinel override hfirst]
  constructor
  · rintro ⟨_, ⟨entity, hentity, pick, hmeets, rfl⟩, rfl⟩
    exact ⟨entity, hentity, rfl, pick, hmeets⟩
  · rintro ⟨entity, hentity, rfl, pick, hmeets⟩
    exact ⟨_, ⟨entity, hentity, pick, hmeets, rfl⟩, rfl⟩

theorem mem_shownValues_iff {name key value : Text}
    (hkey : key ∈ spec.mentions (Query.effectiveSort spec override)) :
    value ∈ store.shownValues sentinel (Query.ofSpec sentinel spec override) name key ↔
      ∃ entity ∈ store.entities, entity.name = name ∧
        ∃ pick, store.Meets sentinel (spec.conditionGroups first) entity pick ∧
          pickedValue sentinel entity.name pick key = some value := by
  have hplace := eq_sentinel_or_mem_keys h sentinel override hkey
  simp only [shownValues, mem_distinct, List.mem_filterMap, List.mem_filter, mem_combinations,
    store.mem_passing_iff h sentinel override hfirst, decide_eq_true_eq]
  constructor
  · rintro ⟨_, ⟨⟨entity, hentity, pick, hmeets, rfl⟩, rfl⟩, hvalue⟩
    rw [value?_operand hplace] at hvalue
    exact ⟨entity, hentity, rfl, pick, hmeets, hvalue⟩
  · rintro ⟨entity, hentity, rfl, pick, hmeets, hvalue⟩
    refine ⟨_, ⟨⟨entity, hentity, pick, hmeets, rfl⟩, rfl⟩, ?_⟩
    rw [value?_operand hplace, hvalue]

end

end Store

end WikiPivot
