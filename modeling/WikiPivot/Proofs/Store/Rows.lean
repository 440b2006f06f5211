import WikiPivot.Store.Answer
import WikiPivot.Proofs.DistinctConcat
import Mathlib.Data.List.Perm.Basic

/-! # The rows of an answer

The order of an answer apart, its rows are settled by the distinct combinations, cut down to the
joins that its columns show.
-/
namespace WikiPivot

def Combination.cut (n : Nat) (row : Combination) : Combination := ⟨row.name, row.found.take n⟩

def Operand.Within (n : Nat) : Operand → Prop
  | entityName => True
  | joined slot => slot < n

theorem within_operand (joins : Joins) {sentinel key : Text}
    (h : key = sentinel ∨ key ∈ joins.keys) :
    (Query.operand sentinel joins key).Within joins.keys.length := by
  unfold Query.operand
  by_cases hk : key = sentinel
  · rw [if_pos hk]
    trivial
  · rw [if_neg hk]
    exact List.idxOf_lt_length_iff.mpr (h.resolve_left hk)

theorem value?_cut {n : Nat} {operand : Operand} (h : operand.Within n) (row : Combination) :
    (row.cut n).value? operand = row.value? operand := by
  cases operand with
  | entityName => rfl
  | joined slot =>
    have hslot : slot < n := h
    simp [Combination.value?, Combination.cut, List.getElem?_take_of_lt hslot]

namespace Store

theorem matchesOf_ne_nil (store : Store) (entity : Int) (key : Text) :
    store.matchesOf entity key ≠ [] := by
  unfold matchesOf
  split
  · simp
  · rename_i h
    simpa using h

def passing (store : Store) (query : Query) (entity : Entity) : List Combination :=
  (store.combinationsOf query entity).filter (Term.allHold query.terms)

theorem combinations_eq (store : Store) (query : Query) :
    store.combinations query =
      (store.entities.mergeSort (·.id ≤ ·.id)).flatMap (store.passing query) :=
  List.filter_flatMap

theorem cell_joined (separator name : Text) (group : List Combination) (slot : Nat) :
    cell separator name group (.joined slot) =
      (Literal.ofText separator).value.intercalate
        (distinct (group.filterMap (·.value? (.joined slot)))) := by
  have := DistinctConcat.ofRows_const (Literal.ofText separator).value
    (group.map (·.value? (.joined slot)))
  rw [List.map_map, List.filterMap_map] at this
  exact this

/-- A cell needs only the distinct combinations of its group, cut behind its join. -/
theorem cell_cut {n : Nat} {operand : Operand} (h : operand.Within n) (separator name : Text)
    (group : List Combination) :
    cell separator name (distinct (group.map (·.cut n))) operand =
      cell separator name group operand := by
  cases operand with
  | entityName => rfl
  | joined slot =>
    rw [cell_joined, cell_joined, distinct_filterMap_distinct, List.filterMap_map]
    congr 3
    funext row
    exact value?_cut h row

def tabled (separator : Text) (columns : List Operand) (rows : List Combination) :
    List (List Text) :=
  (distinct (rows.map (·.name))).map fun name =>
    columns.map (cell separator name (rows.filter (·.name = name)))

theorem answer_perm (separator : Text) (store : Store) {query : Query}
    (h : query.yieldsNothing = false) :
    (store.answer separator query).Perm
      (tabled separator query.columns (store.combinations query)) := by
  rw [answer, h, if_neg (by decide)]
  have hsorted := (List.mergeSort_perm (store.groupRows separator query)
    (before ((query.order.map Prod.snd).getD .ascending))).map (·.cells)
  refine hsorted.trans ?_
  simp only [groupRows, List.map_map]
  exact (List.mergeSort_perm _ _).map _

/-- Columns that lie within the cut see the same table. -/
theorem tabled_cut {n : Nat} {columns : List Operand} (h : ∀ operand ∈ columns, operand.Within n)
    (separator : Text) (rows : List Combination) :
    tabled separator columns (distinct (rows.map (·.cut n))) = tabled separator columns rows := by
  have hnames : distinct ((distinct (rows.map (·.cut n))).map (·.name)) =
      distinct (rows.map (·.name)) := by
    rw [← List.filterMap_eq_map, distinct_filterMap_distinct, List.filterMap_eq_map, List.map_map]
    rfl
  unfold tabled
  rw [hnames]
  apply List.map_congr_left
  intro name _
  apply List.map_congr_left
  intro operand hoperand
  have hgroup : (distinct (rows.map (·.cut n))).filter (·.name = name) =
      distinct ((rows.filter (·.name = name)).map (·.cut n)) := by
    rw [← distinct_filter, List.filter_map]
    rfl
  rw [hgroup, cell_cut (h operand hoperand)]

end Store

end WikiPivot
