import WikiPivot.Proofs.Store.Verdicts
import Mathlib.Data.List.SplitBy

/-! # Groups of conditions

The conditions of a directive are the anchor and its filters in their order. They are cut before
every filter that is joined by OR, and a combination stands in the answer if it meets all conditions
of one group. A filter that is added last either makes a group of its own or joins the last group,
and leaves the others as they are.
-/
namespace WikiPivot

section

variable {α β : Type} {r : α → α → Bool}

theorem splitBy_cons_of_unrelated {x y : α} (h : r x y = false) (ys : List α) :
    (x :: y :: ys).splitBy r = [x] :: (y :: ys).splitBy r := by
  have hlast : ∀ z ∈ [x].getLast?, r z y = false := by simpa using h
  exact List.splitBy_append_cons ys hlast

/-- An element that goes with the next one stands in front of its group. -/
theorem splitBy_cons_of_related {x y : α} (h : r x y = true) (ys : List α) :
    (x :: y :: ys).splitBy r = ((y :: ys).splitBy r).modifyHead (x :: ·) := by
  obtain ⟨group, groups, hsplit⟩ :=
    List.exists_cons_of_ne_nil (List.splitBy_ne_nil (r := r).mpr (List.cons_ne_nil y ys))
  obtain ⟨hjoined, hempty, hchains, hcuts⟩ := List.splitBy_eq_iff.mp hsplit
  obtain ⟨hgroup, hgroups⟩ := not_or.mp (mt List.mem_cons.mpr hempty)
  obtain ⟨hchain, hrest⟩ := List.forall_mem_cons.mp hchains
  obtain ⟨first, more, rfl⟩ := List.exists_cons_of_ne_nil (Ne.symm hgroup)
  obtain rfl : y = first := (List.cons.inj hjoined).1
  rw [hsplit, List.modifyHead_cons, List.splitBy_eq_iff]
  refine ⟨by rw [hjoined]; rfl, ?_, ?_, ?_⟩
  · rw [List.mem_cons, not_or]
    exact ⟨(List.cons_ne_nil _ _).symm, hgroups⟩
  · exact List.forall_mem_cons.mpr ⟨List.isChain_cons_cons.mpr ⟨h, hchain⟩, hrest⟩
  · rw [List.isChain_cons] at hcuts ⊢
    refine ⟨?_, hcuts.2⟩
    intro next hnext
    obtain ⟨_, hne, hcut⟩ := hcuts.1 next hnext
    exact ⟨List.cons_ne_nil _ _, hne, by rwa [List.getLast_cons (List.cons_ne_nil _ _)]⟩

theorem splitBy_map {r : β → β → Bool} (f : α → β) (xs : List α) :
    (xs.map f).splitBy r = (xs.splitBy fun x y => r (f x) (f y)).map (·.map f) := by
  induction xs with
  | nil => rfl
  | cons x rest ih =>
    cases rest with
    | nil => rfl
    | cons y ys =>
      rw [List.map_cons, List.map_cons]
      rw [List.map_cons] at ih
      cases h : r (f x) (f y) with
      | false =>
        have hsplit := splitBy_cons_of_unrelated (r := fun x y => r (f x) (f y)) h ys
        rw [splitBy_cons_of_unrelated h, ih, hsplit]
        rfl
      | true =>
        have hsplit := splitBy_cons_of_related (r := fun x y => r (f x) (f y)) h ys
        rw [splitBy_cons_of_related h, ih, hsplit]
        cases (y :: ys).splitBy fun x y => r (f x) (f y) <;> rfl

/-- An element added last that goes with the one before it ends the last group. -/
theorem splitBy_append_singleton {xs : List α} (hxs : xs ≠ []) {y : α}
    (h : ∀ x ∈ xs.getLast?, r x y = true) :
    ∃ groups last, xs.splitBy r = groups ++ [last] ∧
      (xs ++ [y]).splitBy r = groups ++ [last ++ [y]] := by
  induction xs with
  | nil => exact absurd rfl hxs
  | cons x rest ih =>
    cases rest with
    | nil =>
      have hrelated : r x y = true := h x rfl
      exact ⟨[], [x], rfl, splitBy_cons_of_related hrelated []⟩
    | cons z zs =>
      have hlast : ∀ w ∈ (z :: zs).getLast?, r w y = true := by
        intro w hw
        exact h w (by rwa [List.getLast?_cons_cons])
      obtain ⟨groups, last, hsplit, hmore⟩ := ih (List.cons_ne_nil z zs) hlast
      rw [List.cons_append] at hmore
      rw [List.cons_append, List.cons_append]
      cases hxz : r x z with
      | false =>
        rw [splitBy_cons_of_unrelated hxz, splitBy_cons_of_unrelated hxz, hsplit, hmore]
        exact ⟨[x] :: groups, last, rfl, rfl⟩
      | true =>
        rw [splitBy_cons_of_related hxz, splitBy_cons_of_related hxz, hsplit, hmore]
        cases groups with
        | nil => exact ⟨[], x :: last, rfl, rfl⟩
        | cons group groups => exact ⟨(x :: group) :: groups, last, rfl, rfl⟩

end

/-- What is asked of a combination: that the entity has an attribute of the first joined key, or
what a filter says. -/
inductive Condition where
  | anchor (key : Text)
  | filter (condition : Filter)
  deriving DecidableEq, Repr

namespace Condition

def logic : Condition → Logic
  | anchor _ => .and
  | filter condition => condition.logic

def holds (sentinel name : Text) (pick : Text → Match) : Condition → Bool
  | anchor key => (pick key).isMatched
  | filter condition => condition.accepts (pickedValue sentinel name pick condition.key)

end Condition

namespace TableSpec

def conditions (spec : TableSpec) (first : Text) : List Condition :=
  .anchor first :: spec.filters.map .filter

def conditionGroups (spec : TableSpec) (first : Text) : List (List Condition) :=
  (spec.conditions first).splitBy fun _ next => next.logic = .and

end TableSpec

namespace Term

/-- The groups of terms are the runs up to the next OR. -/
theorem groups_eq_splitBy {terms : List (Logic × Term)} (h : terms ≠ []) :
    groups terms = (terms.splitBy fun _ next => next.1 = .and).map (·.map Prod.snd) := by
  induction terms with
  | nil => exact absurd rfl h
  | cons first rest ih =>
    cases rest with
    | nil => rfl
    | cons next rest =>
      obtain ⟨logic, term⟩ := next
      have hrest := ih (List.cons_ne_nil _ _)
      cases logic with
      | or => rw [groups_or, splitBy_cons_of_unrelated rfl, hrest, List.map_cons]; rfl
      | and =>
        rw [groups_and, splitBy_cons_of_related rfl, hrest, map_modifyHead_cons]

theorem allHold_eq_any {terms : List (Logic × Term)} (h : terms ≠ []) (row : Combination) :
    allHold terms row =
      ((terms.map (verdict row)).splitBy fun _ next => next.1 = .and).any (·.all (·.2)) := by
  rw [allHold, groups_eq_splitBy h, splitBy_map, List.any_map, List.any_map]
  simp only [Function.comp_def, List.all_map]
  rfl

end Term

/-- A combination of picks passes if it meets all conditions of one group. -/
theorem allHold_pick_iff {spec : TableSpec} (h : spec.columns ≠ []) (sentinel : Text)
    (override : Option SortKey) {first : Text}
    (hfirst : (Query.ofSpec sentinel spec override).joins.keys.head? = some first)
    (name : Text) (pick : Text → Match) :
    Term.allHold (Query.ofSpec sentinel spec override).terms
        ⟨name, (Query.ofSpec sentinel spec override).joins.keys.map pick⟩ = true ↔
      ∃ group ∈ spec.conditionGroups first,
        ∀ condition ∈ group, condition.holds sentinel name pick = true := by
  have hverdicts := verdicts_ofSpec h sentinel override name pick
  have hconditions : (Query.ofSpec sentinel spec override).terms.map
        (Term.verdict ⟨name, (Query.ofSpec sentinel spec override).joins.keys.map pick⟩) =
      (spec.conditions first).map fun condition =>
        (condition.logic, condition.holds sentinel name pick) := by
    rw [hverdicts, hfirst, TableSpec.conditions, List.map_cons, List.map_map]
    rfl
  have hne : (Query.ofSpec sentinel spec override).terms ≠ [] := by
    intro hnone
    rw [hnone] at hconditions
    exact absurd hconditions.symm (List.cons_ne_nil _ _)
  rw [Term.allHold_eq_any hne, hconditions, splitBy_map, List.any_map]
  simp only [Function.comp_def, List.all_map, List.any_eq_true, List.all_eq_true]
  rfl

end WikiPivot
