import WikiPivot.Store.Answer
import WikiPivot.Proofs.Query.Keys
import WikiPivot.Proofs.Store.Choices

/-! # What the terms of a query say of a combination

A combination is what one function picks for each joined key. Its verdict is that of the anchor and
of the filters on the picks for their own keys, whatever the places of these keys are.
-/
namespace WikiPivot

namespace Term

theorem groups_or (first : Logic × Term) (term : Term) (rest : List (Logic × Term)) :
    groups (first :: (.or, term) :: rest) = [first.2] :: groups ((.or, term) :: rest) := rfl

theorem groups_and (first : Logic × Term) (term : Term) (rest : List (Logic × Term)) :
    groups (first :: (.and, term) :: rest) =
      (groups ((.and, term) :: rest)).modifyHead (first.2 :: ·) := rfl

theorem map_modifyHead_cons {α β : Type} (f : α → β) (a : α) (lists : List (List α)) :
    (lists.modifyHead (a :: ·)).map (·.map f) =
      (lists.map (·.map f)).modifyHead (f a :: ·) := by
  cases lists <;> rfl

def verdict (row : Combination) (entry : Logic × Term) : Logic × Bool :=
  (entry.1, entry.2.holds row)

/-- Chains of the same logic words and verdicts are cut in the same places. -/
theorem groups_congr {terms terms' : List (Logic × Term)} {row row' : Combination}
    (h : terms.map (verdict row) = terms'.map (verdict row')) :
    (groups terms).map (·.map (holds row)) = (groups terms').map (·.map (holds row')) := by
  induction terms generalizing terms' with
  | nil =>
    cases terms' with
    | nil => rfl
    | cons first' rest' => cases h
  | cons first rest ih =>
    cases terms' with
    | nil => cases h
    | cons first' rest' =>
      obtain ⟨hfirst, hrest⟩ := List.cons.inj h
      have hholds : first.2.holds row = first'.2.holds row' := congrArg Prod.snd hfirst
      have hgroups := ih hrest
      -- whether the first term ends its group is settled by the next logic word
      cases rest with
      | nil =>
        cases rest' with
        | nil => simp [groups, hholds]
        | cons next' rest' => cases hrest
      | cons next rest =>
        cases rest' with
        | nil => cases hrest
        | cons next' rest' =>
          have hnext : verdict row next = verdict row' next' := (List.cons.inj hrest).1
          obtain ⟨logic, term⟩ := next
          obtain ⟨logic', term'⟩ := next'
          obtain rfl : logic = logic' := congrArg Prod.fst hnext
          cases logic with
          | or =>
            rw [groups_or, groups_or, List.map_cons, List.map_cons, hgroups]
            simp [hholds]
          | and =>
            rw [groups_and, groups_and, map_modifyHead_cons, map_modifyHead_cons, hgroups, hholds]

theorem allHold_congr {terms terms' : List (Logic × Term)} {row row' : Combination}
    (h : terms.map (verdict row) = terms'.map (verdict row')) :
    allHold terms row = allHold terms' row' := by
  have := congrArg (·.any (·.all id)) (groups_congr h)
  simpa [allHold, List.any_map, List.all_map, Function.comp_def] using this

theorem groups_of_and {terms : List (Logic × Term)} (h : ∀ entry ∈ terms, entry.1 = .and) :
    groups terms = [terms.map Prod.snd] := by
  induction terms with
  | nil => rfl
  | cons first rest ih =>
    have hrest := ih fun e he => h e (List.mem_cons_of_mem _ he)
    cases rest with
    | nil => rfl
    | cons next rest =>
      obtain ⟨logic, term⟩ := next
      obtain rfl : logic = .and := h _ (List.mem_cons_of_mem _ List.mem_cons_self)
      rw [groups_and, hrest]
      rfl

theorem allHold_of_and {terms : List (Logic × Term)} (h : ∀ entry ∈ terms, entry.1 = .and)
    (row : Combination) : allHold terms row = (terms.map Prod.snd).all (·.holds row) := by
  simp [allHold, groups_of_and h]

end Term

/-- Whether a filter accepts a value; a missing one is never accepted. -/
def Filter.accepts (filter : Filter) : Option Text → Bool
  | some value => filter.comparator.holds value filter.value.value
  | none => false

def pickedValue (sentinel name : Text) (pick : Text → Match) (key : Text) : Option Text :=
  if key = sentinel then some name else (pick key).value?

def TableSpec.verdicts (spec : TableSpec) (sentinel name : Text) (pick : Text → Match) :
    List (Logic × Bool) :=
  spec.filters.map fun filter =>
    (filter.logic, filter.accepts (pickedValue sentinel name pick filter.key))

theorem holds_comparison (row : Combination) (operand : Operand) (filter : Filter) :
    (Term.comparison operand filter.comparator filter.value).holds row =
      filter.accepts (row.value? operand) := by
  simp only [Term.holds]
  cases row.value? operand <;> rfl

theorem value?_operand {sentinel key : Text} {joins : Joins} (h : key = sentinel ∨ key ∈ joins.keys)
    (name : Text) (pick : Text → Match) :
    (⟨name, joins.keys.map pick⟩ : Combination).value? (Query.operand sentinel joins key) =
      pickedValue sentinel name pick key := by
  unfold Query.operand pickedValue
  by_cases hk : key = sentinel
  · rw [if_pos hk, if_pos hk]
    rfl
  · have hmem := h.resolve_left hk
    rw [if_neg hk, if_neg hk]
    simp [Combination.value?, Joins.slot, List.getElem?_idxOf hmem]

/-- The verdicts on a combination: the anchor's on the first pick, then those of the filters. -/
theorem verdicts_ofSpec {spec : TableSpec} (h : spec.columns ≠ []) (sentinel : Text)
    (override : Option SortKey) (name : Text) (pick : Text → Match) :
    (Query.ofSpec sentinel spec override).terms.map
        (Term.verdict ⟨name, (Query.ofSpec sentinel spec override).joins.keys.map pick⟩) =
      ((Query.ofSpec sentinel spec override).joins.keys.head?.toList.map fun key =>
        (.and, (pick key).isMatched)) ++
      spec.verdicts sentinel name pick := by
  rw [terms_ofSpec h, List.map_append, List.map_map]
  congr 1
  · cases (Query.ofSpec sentinel spec override).joins.keys with
    | nil => rfl
    | cons key rest => rfl
  · apply List.map_congr_left
    intro filter hfilter
    have hmem := eq_sentinel_or_mem_keys h sentinel override
      (List.mem_append_right _ (List.mem_map_of_mem hfilter))
    simp only [Function.comp_apply, Term.verdict]
    rw [holds_comparison, value?_operand hmem]

end WikiPivot
