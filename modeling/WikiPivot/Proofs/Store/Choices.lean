import WikiPivot.Store.Answer
import WikiPivot.Proofs.Distinct
import Mathlib.Data.List.Basic
import Mathlib.Logic.Function.Basic

/-! # Choosing one member of each list

A condition on each place of a choice may be checked on the lists beforehand. Projected to the first
lists, or to one of them, the choices repeat what can be chosen there in its own order.
-/
namespace WikiPivot

variable {α κ : Type}

theorem length_of_mem_choices {lists : List (List α)} {x : List α} (h : x ∈ choices lists) :
    x.length = lists.length := by
  induction lists generalizing x with
  | nil => simp_all [choices]
  | cons options rest ih =>
    obtain ⟨a, _, hx⟩ := List.mem_flatMap.mp h
    obtain ⟨y, hy, rfl⟩ := List.mem_map.mp hx
    simp [ih hy]

theorem choices_ne_nil {lists : List (List α)} :
    choices lists ≠ [] ↔ ∀ options ∈ lists, options ≠ [] := by
  induction lists with
  | nil => simp [choices]
  | cons options rest ih =>
    rw [List.forall_mem_cons, ← ih]
    constructor
    · intro h
      obtain ⟨x, hx⟩ := List.exists_mem_of_ne_nil _ h
      obtain ⟨a, ha, hx⟩ := List.mem_flatMap.mp hx
      obtain ⟨y, hy, rfl⟩ := List.mem_map.mp hx
      exact ⟨List.ne_nil_of_mem ha, List.ne_nil_of_mem hy⟩
    · rintro ⟨hoptions, hrest⟩
      obtain ⟨a, ha⟩ := List.exists_mem_of_ne_nil _ hoptions
      obtain ⟨y, hy⟩ := List.exists_mem_of_ne_nil _ hrest
      apply List.ne_nil_of_mem
      exact List.mem_flatMap.mpr ⟨a, ha, List.mem_map_of_mem hy⟩

theorem choices_append (front back : List (List α)) :
    choices (front ++ back) = (choices front).flatMap fun x => (choices back).map (x ++ ·) := by
  induction front with
  | nil => simp [choices]
  | cons options rest ih =>
    simp [choices, ih, List.flatMap_assoc, List.flatMap_map, List.map_flatMap, Function.comp_def]

/-- A choice for different keys is what one function picks for each of them. -/
theorem mem_choices_map [DecidableEq κ] {keys : List κ} {options : κ → List α}
    (hne : ∀ k, options k ≠ []) (hkeys : keys.Nodup) {x : List α} :
    x ∈ choices (keys.map options) ↔
      ∃ pick : κ → α, (∀ k, pick k ∈ options k) ∧ x = keys.map pick := by
  induction keys generalizing x with
  | nil =>
    have : ∃ pick : κ → α, ∀ k, pick k ∈ options k :=
      ⟨fun k => (options k).head (hne k), fun k => List.head_mem (hne k)⟩
    simp [choices, this]
  | cons key rest ih =>
    obtain ⟨hkey, hrest⟩ := List.nodup_cons.mp hkeys
    simp only [List.map_cons, choices, List.mem_flatMap, List.mem_map, ih hrest]
    constructor
    · rintro ⟨a, ha, _, ⟨pick, hpick, rfl⟩, rfl⟩
      -- the other keys differ from the first, so their picks are kept
      refine ⟨Function.update pick key a, ?_, ?_⟩
      · intro k
        by_cases hk : k = key
        · subst k
          simpa using ha
        · simpa [hk] using hpick k
      · rw [Function.update_self]
        congr 1
        apply List.map_congr_left
        intro k hk
        have : k ≠ key := ne_of_mem_of_not_mem hk hkey
        rw [Function.update_of_ne this]
    · rintro ⟨pick, hpick, rfl⟩
      exact ⟨pick key, hpick key, _, ⟨pick, hpick, rfl⟩, rfl⟩

/-- Conditions on single places may be checked before anything is chosen. -/
theorem filter_choices (keys : List κ) (options : κ → List α) (p : κ → α → Bool) :
    (choices (keys.map options)).filter (fun x => (keys.zip x).all fun entry =>
        p entry.1 entry.2) =
      choices (keys.map fun k => (options k).filter (p k)) := by
  induction keys with
  | nil => simp [choices]
  | cons key rest ih =>
    simp only [List.map_cons, choices, List.filter_flatMap, List.filter_map, Function.comp_def,
      List.zip_cons_cons, List.all_cons]
    induction options key with
    | nil => rfl
    | cons a as iha =>
      rw [List.flatMap_cons, iha]
      cases ha : p key a with
      | false => simp [ha]
      | true => simp [ha, ih]

theorem flatMap_ite_singleton (p : α → Bool) (xs : List α) :
    (xs.flatMap fun x => if p x then [x] else []) = xs.filter p := by
  induction xs with
  | nil => rfl
  | cons x xs ih =>
    cases h : p x <;> simp [h, ih]

variable [DecidableEq α]

/-- One place of the choices shows the members of its list, in their order. -/
theorem distinct_choices_getElem {lists : List (List α)} (h : ∀ options ∈ lists, options ≠ [])
    {i : Nat} {options : List α} (hi : lists[i]? = some options) :
    distinct ((choices lists).filterMap (·[i]?)) = distinct options := by
  induction lists generalizing i with
  | nil => cases hi
  | cons first rest ih =>
    have hrest : ∀ l ∈ rest, l ≠ [] := fun l hl => h l (List.mem_cons_of_mem _ hl)
    cases i with
    | zero =>
      obtain rfl : first = options := Option.some.inj hi
      have hsome : ∀ a : α, (choices rest).filterMap (fun x => (a :: x)[0]?) =
          (choices rest).flatMap fun _ => [a] := by
        intro a
        simp [List.filterMap_eq_flatMap_toList]
      simp only [choices, List.filterMap_flatMap, List.filterMap_map, Function.comp_def, hsome]
      rw [distinct_flatMap_congr fun a _ => distinct_flatMap_const (choices_ne_nil.mpr hrest) [a]]
      simp
    | succ i =>
      simp only [choices, List.filterMap_flatMap, List.filterMap_map, Function.comp_def,
        List.getElem?_cons_succ]
      rw [distinct_flatMap_const (h first List.mem_cons_self)]
      exact ih hrest (by simpa using hi)

/-- The first lists of the choices that pass are shown in their own order, each choice of them that
some choice of the others completes. -/
theorem distinct_choices_take (front back : List (List α)) (p : List α → Bool) :
    distinct (((choices (front ++ back)).filter p).map (·.take front.length)) =
      distinct ((choices front).filter fun x => (choices back).any fun y => p (x ++ y)) := by
  rw [choices_append, List.filter_flatMap, List.map_flatMap,
    ← flatMap_ite_singleton (fun x => (choices back).any fun y => p (x ++ y))]
  apply distinct_flatMap_congr
  intro x hx
  have hlen : front.length = x.length := (length_of_mem_choices hx).symm
  have htake : (((choices back).map (x ++ ·)).filter p).map (·.take front.length) =
      ((choices back).filter fun y => p (x ++ y)).flatMap fun _ => [x] := by
    rw [List.filter_map, List.map_map, ← List.map_eq_flatMap]
    simp [hlen, Function.comp_def]
  rw [htake]
  cases hany : (choices back).any fun y => p (x ++ y) with
  | false =>
    have : (choices back).filter (fun y => p (x ++ y)) = [] := by
      simpa [List.filter_eq_nil_iff] using hany
    simp [this]
  | true =>
    have : (choices back).filter (fun y => p (x ++ y)) ≠ [] := by
      simpa [List.filter_eq_nil_iff] using hany
    rw [distinct_flatMap_const this]
    rfl

end WikiPivot
