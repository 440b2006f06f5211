import WikiPivot.Distinct
import Mathlib.Data.List.Induction
import Mathlib.Data.List.Nodup

/-! # First occurrences

`distinct` keeps the first of equal members. What a list shows after a map or a concatenation
depends only on the distinct members of its parts, in their order.
-/
namespace WikiPivot

variable {α β : Type} [DecidableEq α]

@[simp] theorem distinct_nil : distinct ([] : List α) = [] := rfl

theorem addNew_of_mem {seen : List α} {x : α} (h : x ∈ seen) : addNew seen x = seen := if_pos h

theorem addNew_of_not_mem {seen : List α} {x : α} (h : x ∉ seen) : addNew seen x = seen ++ [x] :=
  if_neg h

theorem mem_addNew {seen : List α} {x y : α} : y ∈ addNew seen x ↔ y ∈ seen ∨ y = x := by
  by_cases h : x ∈ seen
  · rw [addNew_of_mem h]
    exact ⟨Or.inl, fun hy => hy.elim id fun e => e ▸ h⟩
  · simp [addNew_of_not_mem h]

theorem mem_foldl_addNew {seen xs : List α} {y : α} :
    y ∈ xs.foldl addNew seen ↔ y ∈ seen ∨ y ∈ xs := by
  induction xs generalizing seen with
  | nil => simp
  | cons x xs ih => simp [ih, mem_addNew, or_assoc]

@[simp] theorem mem_distinct {x : α} {xs : List α} : x ∈ distinct xs ↔ x ∈ xs := by
  simp [distinct, mem_foldl_addNew]

/-- Members already seen are passed over. -/
theorem foldl_addNew (seen xs : List α) :
    xs.foldl addNew seen = seen ++ (distinct xs).filter (· ∉ seen) := by
  induction xs using List.reverseRecOn with
  | nil => simp
  | append_singleton xs x ih =>
    have hlast : distinct (xs ++ [x]) = addNew (distinct xs) x := by simp [distinct]
    rw [List.foldl_append, List.foldl_cons, List.foldl_nil, hlast]
    by_cases hx : x ∈ xs
    · rw [addNew_of_mem (mem_foldl_addNew.mpr (Or.inr hx)), addNew_of_mem (mem_distinct.mpr hx), ih]
    · have hd : x ∉ distinct xs := fun h => hx (mem_distinct.mp h)
      rw [addNew_of_not_mem hd, List.filter_append]
      by_cases hs : x ∈ seen
      · rw [addNew_of_mem (mem_foldl_addNew.mpr (Or.inl hs)), ih]
        simp [hs]
      · have : x ∉ xs.foldl addNew seen := by simp [mem_foldl_addNew, hx, hs]
        rw [addNew_of_not_mem this, ih]
        simp [hs]

theorem distinct_append (xs ys : List α) :
    distinct (xs ++ ys) = distinct xs ++ (distinct ys).filter (· ∉ distinct xs) := by
  have h := foldl_addNew (distinct xs) ys
  rwa [distinct, ← List.foldl_append] at h

theorem distinct_cons (x : α) (xs : List α) :
    distinct (x :: xs) = x :: (distinct xs).filter (· ≠ x) := by
  have h := foldl_addNew [x] xs
  simpa [distinct, addNew] using h

theorem nodup_distinct (xs : List α) : (distinct xs).Nodup := by
  induction xs with
  | nil => simp
  | cons x xs ih =>
    rw [distinct_cons, List.nodup_cons]
    exact ⟨by simp, ih.filter _⟩

theorem distinct_eq_self {xs : List α} (h : xs.Nodup) : distinct xs = xs := by
  induction xs with
  | nil => rfl
  | cons x xs ih =>
    obtain ⟨hx, hn⟩ := List.nodup_cons.mp h
    rw [distinct_cons, ih hn, List.filter_eq_self.mpr]
    intro y hy
    have : y ≠ x := fun e => hx (e ▸ hy)
    simpa using this

theorem isPrefix_distinct_append (xs ys : List α) : distinct xs <+: distinct (xs ++ ys) := by
  rw [distinct_append]
  exact List.prefix_append _ _

theorem distinct_map_of_injOn [DecidableEq β] {f : α → β} {xs : List α}
    (h : ∀ x ∈ xs, ∀ y ∈ xs, f x = f y → x = y) : distinct (xs.map f) = (distinct xs).map f := by
  induction xs with
  | nil => rfl
  | cons x xs ih =>
    have hxs : ∀ a ∈ xs, ∀ b ∈ xs, f a = f b → a = b := fun a ha b hb =>
      h a (List.mem_cons_of_mem _ ha) b (List.mem_cons_of_mem _ hb)
    rw [List.map_cons, distinct_cons, distinct_cons, ih hxs, List.map_cons, List.filter_map]
    congr 2
    apply List.filter_congr
    intro y hy
    have hy : y ∈ xs := mem_distinct.mp hy
    have : f y = f x ↔ y = x :=
      ⟨h y (List.mem_cons_of_mem _ hy) x List.mem_cons_self, fun e => e ▸ rfl⟩
    simp [this]

theorem distinct_filter (p : α → Bool) (xs : List α) :
    distinct (xs.filter p) = (distinct xs).filter p := by
  induction xs with
  | nil => rfl
  | cons x xs ih =>
    by_cases hx : p x
    · simp [hx, distinct_cons, ih, List.filter_filter, Bool.and_comm]
    · rw [List.filter_cons_of_neg hx, ih, distinct_cons, List.filter_cons_of_neg hx,
        List.filter_filter]
      apply List.filter_congr
      intro y _
      by_cases hy : y = x
      · simp [hy, hx]
      · simp [hy]

/-- `distinct` is the library's `eraseDups`. -/
theorem eraseDups_eq_distinct [BEq α] [LawfulBEq α] (xs : List α) :
    xs.eraseDups = distinct xs := by
  induction hlen : xs.length using Nat.strongRecOn generalizing xs with
  | _ length ih =>
    cases xs with
    | nil => rfl
    | cons x xs =>
      have hshorter : (xs.filter fun y => !y == x).length < length := by
        have := List.length_filter_le (fun y => !y == x) xs
        rw [← hlen, List.length_cons]
        omega
      rw [List.eraseDups_cons, ih _ hshorter _ rfl, distinct_filter, distinct_cons]
      congr 2
      funext y
      by_cases hy : y = x
      · simp [hy]
      · simp [hy]

/-- Concatenation looks only at the distinct members of both sides. -/
theorem distinct_append_congr {xs xs' ys ys' : List α} (hx : distinct xs = distinct xs')
    (hy : distinct ys = distinct ys') : distinct (xs ++ ys) = distinct (xs' ++ ys') := by
  rw [distinct_append, distinct_append, hx, hy]

theorem distinct_flatMap_congr {xs : List β} {f g : β → List α}
    (h : ∀ x ∈ xs, distinct (f x) = distinct (g x)) :
    distinct (xs.flatMap f) = distinct (xs.flatMap g) := by
  induction xs with
  | nil => rfl
  | cons x xs ih =>
    rw [List.flatMap_cons, List.flatMap_cons]
    exact distinct_append_congr (h x List.mem_cons_self)
      (ih fun y hy => h y (List.mem_cons_of_mem _ hy))

theorem distinct_append_of_subset {xs ys : List α} (h : ∀ y ∈ ys, y ∈ xs) :
    distinct (xs ++ ys) = distinct xs := by
  rw [distinct_append, List.filter_eq_nil_iff.mpr, List.append_nil]
  intro y hy
  simpa using h y (mem_distinct.mp hy)

theorem distinct_flatMap_const {xs : List β} (h : xs ≠ []) (ys : List α) :
    distinct (xs.flatMap fun _ => ys) = distinct ys := by
  cases xs with
  | nil => exact absurd rfl h
  | cons x xs =>
    rw [List.flatMap_cons]
    apply distinct_append_of_subset
    intro y hy
    obtain ⟨_, _, hy⟩ := List.mem_flatMap.mp hy
    exact hy

/-- What is shown of a list, member by member, depends only on its distinct members. -/
theorem distinct_flatMap_distinct [DecidableEq β] (f : α → List β) (xs : List α) :
    distinct ((distinct xs).flatMap f) = distinct (xs.flatMap f) := by
  -- from the back, since a new last member leaves the distinct ones before it as they are
  induction xs using List.reverseRecOn with
  | nil => rfl
  | append_singleton xs x ih =>
    rw [distinct_append]
    by_cases hx : x ∈ xs
    · have : (distinct [x]).filter (· ∉ distinct xs) = [] := by simp [distinct_cons, hx]
      rw [this, List.append_nil, ih, List.flatMap_append]
      refine (distinct_append_of_subset ?_).symm
      intro y hy
      exact List.mem_flatMap.mpr ⟨x, hx, by simpa using hy⟩
    · have : (distinct [x]).filter (· ∉ distinct xs) = [x] := by simp [distinct_cons, hx]
      rw [this, List.flatMap_append, List.flatMap_append]
      exact distinct_append_congr ih rfl

theorem distinct_filterMap_distinct [DecidableEq β] (f : α → Option β) (xs : List α) :
    distinct ((distinct xs).filterMap f) = distinct (xs.filterMap f) := by
  simp only [List.filterMap_eq_flatMap_toList]
  exact distinct_flatMap_distinct _ xs

end WikiPivot
