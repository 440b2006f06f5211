import WikiPivot.Column
import WikiPivot.Proofs.Distinct

/-! # Columns inserted one after the other

A key takes its place where it first comes, and of the columns of one key the last one stays.
-/
namespace WikiPivot.Column

section

variable {columns : List Column} {column : Column}

theorem insert_of_mem (h : column.key ∈ columns.map (·.key)) :
    insert columns column =
      columns.map fun old => if old.key = column.key then column else old := by
  obtain ⟨old, hold, hkey⟩ := List.mem_map.mp h
  rw [insert, if_pos (List.any_eq_true.mpr ⟨old, hold, decide_eq_true hkey⟩)]

theorem insert_of_not_mem (h : column.key ∉ columns.map (·.key)) :
    insert columns column = columns ++ [column] := by
  rw [insert, if_neg]
  intro hany
  obtain ⟨old, hold, hkey⟩ := List.any_eq_true.mp hany
  exact h (List.mem_map.mpr ⟨old, hold, of_decide_eq_true hkey⟩)

/-- A key that is there keeps its place. -/
theorem map_key_insert :
    (insert columns column).map (·.key) = addNew (columns.map (·.key)) column.key := by
  by_cases h : column.key ∈ columns.map (·.key)
  · rw [insert_of_mem h, addNew_of_mem h, List.map_map]
    apply List.map_congr_left
    intro old _
    rw [Function.comp_apply]
    split
    · rename_i hkey
      exact hkey.symm
    · rfl
  · rw [insert_of_not_mem h, addNew_of_not_mem h, List.map_append]
    rfl

/-- A column displaces the one of its key and no other. -/
theorem mem_insert_iff {other : Column} :
    other ∈ insert columns column ↔
      other = column ∨ (other ∈ columns ∧ other.key ≠ column.key) := by
  by_cases h : column.key ∈ columns.map (·.key)
  · rw [insert_of_mem h, List.mem_map]
    constructor
    · rintro ⟨old, hold, rfl⟩
      split
      · exact Or.inl rfl
      · rename_i hother
        exact Or.inr ⟨hold, hother⟩
    · rintro (rfl | ⟨hother, hne⟩)
      · obtain ⟨old, hold, hkey⟩ := List.mem_map.mp h
        exact ⟨old, hold, if_pos hkey⟩
      · exact ⟨other, hother, if_neg hne⟩
  · rw [insert_of_not_mem h, List.mem_append, List.mem_singleton, or_comm]
    refine or_congr_right (and_iff_left_of_imp ?_).symm
    intro hother hkey
    exact h (List.mem_map.mpr ⟨other, hother, hkey⟩)

end

/-- The keys stand in the order of first occurrence. -/
theorem map_key_foldl_insert (named : List Column) :
    (named.foldl insert []).map (·.key) = distinct (named.map (·.key)) := by
  induction named using List.reverseRecOn with
  | nil => rfl
  | append_singleton named column ih =>
    rw [List.foldl_append, List.foldl_cons, List.foldl_nil, map_key_insert, ih, distinct, distinct,
      List.map_append, List.foldl_append]
    rfl

/-- Of the columns that are named with one key the last one is left. -/
theorem mem_foldl_insert_iff {named : List Column} {column : Column} :
    column ∈ named.foldl insert [] ↔
      (named.filter (·.key = column.key)).getLast? = some column := by
  induction named using List.reverseRecOn with
  | nil => simp
  | append_singleton named last ih =>
    rw [List.foldl_append, List.foldl_cons, List.foldl_nil, mem_insert_iff, ih, List.filter_append]
    by_cases hkey : last.key = column.key
    · simp [hkey, eq_comm]
    · have hne : column ≠ last := fun h => hkey (h ▸ rfl)
      simp [hkey, hne, Ne.symm hkey]

/-- Columns with keys of their own are left as they are. -/
theorem foldl_insert_of_nodup {shown columns : List Column}
    (h : ((shown ++ columns).map (·.key)).Nodup) :
    columns.foldl insert shown = shown ++ columns := by
  induction columns generalizing shown with
  | nil => rw [List.foldl_nil, List.append_nil]
  | cons column columns ih =>
    have hnew : column.key ∉ shown.map (·.key) := by
      intro hshown
      rw [List.map_append, List.nodup_append] at h
      exact h.2.2 _ hshown _ (List.mem_map_of_mem List.mem_cons_self) rfl
    have hcons : shown ++ column :: columns = shown ++ [column] ++ columns := by simp
    rw [List.foldl_cons, insert_of_not_mem hnew, hcons]
    rw [hcons] at h
    exact ih h

end WikiPivot.Column
