import WikiPivot.Directive.Reading
import Mathlib.Data.List.Forall2

/-! # Reading by clauses

The table depends on what the lines say, in their order, and on nothing else of them. The line
numbers are those of the reports.
-/
namespace WikiPivot.Directive

def columnsOf (found : List Clause) : List Column :=
  (found.flatMap (·.columns)).foldl Column.insert []

def specOf (settings : DirectiveSettings) (classes : Text) (found : List Clause) : TableSpec :=
  { classes := Text.trim classes
    columns := columnsOf found
    headers := (headersFor settings (columnsOf found) (found.filterMap (·.labels?))).1
    sort := (found.filterMap (·.sort?)).getLast?
    filters := found.filterMap (·.filter?) }

theorem map_snd_clauses (settings : DirectiveSettings) (first : Nat) (lines : List Text) :
    (clauses settings first lines).map Prod.snd = lines.filterMap (Clause.ofLine? settings) := by
  induction lines generalizing first with
  | nil => rfl
  | cons line lines ih =>
    rw [clauses]
    split
    · rename_i clause hclause
      rw [List.map_cons, ih, List.filterMap_cons_some hclause]
    · rename_i hnone
      rw [ih, List.filterMap_cons_none hnone]

/-- Lines are counted from one. -/
def LineAt (lines : List Text) (number : Nat) (line : Text) : Prop :=
  1 ≤ number ∧ lines[number - 1]? = some line

theorem clauses_eq_zipIdx (settings : DirectiveSettings) (first : Nat) (lines : List Text) :
    clauses settings first lines = (lines.zipIdx first).filterMap fun (line, number) =>
      (Clause.ofLine? settings line).map fun clause => (number, clause) := by
  induction lines generalizing first with
  | nil => rfl
  | cons line lines ih =>
    rw [clauses, List.zipIdx_cons, List.filterMap_cons, ih]
    cases hclause : Clause.ofLine? settings line with
    | none => simp only [hclause, Option.map_none]
    | some clause => simp only [hclause, Option.map_some]

theorem mem_clauses_iff {settings : DirectiveSettings} {lines : List Text} {number : Nat}
    {clause : Clause} : (number, clause) ∈ clauses settings 1 lines ↔
      ∃ line, LineAt lines number line ∧ Clause.ofLine? settings line = some clause := by
  simp only [clauses_eq_zipIdx, List.mem_filterMap, Prod.exists, Option.map_eq_some_iff,
    Prod.mk.injEq, List.mk_mem_zipIdx_iff_le_and_getElem?_sub, LineAt]
  constructor
  · rintro ⟨line, _, hat, _, hclause, rfl, rfl⟩
    exact ⟨line, hat, hclause⟩
  · rintro ⟨line, hat, hclause⟩
    exact ⟨line, number, hat, clause, hclause, rfl, rfl⟩

theorem pairwise_clauses (settings : DirectiveSettings) (first : Nat) (lines : List Text) :
    (clauses settings first lines).Pairwise fun a b => a.1 < b.1 := by
  have hlines : (lines.zipIdx first).Pairwise fun a b => a.2 < b.2 := by
    have hnumbers : ((lines.zipIdx first).map Prod.snd).Pairwise (· < ·) := by
      rw [List.zipIdx_map_snd]
      exact List.pairwise_lt_range'
    exact List.pairwise_map.mp hnumbers
  rw [clauses_eq_zipIdx, List.pairwise_filterMap]
  refine hlines.imp ?_
  intro a b hless c hc d hd
  obtain ⟨_, -, rfl⟩ := Option.map_eq_some_iff.mp hc
  obtain ⟨_, -, rfl⟩ := Option.map_eq_some_iff.mp hd
  exact hless

theorem clauses_append (settings : DirectiveSettings) (first : Nat) (before after : List Text) :
    clauses settings first (before ++ after) =
      clauses settings first before ++ clauses settings (first + before.length) after := by
  simp only [clauses_eq_zipIdx, List.zipIdx_append, List.filterMap_append]

/-- Numbers run on from the first line. -/
theorem bounds_of_mem_clauses {settings : DirectiveSettings} {first number : Nat}
    {lines : List Text} {clause : Clause} (h : (number, clause) ∈ clauses settings first lines) :
    first ≤ number ∧ number < first + lines.length := by
  rw [clauses_eq_zipIdx] at h
  obtain ⟨⟨line, index⟩, hmem, hsaid⟩ := List.mem_filterMap.mp h
  obtain ⟨_, -, hpair⟩ := Option.map_eq_some_iff.mp hsaid
  obtain ⟨rfl, -⟩ := Prod.mk.inj hpair
  exact ⟨List.le_snd_of_mem_zipIdx hmem, List.snd_lt_add_of_mem_zipIdx hmem⟩

theorem clauses_succ (settings : DirectiveSettings) (first : Nat) (lines : List Text) :
    clauses settings (first + 1) lines =
      (clauses settings first lines).map fun (number, clause) => (number + 1, clause) := by
  rw [clauses_eq_zipIdx, clauses_eq_zipIdx, List.zipIdx_succ, List.filterMap_map,
    List.map_filterMap]
  simp only [Function.comp_def, Option.map_map]

theorem clauses_congr {settings : DirectiveSettings} {lines lines' : List Text}
    (h : List.Forall₂ (fun line line' => Clause.ofLine? settings line' =
      Clause.ofLine? settings line) lines lines') (first : Nat) :
    clauses settings first lines' = clauses settings first lines := by
  induction h generalizing first with
  | nil => rfl
  | cons hline _ ih => rw [clauses, clauses, hline, ih]

/-- Headers are reported if they are declared and are not as many as the columns. -/
theorem snd_headersFor (settings : DirectiveSettings) (columns : List Column)
    (declared : List (List Text)) :
    (headersFor settings columns declared).2 =
      if declared ≠ [] ∧ declared.flatten.length ≠ columns.length then
        [.headerCount declared.flatten.length columns.length]
      else [] := by
  rw [headersFor]
  generalize declared.flatten = labels
  cases declared with
  | nil => rfl
  | cons _ _ => by_cases hfits : labels.length = columns.length <;> simp [hfits]

section

variable {settings : DirectiveSettings} {lines : List Text} {found : List Clause}
  (hfound : lines.filterMap (Clause.ofLine? settings) = found)

include hfound

theorem spec_read (classes : Text) :
    (read settings classes lines).spec = specOf settings classes found := by
  rw [← hfound, ← map_snd_clauses settings 1]
  rfl

/-- Nothing is reported of clauses that are understood and of headers that fit. -/
theorem diagnostics_read (hunderstood : ∀ clause ∈ found, ∀ line, clause.diagnostic? line = none)
    (hfits : (headersFor settings (columnsOf found) (found.filterMap (·.labels?))).2 = [])
    (classes : Text) : (read settings classes lines).diagnostics = [] := by
  rw [← hfound, ← map_snd_clauses settings 1] at hunderstood hfits
  have hquiet : (clauses settings 1 lines).filterMap
      (fun (line, clause) => clause.diagnostic? line) = [] := by
    rw [List.filterMap_eq_nil_iff]
    rintro ⟨line, clause⟩ hmem
    exact hunderstood clause (List.mem_map_of_mem hmem) line
  exact List.append_eq_nil_iff.mpr ⟨hquiet, hfits⟩

end

end WikiPivot.Directive
