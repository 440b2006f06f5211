import WikiPivot.Text.Blank
import Mathlib.Data.List.Basic

/-! # Pieces of a text

Cutting at a character is the library's `splitOn`, so a text of joined pieces is cut back into them.
-/
namespace WikiPivot.Text

theorem pieces_eq_splitOn (mark : Char) (t : Text) : pieces mark t = t.splitOn mark := by
  induction t with
  | nil => rfl
  | cons c rest ih =>
    rw [pieces, ih, List.splitOn, List.splitOn, List.splitOnP_cons_eq_if_modifyHead]
    by_cases hc : c = mark
    · simp [hc]
    · simp [hc]

section

variable {mark : Char}

theorem pieces_of_not_mem {t : Text} (h : mark ∉ t) : pieces mark t = [t] := by
  rw [pieces_eq_splitOn, List.splitOn]
  refine List.splitOnP_eq_singleton fun c hc => ?_
  simpa using ne_of_mem_of_not_mem hc h

theorem pieces_append_cons {t : Text} (h : mark ∉ t) (rest : Text) :
    pieces mark (t ++ mark :: rest) = t :: pieces mark rest := by
  rw [pieces_eq_splitOn, List.splitOn, List.splitOnP_append_cons t rest (by simp), ← List.splitOn,
    ← List.splitOn, ← pieces_eq_splitOn, ← pieces_eq_splitOn, pieces_of_not_mem h,
    List.singleton_append]

/-- A text has one first mark, so what stands on either side of it is determined. -/
theorem append_mark_inj {s t s' t' : Text} (hs : mark ∉ s) (ht : mark ∉ t)
    (h : s ++ mark :: s' = t ++ mark :: t') : s = t ∧ s' = t' := by
  have hpieces := congrArg (pieces mark) h
  rw [pieces_append_cons hs, pieces_append_cons ht] at hpieces
  obtain ⟨rfl, -⟩ := List.cons.inj hpieces
  exact ⟨rfl, (List.cons.inj (List.append_cancel_left h)).2⟩

/-- A text is its last piece, or a piece with a mark behind it and such a text. -/
@[elab_as_elim] theorem piece_induction (mark : Char) {motive : Text → Prop}
    (last : ∀ t, mark ∉ t → motive t)
    (marked : ∀ piece rest, mark ∉ piece → motive rest → motive (piece ++ mark :: rest))
    (t : Text) : motive t := by
  induction hlen : t.length using Nat.strongRecOn generalizing t with
  | _ length ih =>
    by_cases hmark : mark ∈ t
    · obtain ⟨piece, rest, rfl, hfree⟩ := List.eq_append_cons_of_mem hmark
      have hshorter : rest.length < length := by
        rw [← hlen, List.length_append, List.length_cons]
        omega
      exact marked piece rest hfree (ih _ hshorter rest rfl)
    · exact last t hmark

theorem pieces_append_mark (s t : Text) :
    pieces mark (s ++ mark :: t) = pieces mark s ++ pieces mark t := by
  induction s using piece_induction mark with
  | last s hs => rw [pieces_append_cons hs, pieces_of_not_mem hs, List.singleton_append]
  | marked piece rest hpiece ih =>
    rw [List.append_assoc, List.cons_append, pieces_append_cons hpiece, ih,
      pieces_append_cons hpiece, List.cons_append]

/-- Joined texts are cut where they were joined, and in themselves. -/
theorem pieces_intercalate {texts : List Text} (h : texts ≠ []) :
    pieces mark ([mark].intercalate texts) = texts.flatMap (pieces mark) := by
  induction texts with
  | nil => exact absurd rfl h
  | cons text texts ih =>
    cases texts with
    | nil => simp
    | cons next texts =>
      rw [List.intercalate_cons_cons, List.append_assoc, List.singleton_append,
        pieces_append_mark, ih (List.cons_ne_nil _ _)]
      exact List.flatMap_cons.symm

theorem pieces_ne_nil (mark : Char) (t : Text) : pieces mark t ≠ [] := by
  rw [pieces_eq_splitOn]
  exact List.splitOn_ne_nil mark t

theorem pieces_append_left {pre : Text} (h : mark ∉ pre) (t : Text) :
    pieces mark (pre ++ t) = (pieces mark t).modifyHead (pre ++ ·) := by
  obtain ⟨first, more, hpieces⟩ := List.exists_cons_of_ne_nil (pieces_ne_nil mark t)
  induction pre with
  | nil => simp [hpieces]
  | cons c pre ih =>
    obtain ⟨hc, hpre⟩ := not_or.mp (mt List.mem_cons.mpr h)
    rw [List.cons_append, pieces, if_neg (Ne.symm hc), ih hpre, hpieces]
    rfl

theorem exists_pieces_append_right {post : Text} (h : mark ∉ post) (t : Text) :
    ∃ before last, pieces mark t = before ++ [last] ∧
      pieces mark (t ++ post) = before ++ [last ++ post] := by
  induction t with
  | nil => exact ⟨[], [], rfl, pieces_of_not_mem h⟩
  | cons c t ih =>
    obtain ⟨before, last, ht, hpost⟩ := ih
    by_cases hc : c = mark
    · refine ⟨[] :: before, last, ?_, ?_⟩
      · rw [pieces, if_pos hc, ht, List.cons_append]
      · rw [List.cons_append, pieces, if_pos hc, hpost, List.cons_append]
    · rw [List.cons_append, pieces, pieces, if_neg hc, if_neg hc, ht, hpost]
      cases before with
      | nil => exact ⟨[], c :: last, rfl, rfl⟩
      | cons first before => exact ⟨(c :: first) :: before, last, rfl, rfl⟩

end

theorem after?_eq_some_iff {start t rest : Text} :
    after? start t = some rest ↔ t = start ++ rest := by
  induction start generalizing t with
  | nil => simp [after?]
  | cons c start ih =>
    cases t with
    | nil => simp [after?]
    | cons d t =>
      rw [after?, Option.ite_none_right_eq_some, ih, List.cons_append, List.cons.injEq]
      exact and_congr_left' eq_comm

theorem prefix_of_prefix_append_cons {token s rest : Text} {c : Char} (hc : c ∉ token)
    (h : token <+: s ++ c :: rest) : token <+: s := by
  induction token generalizing s with
  | nil => exact List.nil_prefix
  | cons d token ih =>
    obtain ⟨hd, htoken⟩ := not_or.mp (mt List.mem_cons.mpr hc)
    cases s with
    | nil =>
      obtain ⟨hsame, -⟩ := List.cons_prefix_cons.mp h
      exact absurd hsame.symm hd
    | cons e s =>
      obtain ⟨rfl, hrest⟩ := List.cons_prefix_cons.mp h
      exact List.cons_prefix_cons.mpr ⟨rfl, ih htoken hrest⟩

@[simp] theorem octets_append (s t : Text) : octets (s ++ t) = octets s + octets t := by
  induction s with
  | nil => simp [octets]
  | cons c s ih =>
    simp only [List.cons_append, octets, ih]
    omega

end WikiPivot.Text
