import WikiPivot.Proofs.Text.Pieces

/-! # Lines of a text

A line is what stands before a newline, without one carriage return. So a line has no newline, and
lines that are each ended by both characters are read back as they were.
-/
namespace WikiPivot.Text

theorem dropFinal_of_not_mem {mark : Char} {t : Text} (h : mark ∉ t) : dropFinal mark t = t :=
  if_neg fun hlast => h (List.mem_of_getLast? hlast)

theorem dropFinal_append_singleton (mark : Char) (t : Text) : dropFinal mark (t ++ [mark]) = t := by
  simp [dropFinal]

theorem dropFinal_isPrefix (mark : Char) (t : Text) : dropFinal mark t <+: t := by
  unfold dropFinal
  split
  · exact List.dropLast_prefix t
  · exact List.prefix_refl t

theorem lines_append_newline {piece : Text} (h : '\n' ∉ piece) (rest : Text) :
    lines (piece ++ '\n' :: rest) = dropFinal '\r' piece :: lines rest := by
  obtain ⟨first, more, hpieces⟩ := List.exists_cons_of_ne_nil (pieces_ne_nil '\n' rest)
  simp only [lines, pieces_append_cons h, hpieces, List.dropLast_cons_cons, List.getLast?_cons_cons,
    List.map_cons]
  split <;> rfl

theorem lines_of_not_mem {t : Text} (h : '\n' ∉ t) : lines t = if t = [] then [] else [t] := by
  cases t with
  | nil => rfl
  | cons c t => simp [lines, pieces_of_not_mem h]

theorem newline_not_mem_of_mem_lines {t line : Text} (hline : line ∈ lines t) : '\n' ∉ line := by
  induction t using piece_induction '\n' with
  | last t ht =>
    rw [lines_of_not_mem ht] at hline
    split at hline
    · exact absurd hline List.not_mem_nil
    · rwa [List.mem_singleton.mp hline]
  | marked piece rest hpiece ih =>
    rw [lines_append_newline hpiece] at hline
    rcases List.mem_cons.mp hline with rfl | hrest
    · exact fun hmem => hpiece ((dropFinal_isPrefix '\r' piece).subset hmem)
    · exact ih hrest

/-- A carriage return before each newline keeps one that a line ends with. -/
theorem lines_flatMap_ended {texts : List Text} (h : ∀ text ∈ texts, '\n' ∉ text) :
    lines (texts.flatMap (· ++ ['\r', '\n'])) = texts := by
  induction texts with
  | nil => rfl
  | cons text texts ih =>
    obtain ⟨htext, htexts⟩ := List.forall_mem_cons.mp h
    have hpiece : '\n' ∉ text ++ ['\r'] := by simpa using htext
    have hended : (text :: texts).flatMap (· ++ ['\r', '\n']) =
        (text ++ ['\r']) ++ '\n' :: texts.flatMap (· ++ ['\r', '\n']) := by simp
    rw [hended, lines_append_newline hpiece, dropFinal_append_singleton, ih htexts]

end WikiPivot.Text
