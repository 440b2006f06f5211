import Mathlib.Data.List.Infix
import WikiPivot.Proofs.Text.Pieces

/-! # Sections between separators

A text is cut at the occurrences of a separator from the left. Joining the sections gives the text
back, whatever it is. Cutting gives joined sections back if none of them holds the separator and the
separator has no border: one that ends as it begins can be met too early, at the end of a section.
-/
namespace WikiPivot.Text

/-- Only the empty text and the whole one both begin and end it. -/
def Unbordered (t : Text) : Prop := ∀ part, part <+: t → part <:+ t → part = [] ∨ part = t

instance (t : Text) : Decidable (Unbordered t) :=
  decidable_of_iff (∀ part ∈ t.inits, part <:+ t → part = [] ∨ part = t) <| by
    simp only [List.mem_inits, Unbordered]

section

variable (mark : Char) (more : Text)

theorem sections_nil : sections mark more [] = [[]] := by rw [sections]

theorem sections_append (t : Text) :
    sections mark more (mark :: more ++ t) = [] :: sections mark more t := by
  have hafter : after? (mark :: more) (mark :: (more ++ t)) = some t := after?_eq_some_iff.mpr rfl
  rw [List.cons_append, sections]
  split
  · rename_i after hfound
    rw [hafter] at hfound
    rw [Option.some.inj hfound]
  · rename_i hnone
    rw [hafter] at hnone
    exact absurd hnone (Option.some_ne_none t)

theorem sections_cons_of_not_isPrefix {c : Char} {t : Text} (h : ¬ mark :: more <+: c :: t) :
    sections mark more (c :: t) = (sections mark more t).modifyHead (c :: ·) := by
  rw [sections]
  split
  · rename_i after hfound
    exact absurd ⟨after, (after?_eq_some_iff.mp hfound).symm⟩ h
  · rfl

/-- A text is empty, begins with the separator, or begins with another character. -/
@[elab_as_elim] theorem section_induction {motive : Text → Prop} (empty : motive [])
    (separator : ∀ t, motive t → motive (mark :: more ++ t))
    (other : ∀ c t, ¬ mark :: more <+: c :: t → motive t → motive (c :: t)) (t : Text) :
    motive t := by
  induction t using sections.induct mark more with
  | case1 => exact empty
  | case2 c rest after hafter ih =>
    rw [after?_eq_some_iff.mp hafter]
    exact separator after ih
  | case3 c rest hnone ih =>
    refine other c rest ?_ ih
    rintro ⟨after, hafter⟩
    rw [after?_eq_some_iff.mpr hafter.symm] at hnone
    exact absurd hnone (Option.some_ne_none after)

theorem sections_ne_nil (t : Text) : sections mark more t ≠ [] := by
  induction t using section_induction mark more with
  | empty => simp [sections_nil]
  | separator t _ =>
    rw [sections_append]
    exact List.cons_ne_nil _ _
  | other c t h ih =>
    rw [sections_cons_of_not_isPrefix mark more h]
    simpa using ih

/-- Nothing is lost where a text is cut. -/
theorem intercalate_sections (t : Text) :
    (mark :: more).intercalate (sections mark more t) = t := by
  induction t using section_induction mark more with
  | empty => simp [sections_nil]
  | separator t ih =>
    obtain ⟨first, rest, hsections⟩ := List.exists_cons_of_ne_nil (sections_ne_nil mark more t)
    rw [hsections] at ih
    rw [sections_append, hsections, List.intercalate_cons_cons, ih, List.nil_append]
  | other c t h ih =>
    obtain ⟨first, rest, hsections⟩ := List.exists_cons_of_ne_nil (sections_ne_nil mark more t)
    rw [sections_cons_of_not_isPrefix mark more h]
    rw [hsections] at ih ⊢
    rw [List.modifyHead_cons]
    conv_rhs => rw [← ih]
    cases rest with
    | nil => simp
    | cons second rest => simp [List.intercalate_cons_cons]

end

/-- A separator without a border is not met where it would begin inside a value and end in the
separator behind it. -/
theorem not_prefix_append_of_unbordered {separator value : Text} (hun : Unbordered separator)
    (hvalue : value ≠ []) (hfree : ¬ separator <:+: value) (rest : Text) :
    ¬ separator <+: value ++ (separator ++ rest) := by
  rintro ⟨after, hafter⟩
  rcases List.append_eq_append_iff.mp hafter with ⟨middle, hmiddle, -⟩ | ⟨part, hpart, hrest⟩
  · exact hfree ⟨[], middle, by rw [List.nil_append, hmiddle]⟩
  · -- what the occurrence takes of the separator behind the value is a border
    have hshorter : part.length < separator.length := by
      have := List.length_pos_iff.mpr hvalue
      rw [hpart, List.length_append]
      omega
    have hstart : part <+: separator :=
      List.prefix_of_prefix_length_le ⟨after, hrest.symm⟩ (List.prefix_append _ _)
        (Nat.le_of_lt hshorter)
    rcases hun part hstart ⟨value, hpart.symm⟩ with rfl | rfl
    · rw [List.append_nil] at hpart
      exact hfree (hpart ▸ List.infix_refl _)
    · exact absurd hshorter (Nat.lt_irrefl _)

section

variable {mark : Char} {more : Text}

theorem sections_of_free {t : Text} (h : ¬ mark :: more <:+: t) : sections mark more t = [t] := by
  induction t with
  | nil => exact sections_nil mark more
  | cons c t ih =>
    rw [sections_cons_of_not_isPrefix mark more fun hstart => h hstart.isInfix,
      ih fun hinside => h (hinside.trans (List.suffix_cons c t).isInfix)]
    rfl

/-- The first cut is made behind a value without the separator. -/
theorem sections_append_of_unbordered (hun : Unbordered (mark :: more)) {value : Text}
    (hfree : ¬ mark :: more <:+: value) (rest : Text) :
    sections mark more (value ++ (mark :: more ++ rest)) = value :: sections mark more rest := by
  induction value with
  | nil => exact sections_append mark more rest
  | cons c value ih =>
    have hstart := not_prefix_append_of_unbordered hun (List.cons_ne_nil c value) hfree rest
    rw [List.cons_append] at hstart ⊢
    rw [sections_cons_of_not_isPrefix mark more hstart,
      ih fun hinside => hfree (hinside.trans (List.suffix_cons c value).isInfix)]
    rfl

/-- Joined values are cut back into them. -/
theorem sections_intercalate (hun : Unbordered (mark :: more)) {values : List Text}
    (hne : values ≠ []) (hfree : ∀ value ∈ values, ¬ mark :: more <:+: value) :
    sections mark more ((mark :: more).intercalate values) = values := by
  induction values with
  | nil => exact absurd rfl hne
  | cons value values ih =>
    obtain ⟨hvalue, hvalues⟩ := List.forall_mem_cons.mp hfree
    cases values with
    | nil => rw [List.intercalate_singleton, sections_of_free hvalue]
    | cons next values =>
      rw [List.intercalate_cons_cons, List.append_assoc,
        sections_append_of_unbordered hun hvalue, ih (List.cons_ne_nil _ _) hvalues]

/-- A border is met at the end of a value, and the cut is made there. -/
example :
    sections '-' ['-'] ("--".toList.intercalate ["a-".toList, "b".toList]) =
      ["a".toList, "-b".toList] := by
  decide +kernel

end

end WikiPivot.Text
