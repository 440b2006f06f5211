import WikiPivot.Proofs.Text.Pieces
import Mathlib.Data.List.DropRight

/-! # Trimmed texts

Trimming splits a text into blanks, a trimmed text and blanks, and it is the only such split.
-/
namespace WikiPivot.Text

def Blanks (t : Text) : Prop := ∀ c ∈ t, isBlank c = true

theorem blanks_nil : Blanks [] := fun _ hc => absurd hc List.not_mem_nil

theorem blanks_singleton {c : Char} (hc : isBlank c = true) : Blanks [c] := by
  intro d hd
  rwa [List.mem_singleton.mp hd]

theorem Blanks.not_mem {t : Text} (h : Blanks t) {c : Char} (hc : isBlank c = false) : c ∉ t := by
  intro hmem
  rw [h c hmem] at hc
  exact absurd hc (by decide)

structure Trimmed (t : Text) : Prop where
  first : ∀ c ∈ t.head?, isBlank c = false
  last : ∀ c ∈ t.getLast?, isBlank c = false

theorem dropWhile_isBlank_of_head? {t : Text} (h : ∀ c ∈ t.head?, isBlank c = false) :
    t.dropWhile isBlank = t := by
  cases t with
  | nil => rfl
  | cons c rest =>
    have hc : isBlank c = false := h c rfl
    simp [hc]

theorem trimRight_append_blanks {post : Text} (hpost : Blanks post) (t : Text) :
    trimRight (t ++ post) = trimRight t := by
  have hreverse : ∀ c ∈ post.reverse, isBlank c = true := fun c hc =>
    hpost c (List.mem_reverse.mp hc)
  rw [trimRight, List.reverse_append, List.dropWhile_append_of_pos hreverse, trimRight]

theorem trimRight_of_getLast? {t : Text} (h : ∀ c ∈ t.getLast?, isBlank c = false) :
    trimRight t = t := by
  have hhead : ∀ c ∈ t.reverse.head?, isBlank c = false := by
    intro c hc
    rw [List.head?_reverse] at hc
    exact h c hc
  rw [trimRight, dropWhile_isBlank_of_head? hhead, List.reverse_reverse]

theorem exists_trimRight (t : Text) : ∃ post, Blanks post ∧ t = trimRight t ++ post :=
  ⟨t.rtakeWhile isBlank, fun _ => List.mem_rtakeWhile_imp,
    List.rdropWhile_append_rtakeWhile.symm⟩

theorem isBlank_of_getLast?_trimRight {t : Text} {c : Char} (h : c ∈ (trimRight t).getLast?) :
    isBlank c = false := by
  obtain ⟨hne, rfl⟩ := List.mem_getLast?_eq_getLast h
  exact Bool.eq_false_iff.mpr (List.rdropWhile_last_not isBlank t hne)

theorem exists_trim (t : Text) :
    ∃ pre post, Blanks pre ∧ Blanks post ∧ t = pre ++ (trim t ++ post) := by
  obtain ⟨post, hpost, hright⟩ := exists_trimRight (trimLeft t)
  refine ⟨t.takeWhile isBlank, post, fun _ => List.mem_takeWhile_imp, hpost, ?_⟩
  rw [trim, ← hright, trimLeft, List.takeWhile_append_dropWhile]

theorem trimmed_trim (t : Text) : Trimmed (trim t) where
  first := by
    intro c hc
    obtain ⟨post, -, hright⟩ := exists_trimRight (trimLeft t)
    have hhead : (t.dropWhile isBlank).head? = some c := by
      rw [← trimLeft, hright]
      exact List.mem_head?_append_of_mem_head? hc
    have hnot := List.head?_dropWhile_not isBlank t
    rw [hhead] at hnot
    simpa using hnot
  last := fun _ => isBlank_of_getLast?_trimRight

/-- The split that trimming makes is the only one. -/
theorem trim_of_split {pre core post : Text} (hpre : Blanks pre) (hcore : Trimmed core)
    (hpost : Blanks post) : trim (pre ++ (core ++ post)) = core := by
  rw [trim, trimLeft, List.dropWhile_append_of_pos hpre]
  cases core with
  | nil =>
    have hnil : (([] : Text) ++ post).dropWhile isBlank = [] := List.dropWhile_eq_nil_iff.mpr hpost
    rw [hnil]
    rfl
  | cons c core =>
    have hhead : ∀ d ∈ (c :: core ++ post).head?, isBlank d = false := hcore.first
    rw [dropWhile_isBlank_of_head? hhead, trimRight_append_blanks hpost,
      trimRight_of_getLast? hcore.last]

theorem trim_of_trimmed {t : Text} (h : Trimmed t) : trim t = t := by
  have hsplit := trim_of_split blanks_nil h blanks_nil
  rwa [List.append_nil, List.nil_append] at hsplit

theorem trim_eq_self_iff {t : Text} : trim t = t ↔ Trimmed t := by
  constructor
  · intro h
    rw [← h]
    exact trimmed_trim t
  · exact trim_of_trimmed

@[simp] theorem trim_trim (t : Text) : trim (trim t) = trim t := trim_of_trimmed (trimmed_trim t)

theorem Blanks.append {s t : Text} (hs : Blanks s) (ht : Blanks t) : Blanks (s ++ t) := by
  intro c hc
  rcases List.mem_append.mp hc with hc | hc
  · exact hs c hc
  · exact ht c hc

theorem trim_blanks_append {pre : Text} (hpre : Blanks pre) (t : Text) :
    trim (pre ++ t) = trim t := by
  obtain ⟨pre', post, hpre', hpost, ht⟩ := exists_trim t
  conv_lhs => rw [ht, ← List.append_assoc]
  exact trim_of_split (hpre.append hpre') (trimmed_trim t) hpost

theorem trim_eq_nil_iff {t : Text} : trim t = [] ↔ Blanks t := by
  constructor
  · intro h
    obtain ⟨pre, post, hpre, hpost, ht⟩ := exists_trim t
    rw [ht, h, List.nil_append]
    exact hpre.append hpost
  · intro h
    rw [← List.append_nil t, trim_blanks_append h]
    rfl

theorem trim_append_blanks {post : Text} (hpost : Blanks post) (t : Text) :
    trim (t ++ post) = trim t := by
  obtain ⟨pre, post', hpre, hpost', ht⟩ := exists_trim t
  conv_lhs => rw [ht, List.append_assoc, List.append_assoc]
  exact trim_of_split hpre (trimmed_trim t) (hpost'.append hpost)

theorem trim_cons_of_isBlank {c : Char} (hc : isBlank c = true) (t : Text) :
    trim (c :: t) = trim t :=
  trim_blanks_append (blanks_singleton hc) t

@[simp] theorem trim_trimRight (t : Text) : trim (trimRight t) = trim t := by
  obtain ⟨post, hpost, ht⟩ := exists_trimRight t
  conv_rhs => rw [ht, trim_append_blanks hpost]

/-- A text that begins and ends with characters that are not blank is trimmed. -/
theorem Trimmed.append {s t : Text} (hs : Trimmed s) (ht : Trimmed t) (hsn : s ≠ []) (htn : t ≠ [])
    (middle : Text) : Trimmed (s ++ (middle ++ t)) where
  first := by
    intro c hc
    rw [List.head?_append_of_ne_nil _ hsn] at hc
    exact hs.first c hc
  last := by
    intro c hc
    rw [← List.append_assoc, List.getLast?_append_of_ne_nil _ htn] at hc
    exact ht.last c hc

theorem trimmed_of_forall {t : Text} (h : ∀ c ∈ t, isBlank c = false) : Trimmed t where
  first := fun c hc => h c (List.mem_of_mem_head? hc)
  last := fun c hc => h c (List.mem_of_mem_getLast? hc)

/-- Behind a trimmed text the rest is trimmed on the right alone. -/
theorem trim_append {s : Text} (hs : Trimmed s) (hsn : s ≠ []) (rest : Text) :
    trim (s ++ rest) = s ++ trimRight rest := by
  obtain ⟨post, hpost, hrest⟩ := exists_trimRight rest
  have hcore : Trimmed (s ++ trimRight rest) := by
    constructor
    · intro c hc
      rw [List.head?_append_of_ne_nil _ hsn] at hc
      exact hs.first c hc
    · intro c hc
      by_cases hnil : trimRight rest = []
      · rw [hnil, List.append_nil] at hc
        exact hs.last c hc
      · rw [List.getLast?_append_of_ne_nil _ hnil] at hc
        exact isBlank_of_getLast?_trimRight hc
  have hsplit : s ++ rest = s ++ trimRight rest ++ post := by
    conv_lhs => rw [hrest, ← List.append_assoc]
  rw [hsplit, trim_append_blanks hpost, trim_of_trimmed hcore]

/-- The first word of a text that begins with letters and a blank. -/
theorem firstWord_append_cons {word : Text} (hword : ∀ c ∈ word, isBlank c = false) {c : Char}
    (hc : isBlank c = true) (rest : Text) : firstWord (word ++ c :: rest) = (word, rest) := by
  have hall : ∀ d ∈ word, (!isBlank d) = true := fun d hd => by rw [hword d hd]; rfl
  rw [firstWord, List.takeWhile_append_of_pos hall, List.dropWhile_append_of_pos hall]
  simp [hc]

theorem firstWord_of_forall {word : Text} (hword : ∀ c ∈ word, isBlank c = false) :
    firstWord word = (word, []) := by
  have hall : ∀ d ∈ word, (!isBlank d) = true := fun d hd => by rw [hword d hd]; rfl
  rw [firstWord, List.takeWhile_eq_self_iff.mpr hall, List.dropWhile_eq_nil_iff.mpr hall]
  rfl

/-- Blanks at the ends of a text are trimmed off its pieces anyway. -/
theorem map_trim_pieces_trim {mark : Char} (hmark : isBlank mark = false) (t : Text) :
    (pieces mark (trim t)).map trim = (pieces mark t).map trim := by
  obtain ⟨pre, post, hpre, hpost, ht⟩ := exists_trim t
  obtain ⟨before, last, htrim, hright⟩ := exists_pieces_append_right (hpost.not_mem hmark) (trim t)
  conv_rhs => rw [ht, pieces_append_left (hpre.not_mem hmark), hright]
  rw [htrim]
  cases before with
  | nil => simp [trim_blanks_append hpre, trim_append_blanks hpost]
  | cons first before => simp [trim_blanks_append hpre, trim_append_blanks hpost]

end WikiPivot.Text
