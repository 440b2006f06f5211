import WikiPivot.Directive.Reading
import WikiPivot.Proofs.Text.Lowercase
import WikiPivot.Proofs.Text.Trim

/-! # Escaped arguments

An argument with a backslash before every hash and every colon comes out of a line as it was, but
for the blanks at its ends.
-/
namespace WikiPivot

namespace Text

theorem replaceChar_append (mark : Char) (part s t : Text) :
    replaceChar mark part (s ++ t) = replaceChar mark part s ++ replaceChar mark part t := by
  induction s with
  | nil => rfl
  | cons c s ih => rw [List.cons_append, replaceChar, replaceChar, ih, List.append_assoc]

theorem replaceChar_of_not_mem {mark : Char} {t : Text} (h : mark ∉ t) (part : Text) :
    replaceChar mark part t = t := by
  induction t with
  | nil => rfl
  | cons c t ih =>
    obtain ⟨hc, ht⟩ := not_or.mp (mt List.mem_cons.mpr h)
    rw [replaceChar, if_neg (Ne.symm hc), ih ht, List.singleton_append]

section

variable {mark : Char}

theorem unescape_cons (c : Char) (t : Text) :
    unescape mark (c :: t) =
      if c = '\\' ∧ t.head? = some mark then mark :: unescape mark t.tail
      else c :: unescape mark t := by
  cases t with
  | nil => simp [unescape]
  | cons d t => simp only [unescape, List.head?_cons, Option.some.injEq, List.tail_cons]

/-- A text is unescaped part by part if no mark stands behind a backslash where it is parted. -/
theorem unescape_append {s t : Text} (h : s.getLast? ≠ some '\\' ∨ t.head? ≠ some mark) :
    unescape mark (s ++ t) = unescape mark s ++ unescape mark t := by
  induction s using unescape.induct mark with
  | case1 => rfl
  | case2 c =>
    have hplain : ¬ (c = '\\' ∧ t.head? = some mark) := by simpa using not_and_or.mpr h
    rw [List.singleton_append, unescape_cons, if_neg hplain]
    rfl
  | case3 c d s hescape ih =>
    have hs : s.getLast? ≠ some '\\' ∨ t.head? ≠ some mark := by
      refine h.imp_left fun hlast hinside => hlast ?_
      rw [List.getLast?_cons, List.getLast?_cons, hinside]
      rfl
    rw [List.cons_append, List.cons_append, unescape, if_pos hescape, unescape, if_pos hescape,
      ih hs, List.cons_append]
  | case4 c d s hplain ih =>
    rw [List.getLast?_cons_cons] at h
    rw [List.cons_append, List.cons_append, unescape, if_neg hplain, unescape, if_neg hplain,
      List.cons_append, ← ih h, List.cons_append]

theorem unescape_of_not_mem {t : Text} (h : '\\' ∉ t) : unescape mark t = t := by
  induction t with
  | nil => rfl
  | cons c t ih =>
    obtain ⟨hc, ht⟩ := not_or.mp (mt List.mem_cons.mpr h)
    rw [unescape_cons, if_neg fun hescape => hc hescape.1.symm, ih ht]

end

end Text

namespace Directive

open Text

def guarded (mark : Char) (t : Text) : Text := replaceChar mark ['\\', mark] t

def escaped (t : Text) : Text := t.flatMap fun c => if c = '#' ∨ c = ':' then ['\\', c] else [c]

def instructionLine (name argument : Text) : Text := name ++ ": ".toList ++ escaped argument

section

variable {mark : Char}

theorem guarded_append (s t : Text) : guarded mark (s ++ t) = guarded mark s ++ guarded mark t :=
  replaceChar_append mark _ s t

theorem guarded_cons_mark (t : Text) :
    guarded mark (mark :: t) = '\\' :: mark :: guarded mark t := by
  rw [guarded, replaceChar, if_pos rfl]
  rfl

theorem guarded_cons_of_ne {c : Char} (hc : c ≠ mark) (t : Text) :
    guarded mark (c :: t) = c :: guarded mark t := by
  rw [guarded, replaceChar, if_neg hc]
  rfl

theorem guarded_of_not_mem {t : Text} (h : mark ∉ t) : guarded mark t = t :=
  replaceChar_of_not_mem h _

theorem unescape_cons_of_head? {t : Text} (h : t.head? ≠ some mark) (c : Char) :
    unescape mark (c :: t) = c :: unescape mark t := by
  rw [unescape_cons, if_neg fun hescape => h hescape.2]

variable (hmark : mark ≠ '\\')

include hmark

theorem head?_guarded_ne (t : Text) : (guarded mark t).head? ≠ some mark := by
  cases t with
  | nil => exact Option.some_ne_none mark ∘ Eq.symm
  | cons c t =>
    by_cases hc : c = mark
    · rw [hc, guarded_cons_mark]
      simpa using hmark.symm
    · rw [guarded_cons_of_ne hc]
      simpa using hc

theorem unescape_guarded (t : Text) : unescape mark (guarded mark t) = t := by
  induction t with
  | nil => rfl
  | cons c t ih =>
    by_cases hc : c = mark
    · rw [hc, guarded_cons_mark, unescape, if_pos ⟨rfl, rfl⟩, ih]
    · rw [guarded_cons_of_ne hc, unescape_cons_of_head? (head?_guarded_ne hmark t), ih]

/-- No mark of a guarded text is live. -/
theorem cutLive?_guarded {guards : List Char} (hguards : '\\' ∈ guards) (live : Bool) (t : Text) :
    cutLive? mark guards live (guarded mark t) = none := by
  induction t generalizing live with
  | nil => rfl
  | cons c t ih =>
    by_cases hc : c = mark
    · have hfree : ¬ (mark = mark ∧ guards.contains '\\' = false) := by simpa using hguards
      rw [hc, guarded_cons_mark, cutLive?, if_neg fun hboth => hmark hboth.1.symm, cutLive?,
        if_neg hfree, ih]
      rfl
    · rw [guarded_cons_of_ne hc, cutLive?, if_neg fun hboth => hc hboth.1, ih]
      rfl

end

theorem uncommented_guarded (t : Text) : uncommented (guarded '#' t) = t := by
  rw [uncommented, cutLive?_guarded (by decide) (by decide)]
  exact unescape_guarded (by decide) t

theorem getLast?_guarded (mark : Char) (t : Text) : (guarded mark t).getLast? = t.getLast? := by
  rcases List.eq_nil_or_concat t with rfl | ⟨t, c, rfl⟩
  · rfl
  · rw [List.concat_eq_append, guarded_append]
    by_cases hc : c = mark
    · rw [hc, guarded_cons_mark]
      simp [guarded, replaceChar]
    · rw [guarded_cons_of_ne hc]
      simp [guarded, replaceChar]

theorem trimmed_guarded {mark : Char} {t : Text} (h : Trimmed t) : Trimmed (guarded mark t) where
  first := by
    intro c hc
    cases t with
    | nil => exact absurd hc (by simp [guarded, replaceChar])
    | cons d t =>
      by_cases hd : d = mark
      · rw [hd, guarded_cons_mark] at hc
        obtain rfl : '\\' = c := by simpa using hc
        rfl
      · rw [guarded_cons_of_ne hd] at hc
        exact h.first c hc
  last := by
    intro c hc
    rw [getLast?_guarded] at hc
    exact h.last c hc

theorem trim_guarded {mark : Char} (hmark : isBlank mark = false) (t : Text) :
    trim (guarded mark t) = guarded mark (trim t) := by
  have hsame : ∀ {blanks : Text}, Blanks blanks → guarded mark blanks = blanks := fun hblanks =>
    guarded_of_not_mem (hblanks.not_mem hmark)
  obtain ⟨pre, post, hpre, hpost, ht⟩ := exists_trim t
  conv_lhs => rw [ht, guarded_append, guarded_append, hsame hpre, hsame hpost]
  exact trim_of_split hpre (trimmed_guarded (trimmed_trim t)) hpost

/-- The marks are guarded one after the other, the colons first. -/
theorem escaped_eq (t : Text) : escaped t = guarded '#' (guarded ':' t) := by
  induction t with
  | nil => rfl
  | cons c t ih =>
    rw [escaped, List.flatMap_cons, ← escaped, ih]
    by_cases hhash : c = '#'
    · subst hhash
      rw [if_pos (Or.inl rfl), guarded_cons_of_ne (by decide), guarded_cons_mark]
      rfl
    · by_cases hcolon : c = ':'
      · subst hcolon
        rw [if_pos (Or.inr rfl), guarded_cons_mark, guarded_cons_of_ne (by decide),
          guarded_cons_of_ne (by decide)]
        rfl
      · rw [if_neg (by tauto), guarded_cons_of_ne hcolon, guarded_cons_of_ne hhash]
        rfl

theorem cutLive?_colon {name : Text} (hcolon : ':' ∉ name) (hslash : '\\' ∉ name) (rest : Text) :
    cutLive? ':' ['\\'] false (name ++ ':' :: rest) = some (name, rest) := by
  induction name with
  | nil => rfl
  | cons c name ih =>
    obtain ⟨hc, hcolon⟩ := not_or.mp (mt List.mem_cons.mpr hcolon)
    obtain ⟨hd, hslash⟩ := not_or.mp (mt List.mem_cons.mpr hslash)
    have hfree : ['\\'].contains c = false := by simpa using Ne.symm hd
    rw [List.cons_append, cutLive?, if_neg fun hboth => hc hboth.1.symm, hfree, ih hcolon hslash]
    rfl

structure PlainName (name : Text) : Prop where
  hash : '#' ∉ name
  colon : ':' ∉ name
  slash : '\\' ∉ name
  unblank : ∀ c ∈ name, isBlank c = false
  lowercase : lowercase name = name

/-- What a line says of an escaped argument is the argument without the blanks around it. -/
theorem instructionText?_instructionLine {name : Text} (plain : PlainName name) (argument : Text) :
    instructionText? (instructionLine name argument) = some (name, trim argument) := by
  -- The whole line is guarded against a comment, the argument alone against another colon.
  have hline : instructionLine name argument =
      guarded '#' (name ++ [':'] ++ ' ' :: guarded ':' argument) := by
    rw [instructionLine, escaped_eq, List.append_assoc, List.append_assoc, guarded_append,
      guarded_of_not_mem plain.hash, List.singleton_append, guarded_cons_of_ne (by decide),
      guarded_cons_of_ne (by decide)]
    rfl
  have hname : Trimmed (name ++ [':']) := by
    refine trimmed_of_forall fun c hc => ?_
    rcases List.mem_append.mp hc with hc | hc
    · exact plain.unblank c hc
    · rw [List.mem_singleton.mp hc]
      rfl
  have hargument :
      unescape ':' (trim (trimRight (' ' :: guarded ':' argument))) = trim argument := by
    rw [trim_trimRight, trim_cons_of_isBlank (by decide), trim_guarded (by decide),
      unescape_guarded (by decide)]
  rw [instructionText?, hline, uncommented_guarded, trim_append hname (by simp), nameAndArgument?,
    List.append_assoc, List.singleton_append, cutLive?_colon plain.colon plain.slash]
  simp only [Option.map_some, trim_of_trimmed (trimmed_of_forall plain.unblank), plain.lowercase,
    hargument]

theorem plainName_of_mem_aliases {name : Text} {instruction : Instruction}
    (h : (name, instruction) ∈ Instruction.aliases) : PlainName name := by
  have hsmall : ∀ entry ∈ Instruction.aliases,
      entry.1.all fun c => decide (0x61 ≤ c.toNat ∧ c.toNat ≤ 0x7A) := by
    decide
  have hletters : ∀ c ∈ name, 0x61 ≤ c.toNat ∧ c.toNat ≤ 0x7A := fun c hc =>
    of_decide_eq_true (List.all_eq_true.mp (hsmall _ h) c hc)
  have hother : ∀ mark : Char, mark.toNat < 0x61 ∨ 0x7A < mark.toNat → mark ∉ name := by
    intro mark hmark hmem
    have := hletters mark hmem
    omega
  have hunblank : ∀ c ∈ name, isBlank c = false := by
    intro c hc
    have := hletters c hc
    simp only [isBlank, CharRanges.has, blankRanges, List.any_cons, List.any_nil, Bool.or_false,
      Bool.or_eq_false_iff, Bool.and_eq_false_iff, decide_eq_false_iff_not]
    omega
  exact
    { hash := hother '#' (by decide)
      colon := hother ':' (by decide)
      slash := hother '\\' (by decide)
      unblank := hunblank
      lowercase := lowercase_eq_self_iff.mpr fun c hc =>
        kept_of_small_letter (hletters c hc).1 (hletters c hc).2 }

theorem ofName?_of_mem_aliases {name : Text} {instruction : Instruction}
    (h : (name, instruction) ∈ Instruction.aliases) :
    Instruction.ofName? name = some instruction := by
  have hall : ∀ entry ∈ Instruction.aliases, Instruction.ofName? entry.1 = some entry.2 := by
    decide +kernel
  exact hall _ h

/-- A line with any spelling of an instruction gives it the trimmed argument. -/
theorem ofLine?_instructionLine (settings : DirectiveSettings) {name : Text}
    {instruction : Instruction} (h : (name, instruction) ∈ Instruction.aliases) (argument : Text) :
    Clause.ofLine? settings (instructionLine name argument) =
      some (Clause.ofInstruction settings (trim argument) instruction) := by
  rw [Clause.ofLine?, instructionText?_instructionLine (plainName_of_mem_aliases h)]
  simp only [Option.map_some, ofName?_of_mem_aliases h]

end Directive

end WikiPivot
