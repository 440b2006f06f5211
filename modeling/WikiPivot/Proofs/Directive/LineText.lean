import WikiPivot.Proofs.Directive.Escaping

/-! # What a line says, declared

A mark is live unless a guard stands directly before it. The first live hash begins the comment of a
line, and in what is left the first live colon parts the name of an instruction from its argument.
-/
namespace WikiPivot

open Text

namespace Text

theorem lowerChar_capital {c : Char} (hfirst : 0x41 ≤ c.toNat) (hlast : c.toNat ≤ 0x5A) :
    lowerChar c = [c.toLower] ∧ c.toLower.toNat = c.toNat + 0x20 := by
  have hall : ∀ n ∈ List.range 26,
      lowerChar (Char.ofNat (0x41 + n)) = [(Char.ofNat (0x41 + n)).toLower] ∧
        (Char.ofNat (0x41 + n)).toLower.toNat = (Char.ofNat (0x41 + n)).toNat + 0x20 := by
    decide +kernel
  have hletter := hall (c.toNat - 0x41) (List.mem_range.mpr (by omega))
  rwa [Nat.add_sub_cancel' hfirst, Char.ofNat_toNat] at hletter

theorem toLower_of_not_capital {c : Char} (h : ¬ (0x41 ≤ c.toNat ∧ c.toNat ≤ 0x5A)) :
    c.toLower = c := by
  refine dif_neg ?_
  rintro ⟨hfirst, hlast⟩
  exact h ⟨UInt32.le_iff_toNat_le.mp hfirst, UInt32.le_iff_toNat_le.mp hlast⟩

theorem toLower_of_kept {c : Char} (h : Kept c) : c.toLower = c := by
  by_cases hcapital : 0x41 ≤ c.toNat ∧ c.toNat ≤ 0x5A
  · obtain ⟨hlower, -⟩ := lowerChar_capital hcapital.1 hcapital.2
    exact List.singleton_inj.mp (hlower.symm.trans h.2)
  · exact toLower_of_not_capital hcapital

@[simp] theorem asciiLowercase_lowercase (t : Text) :
    asciiLowercase (lowercase t) = lowercase t := by
  have hkept : ∀ c ∈ lowercase t, c.toLower = id c := fun c hc =>
    toLower_of_kept (lowercase_eq_self_iff.mp (lowercase_lowercase t) c hc)
  rw [asciiLowercase, List.map_congr_left hkept, List.map_id]

end Text

namespace Instruction

theorem ofName?_lowercase_eq_some_iff {t : Text} {instruction : Instruction} :
    ofName? (lowercase t) = some instruction ↔ (lowercase t, instruction) ∈ aliases := by
  constructor
  · intro h
    rw [ofName?, asciiLowercase_lowercase] at h
    obtain ⟨before, after, haliases, -⟩ := List.lookup_eq_some_iff.mp h
    rw [haliases]
    simp
  · exact Directive.ofName?_of_mem_aliases

theorem ofName?_lowercase_eq_none_iff {t : Text} :
    ofName? (lowercase t) = none ↔ lowercase t ∉ aliases.map Prod.fst := by
  rw [Option.eq_none_iff_forall_ne_some]
  simp only [ne_eq, ofName?_lowercase_eq_some_iff, List.mem_map, Prod.exists, exists_and_right,
    exists_eq_right, not_exists]

end Instruction

namespace Directive

/-- The text ends with a guard, so that a mark behind it is not live. -/
def endsGuarded (guards : List Char) (before : Text) : Bool := before.getLast?.any guards.contains

def NoneLive (mark : Char) (guards : List Char) (front t : Text) : Prop :=
  ∀ before after, t = before ++ mark :: after → endsGuarded guards (front ++ before) = true

section

variable {mark : Char} {guards : List Char} {front t : Text}

theorem endsGuarded_append_singleton (front : Text) (c : Char) :
    endsGuarded guards (front ++ [c]) = guards.contains c := by
  simp [endsGuarded]

theorem endsGuarded_append (front : Text) (hne : t ≠ []) :
    endsGuarded guards (front ++ t) = endsGuarded guards t := by
  rw [endsGuarded, List.getLast?_append_of_ne_nil _ hne, endsGuarded]

theorem endsGuarded_of_forall (h : ∀ c ∈ t, c ∉ guards) : endsGuarded guards t = false := by
  rw [endsGuarded]
  cases hlast : t.getLast? with
  | none => rfl
  | some c => simpa using h c (List.mem_of_mem_getLast? hlast)

theorem noneLive_nil : NoneLive mark guards front [] := by
  intro before after h
  exact absurd h (by simp)

theorem noneLive_cons_iff {c : Char} :
    NoneLive mark guards front (c :: t) ↔
      (c = mark → endsGuarded guards front = true) ∧ NoneLive mark guards (front ++ [c]) t := by
  constructor
  · intro h
    constructor
    · rintro rfl
      simpa using h [] t rfl
    · rintro before after rfl
      simpa using h (c :: before) after rfl
  · rintro ⟨hfirst, hrest⟩ before after h
    cases before with
    | nil =>
      obtain ⟨hc, -⟩ := List.cons.inj h
      simpa using hfirst hc
    | cons d before =>
      obtain ⟨rfl, hrest'⟩ := List.cons.inj h
      simpa using hrest before after hrest'

theorem cutLive?_eq_none_iff (front : Text) :
    cutLive? mark guards (endsGuarded guards front) t = none ↔ NoneLive mark guards front t := by
  induction t generalizing front with
  | nil => exact iff_of_true rfl noneLive_nil
  | cons c t ih =>
    rw [cutLive?, noneLive_cons_iff, ← ih, endsGuarded_append_singleton]
    by_cases hlive : c = mark ∧ endsGuarded guards front = false
    · rw [if_pos hlive]
      simp [hlive.1, hlive.2]
    · rw [if_neg hlive, Option.map_eq_none_iff]
      have hguarded : c = mark → endsGuarded guards front = true := fun hc =>
        Bool.of_not_eq_false fun hfree => hlive ⟨hc, hfree⟩
      exact (and_iff_right hguarded).symm

/-- A text is cut at its first live mark. -/
theorem cutLive?_eq_some_iff (front : Text) {left right : Text} :
    cutLive? mark guards (endsGuarded guards front) t = some (left, right) ↔
      t = left ++ mark :: right ∧ NoneLive mark guards front left ∧
        endsGuarded guards (front ++ left) = false := by
  induction t generalizing front left right with
  | nil => simp [cutLive?]
  | cons c t ih =>
    rw [cutLive?]
    by_cases hlive : c = mark ∧ endsGuarded guards front = false
    · rw [if_pos hlive, Option.some.injEq, Prod.mk.injEq]
      constructor
      · rintro ⟨rfl, rfl⟩
        exact ⟨by rw [hlive.1, List.nil_append], noneLive_nil, by simpa using hlive.2⟩
      · rintro ⟨htext, hnone, -⟩
        cases left with
        | nil => exact ⟨rfl, (List.cons.inj htext).2⟩
        | cons d left =>
          obtain ⟨rfl, -⟩ := List.cons.inj htext
          have := (noneLive_cons_iff.mp hnone).1 hlive.1
          rw [hlive.2] at this
          exact absurd this (by decide)
    · rw [if_neg hlive, ← endsGuarded_append_singleton front c]
      simp only [Option.map_eq_some_iff, Prod.exists, Prod.mk.injEq, ih]
      constructor
      · rintro ⟨left', right', ⟨rfl, hnone, hfree⟩, rfl, rfl⟩
        refine ⟨rfl, noneLive_cons_iff.mpr ⟨?_, hnone⟩, by simpa using hfree⟩
        exact fun hc => Bool.of_not_eq_false fun h => hlive ⟨hc, h⟩
      · rintro ⟨htext, hnone, hfree⟩
        cases left with
        | nil =>
          obtain ⟨hc, -⟩ := List.cons.inj htext
          exact absurd ⟨hc, by simpa using hfree⟩ hlive
        | cons d left =>
          obtain ⟨rfl, rfl⟩ := List.cons.inj htext
          exact ⟨left, right, ⟨rfl, (noneLive_cons_iff.mp hnone).2, by simpa using hfree⟩, rfl, rfl⟩

end

section

variable {mark : Char} {guards : List Char} {front t : Text}

theorem noneLive_of_not_mem (h : mark ∉ t) : NoneLive mark guards front t := by
  rintro before after rfl
  exact absurd (by simp) h

theorem noneLive_append_iff {s : Text} :
    NoneLive mark guards front (s ++ t) ↔
      NoneLive mark guards front s ∧ NoneLive mark guards (front ++ s) t := by
  induction s generalizing front with
  | nil => simp [noneLive_nil]
  | cons c s ih =>
    rw [List.cons_append, noneLive_cons_iff, noneLive_cons_iff, ih, and_assoc,
      List.append_assoc, List.singleton_append]

/-- Of what stands before a text only the last character counts. -/
theorem noneLive_congr {front' : Text} (h : endsGuarded guards front = endsGuarded guards front') :
    NoneLive mark guards front t ↔ NoneLive mark guards front' t := by
  rw [← cutLive?_eq_none_iff, ← cutLive?_eq_none_iff, h]

variable (hguards : ∀ c ∈ guards, isBlank c = false)

include hguards

theorem endsGuarded_blanks {blanks : Text} (h : Blanks blanks) :
    endsGuarded guards blanks = false :=
  endsGuarded_of_forall fun _ hmem hguard => h.not_mem (hguards _ hguard) hmem

theorem endsGuarded_blanks_append {blanks : Text} (h : Blanks blanks) (t : Text) :
    endsGuarded guards (blanks ++ t) = endsGuarded guards t := by
  cases t with
  | nil =>
    rw [List.append_nil]
    exact endsGuarded_blanks hguards h
  | cons c t => exact endsGuarded_append blanks (List.cons_ne_nil c t)

theorem noneLive_behind_blanks_iff {blanks : Text} (h : Blanks blanks) :
    NoneLive mark guards blanks t ↔ NoneLive mark guards [] t :=
  noneLive_congr (endsGuarded_blanks hguards h)

end

structure CommentCut (line kept : Text) : Prop where
  free : NoneLive '#' ['\\', '&'] [] kept
  comment : line = kept ∨
    ∃ comment, line = kept ++ '#' :: comment ∧ endsGuarded ['\\', '&'] kept = false

/-- Without its comment and the blanks around it, the line is a name and an argument that the first
live colon parts. -/
inductive Says (line : Text) : Text → Text → Prop where
  | mk {kept left right : Text} : CommentCut line kept →
      trim (unescape '#' kept) = left ++ ':' :: right → NoneLive ':' ['\\'] [] left →
      endsGuarded ['\\'] left = false →
      Says line (lowercase (trim left)) (unescape ':' (trim right))

theorem exists_commentCut (line : Text) : ∃ kept, CommentCut line kept := by
  cases hcut : cutLive? '#' ['\\', '&'] false line with
  | none => exact ⟨line, (cutLive?_eq_none_iff []).mp hcut, Or.inl rfl⟩
  | some cut =>
    obtain ⟨kept, comment⟩ := cut
    obtain ⟨rfl, hfree, hlive⟩ := (cutLive?_eq_some_iff []).mp hcut
    exact ⟨kept, hfree, Or.inr ⟨comment, rfl, hlive⟩⟩

theorem CommentCut.uncommented_eq {line kept : Text} (h : CommentCut line kept) :
    uncommented line = unescape '#' kept := by
  rw [uncommented]
  rcases h.comment with rfl | ⟨comment, rfl, hlive⟩
  · have hcut : cutLive? '#' ['\\', '&'] false line = none :=
      (cutLive?_eq_none_iff []).mpr h.free
    rw [hcut]
  · have hcut : cutLive? '#' ['\\', '&'] false (kept ++ '#' :: comment) = some (kept, comment) :=
      (cutLive?_eq_some_iff []).mpr ⟨rfl, h.free, hlive⟩
    rw [hcut]

theorem CommentCut.instructionText?_eq {line kept : Text} (h : CommentCut line kept) :
    instructionText? line = nameAndArgument? (trim (unescape '#' kept)) := by
  rw [instructionText?, h.uncommented_eq]

theorem instructionText?_eq_some_iff {line name argument : Text} :
    instructionText? line = some (name, argument) ↔ Says line name argument := by
  constructor
  · intro h
    obtain ⟨kept, hkept⟩ := exists_commentCut line
    rw [hkept.instructionText?_eq, nameAndArgument?, Option.map_eq_some_iff] at h
    obtain ⟨⟨left, right⟩, hcut, hsame⟩ := h
    obtain ⟨rfl, rfl⟩ := Prod.mk.inj hsame
    obtain ⟨htext, hfree, hlive⟩ := (cutLive?_eq_some_iff []).mp hcut
    exact .mk hkept htext hfree hlive
  · rintro @⟨kept, left, right, hkept, htext, hfree, hlive⟩
    have hcut : cutLive? ':' ['\\'] false (left ++ ':' :: right) = some (left, right) :=
      (cutLive?_eq_some_iff []).mpr ⟨rfl, hfree, hlive⟩
    rw [hkept.instructionText?_eq, nameAndArgument?, htext, hcut, Option.map_some]

theorem Says.exists_lowercase {line name argument : Text} (h : Says line name argument) :
    ∃ t, name = lowercase t := by
  obtain ⟨-, -, -, -⟩ := h
  exact ⟨_, rfl⟩

def Gives (line : Text) (instruction : Instruction) (argument : Text) : Prop :=
  ∃ name, Says line name argument ∧ (name, instruction) ∈ Instruction.aliases

def given? (line : Text) : Option (Instruction × Text) :=
  (instructionText? line).bind fun (name, argument) =>
    (Instruction.ofName? name).map fun instruction => (instruction, argument)

theorem given?_eq_some_iff {line argument : Text} {instruction : Instruction} :
    given? line = some (instruction, argument) ↔ Gives line instruction argument := by
  simp only [given?, Option.bind_eq_some_iff, Option.map_eq_some_iff, Prod.exists, Prod.mk.injEq,
    instructionText?_eq_some_iff]
  constructor
  · rintro ⟨name, argument, hsays, instruction, hname, rfl, rfl⟩
    obtain ⟨t, rfl⟩ := hsays.exists_lowercase
    exact ⟨_, hsays, Instruction.ofName?_lowercase_eq_some_iff.mp hname⟩
  · rintro ⟨name, hsays, hname⟩
    exact ⟨name, argument, hsays, instruction, ofName?_of_mem_aliases hname, rfl, rfl⟩

end Directive

end WikiPivot
