import WikiPivot.Proofs.Directive.Accounts
import WikiPivot.Proofs.Directive.ArgumentText

/-! # Spellings of an instruction

An instruction has several names, each of which may be written in capitals and between blanks. Which
of them a line has makes no difference to what is read, not even to the reports.
-/
namespace WikiPivot

open Text

namespace Text

/-- A small letter that no letter outside ASCII lowercases to. The Kelvin sign lowercases to `k`. -/
structure PlainLetter (c : Char) : Prop where
  first : 0x61 ≤ c.toNat
  last : c.toNat ≤ 0x7A
  other : c ≠ 'k'

/-- The capitals of ASCII have one run, and no other run leads to a plain letter. -/
theorem plain_caseRuns : ∀ run ∈ caseRuns, run = ⟨0x41, 0x5A, 1, 0x61⟩ ∨
    run.clears 0x61 0x6A = true ∧ run.clears 0x6C 0x7A = true := by
  decide +kernel

/-- No blank becomes a letter. -/
theorem toLower_of_isBlank {c : Char} (h : isBlank c = true) : c.toLower = c := by
  apply toLower_of_not_capital
  simp only [isBlank, CharRanges.has, blankRanges, List.any_cons, List.any_nil, Bool.or_false,
    Bool.or_eq_true, Bool.and_eq_true, decide_eq_true_eq] at h
  omega

namespace PlainLetter

variable {c d : Char}

theorem kept (h : PlainLetter d) : Kept d := kept_of_small_letter h.first h.last

theorem toLower_eq_of_lowerChar (h : PlainLetter d) (hc : lowerChar c = [d]) : c.toLower = d := by
  rw [lowerChar] at hc
  split at hc
  · exact absurd hc (by simp)
  · have hd := List.singleton_inj.mp hc
    cases hrun : caseRuns.findSome? (·.lower? c.toNat) with
    | none =>
      rw [hrun] at hd
      obtain rfl : c = d := hd
      exact toLower_of_kept h.kept
    | some target =>
      rw [hrun] at hd
      obtain ⟨run, hmem, hlower⟩ := List.exists_of_findSome?_eq_some hrun
      obtain ⟨hcode, -⟩ := toNat_of_lower? hmem hlower
      obtain rfl : Char.ofNat target = d := hd
      rcases plain_caseRuns run hmem with rfl | ⟨hbefore, hbehind⟩
      · obtain ⟨⟨hfirst, hlast, -⟩, htarget⟩ := CaseRun.lower?_eq_some_iff.mp hlower
        obtain ⟨-, hcapital⟩ := lowerChar_capital hfirst hlast
        apply Char.toNat_inj.mp
        simp only at hfirst htarget
        omega
      · have hk : target ≠ 0x6B := by
          rintro rfl
          exact h.other rfl
        have hfirst := h.first
        have hlast := h.last
        have := CaseRun.not_within_of_clears hbefore hlower
        have := CaseRun.not_within_of_clears hbehind hlower
        omega

/-- A plain letter comes from itself and from its capital alone. -/
theorem lowerChar_iff (h : PlainLetter d) :
    c ≠ capitalSigma ∧ lowerChar c = [d] ↔ c.toLower = d := by
  constructor
  · exact fun hc => h.toLower_eq_of_lowerChar hc.2
  · rintro rfl
    by_cases hcapital : 0x41 ≤ c.toNat ∧ c.toNat ≤ 0x5A
    · refine ⟨?_, (lowerChar_capital hcapital.1 hcapital.2).1⟩
      rintro rfl
      exact absurd hcapital.2 (by decide)
    · rw [toLower_of_not_capital hcapital] at h ⊢
      exact h.kept

end PlainLetter

/-- Of plain letters the first comes from the first character, and the others from the rest. -/
theorem lowercaseAfter_cons_eq_cons_iff {before t name : Text} {c d : Char}
    (h : ∀ e ∈ d :: name, PlainLetter e) :
    lowercaseAfter before (c :: t) = d :: name ↔
      c.toLower = d ∧ lowercaseAfter (c :: before) t = name := by
  obtain ⟨hd, hname⟩ := List.forall_mem_cons.mp h
  rw [lowercaseAfter, ← hd.lowerChar_iff]
  by_cases hsigma : c = capitalSigma
  · rw [if_pos hsigma]
    refine iff_of_false ?_ fun hboth => hboth.1.1 hsigma
    intro heq
    obtain ⟨rfl, -⟩ := List.cons.inj heq
    have hlast := hd.last
    unfold lowerSigma at hlast
    split at hlast <;> exact absurd hlast (by decide)
  · rw [if_neg hsigma]
    by_cases hdotted : c = 'İ'
    · -- the dot that comes with the `i` is no letter
      have hchar : lowerChar c = ['i', '\u0307'] := if_pos hdotted
      rw [hchar]
      refine iff_of_false ?_ fun hboth => absurd hboth.1.2 (by simp)
      intro heq
      obtain ⟨-, hrest⟩ := List.cons.inj heq
      have hdot := hname '\u0307' (by rw [← hrest]; exact List.mem_cons_self)
      exact absurd hdot.last (by decide)
    · have hchar : ∃ e, lowerChar c = [e] := ⟨_, if_neg hdotted⟩
      obtain ⟨e, he⟩ := hchar
      rw [he, List.singleton_append, List.cons.injEq, List.singleton_inj]
      exact and_congr_left' (and_iff_right hsigma).symm

/-- Both ways to lowercase lead to the same texts of plain letters. -/
theorem lowercase_eq_iff_asciiLowercase_eq {t name : Text} (h : ∀ c ∈ name, PlainLetter c) :
    lowercase t = name ↔ asciiLowercase t = name := by
  suffices hafter : ∀ before, lowercaseAfter before t = name ↔ asciiLowercase t = name from
    hafter []
  induction t generalizing name with
  | nil => exact fun _ => Iff.rfl
  | cons c t ih =>
    intro before
    cases name with
    | nil =>
      have hlength := length_le_length_lowercaseAfter before (c :: t)
      refine iff_of_false ?_ (List.cons_ne_nil _ _)
      intro hnil
      rw [hnil] at hlength
      exact absurd hlength (by simp)
    | cons d name =>
      rw [lowercaseAfter_cons_eq_cons_iff h, ih (List.forall_mem_cons.mp h).2]
      exact List.cons.injEq _ _ _ _ ▸ Iff.rfl

end Text

namespace Instruction

theorem mem_spellings_iff {instruction : Instruction} {name : Text} :
    name ∈ instruction.spellings ↔ (name, instruction) ∈ aliases := by
  simp [spellings]

theorem plainLetter_of_mem_aliases {name : Text} {instruction : Instruction}
    (h : (name, instruction) ∈ aliases) : ∀ c ∈ name, PlainLetter c := by
  have hall : ∀ entry ∈ aliases, entry.1.all fun c =>
      decide (0x61 ≤ c.toNat ∧ c.toNat ≤ 0x7A ∧ c ≠ 'k') := by decide
  intro c hc
  obtain ⟨hfirst, hlast, hother⟩ := of_decide_eq_true (List.all_eq_true.mp (hall _ h) c hc)
  exact ⟨hfirst, hlast, hother⟩

end Instruction

namespace Directive

def Names (name : Text) (instruction : Instruction) : Prop :=
  ∃ before spelling after, name = before ++ (spelling ++ after) ∧ Blanks before ∧ Blanks after ∧
    asciiLowercase spelling ∈ instruction.spellings

/-- The same line, or one that begins with another name of its instruction. A name has no colon in
it, so the first colon of either line stands behind its name. -/
inductive Respelled : Text → Text → Prop where
  | same {line : Text} : Respelled line line
  | named {name name' text : Text} {instruction : Instruction} : Names name instruction →
      Names name' instruction → Respelled (name ++ ':' :: text) (name' ++ ':' :: text)

theorem trimmed_of_mem_spellings {spelling : Text} {instruction : Instruction}
    (h : asciiLowercase spelling ∈ instruction.spellings) : Trimmed spelling := by
  have plain := plainName_of_mem_aliases (Instruction.mem_spellings_iff.mp h)
  refine trimmed_of_forall fun c hc => Bool.eq_false_iff.mpr fun hblank => ?_
  have hletter := plain.unblank c.toLower (List.mem_map_of_mem hc)
  rw [toLower_of_isBlank hblank, hblank] at hletter
  exact absurd hletter (by decide)

/-- Letters outside ASCII are in no name, although lowercasing maps some of them. -/
theorem spells_iff_names {name : Text} {instruction : Instruction} :
    Spells name instruction ↔ Names name instruction := by
  constructor
  · intro h
    obtain ⟨before, after, hbefore, hafter, hname⟩ := exists_trim name
    have hlower := (lowercase_eq_iff_asciiLowercase_eq
      (Instruction.plainLetter_of_mem_aliases h)).mp rfl
    refine ⟨before, trim name, after, hname, hbefore, hafter, ?_⟩
    rw [hlower]
    exact Instruction.mem_spellings_iff.mpr h
  · rintro ⟨before, spelling, after, rfl, hbefore, hafter, hspelling⟩
    have hmem := Instruction.mem_spellings_iff.mp hspelling
    have hlower := (lowercase_eq_iff_asciiLowercase_eq
      (Instruction.plainLetter_of_mem_aliases hmem)).mpr rfl
    rw [Spells, trim_of_split hbefore (trimmed_of_mem_spellings hspelling) hafter, hlower]
    exact hmem

/-- A comment begins behind a colon or it does not, whatever name stands before the colon. -/
theorem CommentCut.behind_name {text kept name : Text} {instruction : Instruction}
    (h : CommentCut (':' :: text) (':' :: kept)) (spelt : Spells name instruction) :
    CommentCut (name ++ ':' :: text) (name ++ ':' :: kept) where
  free := noneLive_append_iff.mpr ⟨noneLive_of_not_mem (spelt.not_mem (by decide)),
    (noneLive_behind_iff (by decide) (by decide) _ kept).mpr
      ((noneLive_behind_iff (by decide) (by decide) [] kept).mp h.free)⟩
  comment := by
    rcases h.comment with heq | ⟨comment, heq, hlive⟩
    · exact Or.inl (by rw [heq])
    · refine Or.inr ⟨comment, by rw [heq, List.append_assoc], ?_⟩
      rwa [endsGuarded_append name (List.cons_ne_nil _ _)]

/-- What a line carries is in the text behind its colon. -/
theorem exists_carries (text : Text) : ∃ kept, ∀ {name : Text} {instruction : Instruction},
    Spells name instruction → Carries (name ++ ':' :: text) instruction kept := by
  obtain ⟨kept, hkept⟩ := exists_commentCut (':' :: text)
  obtain ⟨kept, rfl⟩ : ∃ kept', kept = ':' :: kept' := by
    rcases hkept.comment with rfl | ⟨comment, heq, -⟩
    · exact ⟨text, rfl⟩
    · cases kept with
      | nil => exact absurd (List.cons.inj heq).1 (by decide)
      | cons c kept =>
        obtain ⟨rfl, -⟩ := List.cons.inj heq
        exact ⟨kept, rfl⟩
  exact ⟨kept, fun spelt => ⟨_, spelt, hkept.behind_name spelt⟩⟩

/-- The instruction that a line gives is named before its first colon. -/
theorem gives_iff_named {line : Text} {instruction : Instruction} :
    (∃ argument, Gives line instruction argument) ↔
      ∃ name text, line = name ++ ':' :: text ∧ Names name instruction := by
  constructor
  · rintro ⟨argument, hgives⟩
    obtain ⟨kept, ⟨name, spelt, hcut⟩, -⟩ := gives_iff_carries.mp hgives
    rcases hcut.comment with rfl | ⟨comment, rfl, -⟩
    · exact ⟨name, kept, rfl, spells_iff_names.mp spelt⟩
    · refine ⟨name, kept ++ '#' :: comment, ?_, spells_iff_names.mp spelt⟩
      rw [List.append_assoc, List.cons_append]
  · rintro ⟨name, text, rfl, hname⟩
    obtain ⟨kept, hcarries⟩ := exists_carries text
    exact ⟨_, gives_iff_carries.mpr ⟨kept, hcarries (spells_iff_names.mpr hname), rfl⟩⟩

theorem Respelled.ofLine?_eq {line line' : Text} (h : Respelled line line')
    (settings : DirectiveSettings) :
    Clause.ofLine? settings line' = Clause.ofLine? settings line := by
  cases h with
  | same => rfl
  | @named name name' text instruction hname hname' =>
    obtain ⟨kept, hcarries⟩ := exists_carries text
    have hgives : ∀ {name}, Names name instruction →
        Gives (name ++ ':' :: text) instruction (argumentOf kept) := fun hname =>
      gives_iff_carries.mpr ⟨kept, hcarries (spells_iff_names.mpr hname), rfl⟩
    rw [ofLine?_of_gives settings (hgives hname), ofLine?_of_gives settings (hgives hname')]

/-- Lines that differ in the names of their instructions are read alike, reports and all. Every line
that gives an instruction is such a line. -/
theorem spellings_are_interchangeable (settings : DirectiveSettings) (classes : Text) :
    (∀ lines lines', List.Forall₂ Respelled lines lines' →
      read settings classes lines' = read settings classes lines) ∧
    ∀ line instruction, (∃ argument, Gives line instruction argument) ↔
      ∃ name text, line = name ++ ':' :: text ∧ Names name instruction := by
  refine ⟨?_, fun line instruction => gives_iff_named⟩
  intro lines lines' h
  have hsame := h.imp fun _ _ hline => hline.ofLine?_eq settings
  rw [read, read, clauses_congr hsame]

/-- A name between blanks, a comment behind the colon, and filters that are reported. -/
theorem respelled_filters_are_reported_alike :
    let lines := ["cols:a#b".toList, "or: = 1".toList, "filter: x\\#: # y".toList, "k: 1".toList]
    let lines' := [" SELECT\t:a#b".toList, "FilterOR: = 1".toList, "And: x\\#: # y".toList,
      "k: 1".toList]
    List.Forall₂ Respelled lines lines' ∧
      read {} [] lines' = read {} [] lines ∧
      (read {} [] lines).diagnostics = [.malformedFilter 2 "= 1".toList .missingKey,
        .malformedFilter 3 "x#:".toList .missingComparator, .unknownOption 4 ['k']] := by
  intro lines lines'
  have hrespelled : List.Forall₂ Respelled lines lines' := by
    have respelled : ∀ {instruction} name name' text, Spells name instruction →
        Spells name' instruction → Respelled (name ++ ':' :: text) (name' ++ ':' :: text) :=
      fun _ _ _ spelt spelt' => .named (spells_iff_names.mp spelt) (spells_iff_names.mp spelt')
    have hselect := @respelled .select "cols".toList " SELECT\t".toList "a#b".toList
      (by decide +kernel) (by decide +kernel)
    have hor := @respelled (.filter .or) "or".toList "FilterOR".toList " = 1".toList
      (by decide +kernel) (by decide +kernel)
    have hand := @respelled (.filter .and) "filter".toList "And".toList " x\\#: # y".toList
      (by decide +kernel) (by decide +kernel)
    exact .cons hselect (.cons hor (.cons hand (.cons .same .nil)))
  obtain ⟨hsame, -⟩ := spellings_are_interchangeable {} []
  exact ⟨hrespelled, hsame lines lines' hrespelled, by decide +kernel⟩

end Directive

end WikiPivot
