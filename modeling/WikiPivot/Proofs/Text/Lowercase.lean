import WikiPivot.Settings

/-! # Texts that lowercasing keeps

A text is kept if each of its characters is. What is neither letter nor number is always kept, so a
descending marker does not change with the key behind it. Lowercasing leaves only such characters:
no letter that it brings in is mapped itself, and none is a blank or a comma.
-/
namespace WikiPivot.Text

def Kept (c : Char) : Prop := c ≠ capitalSigma ∧ lowerChar c = [c]

theorem length_lowerChar_pos (c : Char) : 0 < (lowerChar c).length := by
  unfold lowerChar
  split <;> simp

theorem length_le_length_lowercaseAfter (before t : Text) :
    t.length ≤ (lowercaseAfter before t).length := by
  induction t generalizing before with
  | nil => exact Nat.zero_le _
  | cons c t ih =>
    have hc := length_lowerChar_pos c
    have ht := ih (c :: before)
    rw [lowercaseAfter, List.length_append, List.length_cons]
    split
    · rw [List.length_singleton]
      omega
    · omega

theorem lowerSigma_ne (before after : Text) : lowerSigma before after ≠ capitalSigma := by
  unfold lowerSigma
  split <;> decide

/-- No character is dropped, so a text that comes back keeps each character in its place. -/
theorem kept_of_lowercaseAfter {before t : Text} (h : lowercaseAfter before t = t) :
    ∀ c ∈ t, Kept c := by
  induction t generalizing before with
  | nil => exact fun _ hc => absurd hc List.not_mem_nil
  | cons c t ih =>
    have hlength := length_le_length_lowercaseAfter (c :: before) t
    rw [lowercaseAfter] at h
    by_cases hsigma : c = capitalSigma
    · rw [if_pos hsigma, List.singleton_append] at h
      have hsame : lowerSigma before t = c := (List.cons.inj h).1
      exact absurd (hsame.trans hsigma) (lowerSigma_ne before t)
    · rw [if_neg hsigma] at h
      -- No character lowercases to nothing, so none in a text of the same length grows.
      have htotal := congrArg List.length h
      rw [List.length_append, List.length_cons] at htotal
      have hone : (lowerChar c).length = 1 := by
        have := length_lowerChar_pos c
        omega
      obtain ⟨d, hd⟩ := List.length_eq_one_iff.mp hone
      rw [hd, List.singleton_append] at h
      obtain ⟨rfl, hrest⟩ := List.cons.inj h
      exact List.forall_mem_cons.mpr ⟨⟨hsigma, hd⟩, ih hrest⟩

theorem lowercaseAfter_of_kept {t : Text} (h : ∀ c ∈ t, Kept c) (before : Text) :
    lowercaseAfter before t = t := by
  induction t generalizing before with
  | nil => rfl
  | cons c t ih =>
    obtain ⟨hc, ht⟩ := List.forall_mem_cons.mp h
    rw [lowercaseAfter, if_neg hc.1, hc.2, ih ht, List.singleton_append]

theorem lowercase_eq_self_iff {t : Text} : lowercase t = t ↔ ∀ c ∈ t, Kept c :=
  ⟨kept_of_lowercaseAfter, fun h => lowercaseAfter_of_kept h []⟩

theorem mem_lowercaseAfter_of_kept {before t : Text} {c : Char} (hkept : Kept c) (h : c ∈ t) :
    c ∈ lowercaseAfter before t := by
  induction t generalizing before with
  | nil => exact absurd h List.not_mem_nil
  | cons d t ih =>
    rw [lowercaseAfter, List.mem_append]
    rcases List.mem_cons.mp h with rfl | h
    · rw [if_neg hkept.1, hkept.2]
      exact Or.inl List.mem_cons_self
    · exact Or.inr (ih h)

def CaseRun.codes (run : CaseRun) : List Nat :=
  (List.range ((run.last - run.first) / run.step + 1)).map (run.first + run.step * ·)

theorem CaseRun.mem_codes {run : CaseRun} {code target : Nat} (h : run.lower? code = some target) :
    code ∈ run.codes := by
  rw [lower?, Option.ite_none_right_eq_some] at h
  obtain ⟨⟨hfirst, hlast, hstep⟩, -⟩ := h
  refine List.mem_map.mpr ⟨(code - run.first) / run.step, ?_, ?_⟩
  · have hle : (code - run.first) / run.step ≤ (run.last - run.first) / run.step :=
      Nat.div_le_div_right (by omega)
    exact List.mem_range.mpr (by omega)
  · rw [Nat.mul_div_cancel' (Nat.dvd_of_mod_eq_zero hstep)]
    omega

def covers : CharRanges → List Nat → Bool
  | _, [] => true
  | ranges, code :: codes =>
    let later := ranges.dropWhile (·.2 < code)
    later.head?.any (·.1 ≤ code) && covers later codes

theorem any_of_covers {ranges : CharRanges} {codes : List Nat} (h : covers ranges codes = true) :
    ∀ code ∈ codes, ranges.any (fun (first, last) => first ≤ code && code ≤ last) = true := by
  induction codes generalizing ranges with
  | nil => exact fun _ hc => absurd hc List.not_mem_nil
  | cons code codes ih =>
    simp only [covers, Bool.and_eq_true, Option.any_eq_true] at h
    obtain ⟨⟨range, hrange, hfirst⟩, hlater⟩ := h
    have hsub : ∀ {range}, range ∈ ranges.dropWhile (·.2 < code) → range ∈ ranges :=
      fun hmem => (List.dropWhile_sublist _).mem hmem
    refine List.forall_mem_cons.mpr ⟨?_, ?_⟩
    · have hlast : ¬ range.2 < code := by
        have hnot := List.head?_dropWhile_not (fun range => decide (range.2 < code)) ranges
        rw [hrange] at hnot
        simpa using hnot
      refine List.any_eq_true.mpr ⟨range, hsub (List.mem_of_mem_head? hrange), ?_⟩
      simp only [Bool.and_eq_true, decide_eq_true_eq] at hfirst ⊢
      omega
    · intro d hd
      obtain ⟨range, hrange, hholds⟩ := List.any_eq_true.mp (ih hlater d hd)
      exact List.any_eq_true.mpr ⟨range, hsub hrange, hholds⟩

/-- Every letter that lowercasing changes is alphanumeric. -/
theorem covers_caseRuns : covers alphanumericRanges (caseRuns.flatMap CaseRun.codes) = true := by
  decide +kernel

theorem kept_of_no_run {c : Char} (hsigma : c ≠ capitalSigma) (hdotted : c ≠ 'İ')
    (h : ∀ run ∈ caseRuns, run.lower? c.toNat = none) : Kept c := by
  have hnone : caseRuns.findSome? (·.lower? c.toNat) = none := List.findSome?_eq_none_iff.mpr h
  refine ⟨hsigma, ?_⟩
  rw [lowerChar, if_neg hdotted, hnone]

theorem kept_of_not_alphanumeric {c : Char} (h : isAlphanumeric c = false) : Kept c := by
  have hother : ∀ {d : Char}, isAlphanumeric d = true → c ≠ d := by
    rintro d hd rfl
    rw [h] at hd
    exact absurd hd (by decide)
  refine kept_of_no_run (hother (by decide +kernel)) (hother (by decide +kernel)) ?_
  intro run hrun
  rw [Option.eq_none_iff_forall_ne_some]
  intro target htarget
  have hletter : isAlphanumeric c = true :=
    any_of_covers covers_caseRuns c.toNat
      (List.mem_flatMap.mpr ⟨run, hrun, CaseRun.mem_codes htarget⟩)
  rw [h] at hletter
  exact absurd hletter (by decide)

theorem kept_of_small_letter {c : Char} (hfirst : 0x61 ≤ c.toNat) (hlast : c.toNat ≤ 0x7A) :
    Kept c := by
  have hruns : ∀ run ∈ caseRuns, run.last < 0x61 ∨ 0x7A < run.first := by decide +kernel
  refine kept_of_no_run ?_ ?_ ?_
  · rintro rfl
    exact absurd hlast (by decide)
  · rintro rfl
    exact absurd hlast (by decide)
  · intro run hrun
    have hapart := hruns run hrun
    rw [CaseRun.lower?, if_neg]
    omega

def CaseRun.clears (run : CaseRun) (first last : Nat) : Bool :=
  Nat.blt last run.target || Nat.blt (run.target + (run.last - run.first)) first

/-- No letter that a run maps to is mapped by the other: they lie apart, or they interleave. -/
def CaseRun.misses (run other : CaseRun) : Bool :=
  run.clears other.first other.last ||
    ((run.step % other.step == 0 || run.first == run.last) &&
      run.target % other.step != other.first % other.step)

theorem CaseRun.lower?_eq_some_iff {run : CaseRun} {code target : Nat} :
    run.lower? code = some target ↔
      (run.first ≤ code ∧ code ≤ run.last ∧ (code - run.first) % run.step = 0) ∧
        run.target + (code - run.first) = target := by
  rw [lower?, Option.ite_none_right_eq_some, Option.some.injEq]

theorem CaseRun.not_within_of_clears {run : CaseRun} {first last code target : Nat}
    (hclears : run.clears first last = true) (h : run.lower? code = some target) :
    ¬ (first ≤ target ∧ target ≤ last) := by
  obtain ⟨⟨hfirst, hlast, -⟩, rfl⟩ := lower?_eq_some_iff.mp h
  simp only [clears, Bool.or_eq_true, Nat.blt_eq] at hclears
  omega

theorem CaseRun.lower?_of_misses {run other : CaseRun} {code target : Nat}
    (hmisses : run.misses other = true) (h : run.lower? code = some target) :
    other.lower? target = none := by
  rw [lower?, if_neg]
  rintro ⟨hfirst, hlast, hstep⟩
  simp only [misses, Bool.or_eq_true, Bool.and_eq_true, beq_iff_eq, bne_iff_ne] at hmisses
  rcases hmisses with hclears | ⟨hevenly, hapart⟩
  · exact not_within_of_clears hclears h ⟨hfirst, hlast⟩
  · obtain ⟨⟨hafter, hbefore, hrun⟩, rfl⟩ := lower?_eq_some_iff.mp h
    -- The targets of the run leave one remainder by the other's step, its own codes another.
    have hdvd : other.step ∣ code - run.first := by
      rcases hevenly with hevenly | hsingle
      · exact Nat.dvd_trans (Nat.dvd_of_mod_eq_zero hevenly) (Nat.dvd_of_mod_eq_zero hrun)
      · have hzero : code - run.first = 0 := by omega
        rw [hzero]
        exact Nat.dvd_zero _
    obtain ⟨i, hi⟩ := hdvd
    obtain ⟨j, hj⟩ := Nat.dvd_of_mod_eq_zero hstep
    have hsame : run.target + other.step * i = other.first + other.step * j := by omega
    have hmod := congrArg (· % other.step) hsame
    simp only [Nat.add_mul_mod_self_left] at hmod
    exact hapart hmod

theorem misses_caseRuns : (caseRuns.all fun run => caseRuns.all run.misses) = true := by
  decide +kernel

theorem clears_caseRuns : (caseRuns.all fun run =>
    ((0x2C, 0x2C) :: (0x130, 0x130) :: blankRanges).all fun (first, last) =>
      run.clears first last) = true := by
  decide +kernel

/-- A character that lowercasing brings in: it is kept, and it is neither a blank nor a comma. -/
structure Lowered (c : Char) : Prop where
  kept : Kept c
  unblank : isBlank c = false
  plain : c ≠ ','

def CaseRun.lettered (run : CaseRun) : Bool :=
  Nat.blt 0 run.target &&
    (Nat.blt (run.target + (run.last - run.first)) 0xD800 ||
      Nat.blt 0xDFFF run.target && Nat.blt (run.target + (run.last - run.first)) 0x110000)

theorem lettered_caseRuns : caseRuns.all CaseRun.lettered = true := by
  decide +kernel

theorem toNat_of_lower? {run : CaseRun} (hrun : run ∈ caseRuns) {code target : Nat}
    (h : run.lower? code = some target) : (Char.ofNat target).toNat = target ∧ 0 < target := by
  have hlettered := List.all_eq_true.mp lettered_caseRuns run hrun
  obtain ⟨⟨hfirst, hlast, -⟩, rfl⟩ := CaseRun.lower?_eq_some_iff.mp h
  simp only [CaseRun.lettered, Bool.and_eq_true, Bool.or_eq_true, Nat.blt_eq] at hlettered
  have hvalid : (run.target + (code - run.first)).isValidChar := by
    unfold Nat.isValidChar
    omega
  refine ⟨?_, by omega⟩
  rw [Char.ofNat, dif_pos hvalid]
  rfl

theorem lowered_of_lower? {run : CaseRun} (hrun : run ∈ caseRuns) {code target : Nat}
    (h : run.lower? code = some target) : Lowered (Char.ofNat target) := by
  obtain ⟨hcode, -⟩ := toNat_of_lower? hrun h
  have hoff : ∀ range ∈ (0x2C, 0x2C) :: (0x130, 0x130) :: blankRanges,
      ¬ (range.1 ≤ target ∧ target ≤ range.2) := by
    intro range hrange
    exact CaseRun.not_within_of_clears
      (List.all_eq_true.mp (List.all_eq_true.mp clears_caseRuns run hrun) range hrange) h
  have hnone : ∀ other ∈ caseRuns, other.lower? (Char.ofNat target).toNat = none := by
    intro other hother
    rw [hcode]
    exact CaseRun.lower?_of_misses
      (List.all_eq_true.mp (List.all_eq_true.mp misses_caseRuns run hrun) other hother) h
  refine ⟨kept_of_no_run ?_ ?_ hnone, ?_, ?_⟩
  · -- the capital sigma is mapped by a run of its own
    intro hsigma
    rw [hsigma] at hnone
    exact absurd hnone (by decide +kernel)
  · intro hdotted
    rw [hdotted] at hcode
    exact hoff (0x130, 0x130) (by decide) (by rw [← hcode]; decide)
  · rw [isBlank, CharRanges.has, List.any_eq_false]
    intro range hrange
    have := hoff range (List.mem_cons_of_mem _ (List.mem_cons_of_mem _ hrange))
    simpa [hcode] using this
  · intro hcomma
    rw [hcomma] at hcode
    exact hoff (0x2C, 0x2C) (by decide) (by rw [← hcode]; decide)

/-- What a character is mapped to is NUL for NUL alone. -/
theorem nul_not_mem_lowerChar {c : Char} (hc : c ≠ '\x00') : '\x00' ∉ lowerChar c := by
  unfold lowerChar
  split
  · decide
  · rw [List.mem_singleton]
    cases hrun : caseRuns.findSome? (·.lower? c.toNat) with
    | none => exact Ne.symm hc
    | some target =>
      obtain ⟨run, hmem, hlower⟩ := List.exists_of_findSome?_eq_some hrun
      obtain ⟨hcode, hpositive⟩ := toNat_of_lower? hmem hlower
      intro hnul
      simp only at hnul
      rw [← hnul] at hcode
      exact absurd hcode (Nat.ne_of_lt hpositive)

/-- A character is kept where it stands, or what comes for it is lowered. -/
theorem kept_or_lowered_of_mem_lowerChar {c d : Char} (hc : c ≠ capitalSigma)
    (hd : d ∈ lowerChar c) : Kept d ∧ d = c ∨ Lowered d := by
  unfold lowerChar at hd
  split at hd
  · right
    simp only [List.mem_cons, List.not_mem_nil, or_false] at hd
    rcases hd with rfl | rfl
    · exact ⟨kept_of_small_letter (by decide) (by decide), by decide +kernel, by decide⟩
    · exact ⟨kept_of_not_alphanumeric (by decide +kernel), by decide +kernel, by decide⟩
  · rename_i hdotted
    rw [List.mem_singleton] at hd
    cases hrun : caseRuns.findSome? (·.lower? c.toNat) with
    | none =>
      rw [hrun] at hd
      left
      obtain rfl : d = c := hd
      exact ⟨kept_of_no_run hc hdotted (List.findSome?_eq_none_iff.mp hrun), rfl⟩
    | some target =>
      rw [hrun] at hd
      right
      obtain ⟨run, hmem, hlower⟩ := List.exists_of_findSome?_eq_some hrun
      rw [hd]
      exact lowered_of_lower? hmem hlower

theorem lowered_lowerSigma (before after : Text) : Lowered (lowerSigma before after) := by
  unfold lowerSigma
  split
  · exact ⟨⟨by decide, by decide +kernel⟩, by decide +kernel, by decide⟩
  · exact ⟨⟨by decide, by decide +kernel⟩, by decide +kernel, by decide⟩

/-- Every character comes from one of the text, or it stands for a capital sigma. -/
theorem exists_of_mem_lowercaseAfter {before t : Text} {d : Char}
    (hd : d ∈ lowercaseAfter before t) :
    (∃ c ∈ t, c ≠ capitalSigma ∧ d ∈ lowerChar c) ∨ ∃ front back, d = lowerSigma front back := by
  induction t generalizing before with
  | nil => exact absurd hd List.not_mem_nil
  | cons c t ih =>
    rw [lowercaseAfter] at hd
    rcases List.mem_append.mp hd with hfirst | hrest
    · split at hfirst
      · exact Or.inr ⟨before, t, List.mem_singleton.mp hfirst⟩
      · rename_i hsigma
        exact Or.inl ⟨c, List.mem_cons_self, hsigma, hfirst⟩
    · refine (ih hrest).imp_left ?_
      rintro ⟨e, he, hlower⟩
      exact ⟨e, List.mem_cons_of_mem _ he, hlower⟩

theorem kept_or_lowered_of_mem_lowercaseAfter {before t : Text} {d : Char}
    (hd : d ∈ lowercaseAfter before t) : Kept d ∧ d ∈ t ∨ Lowered d := by
  rcases exists_of_mem_lowercaseAfter hd with ⟨c, hc, hsigma, hlower⟩ | ⟨front, back, rfl⟩
  · rcases kept_or_lowered_of_mem_lowerChar hsigma hlower with ⟨hkept, rfl⟩ | hlowered
    · exact Or.inl ⟨hkept, hc⟩
    · exact Or.inr hlowered
  · exact Or.inr (lowered_lowerSigma front back)

@[simp] theorem lowercase_lowercase (t : Text) : lowercase (lowercase t) = lowercase t := by
  rw [lowercase_eq_self_iff]
  intro c hc
  exact (kept_or_lowered_of_mem_lowercaseAfter hc).elim (·.1) (·.kept)

theorem unblank_lowercase {t : Text} (h : ∀ c ∈ t, isBlank c = false) :
    ∀ c ∈ lowercase t, isBlank c = false := by
  intro c hc
  exact (kept_or_lowered_of_mem_lowercaseAfter hc).elim (fun hkept => h c hkept.2) (·.unblank)

theorem comma_not_mem_lowercase {t : Text} (h : ',' ∉ t) : ',' ∉ lowercase t := by
  intro hc
  exact (kept_or_lowered_of_mem_lowercaseAfter hc).elim (fun hkept => h hkept.2)
    fun hlowered => hlowered.plain rfl

theorem nul_not_mem_lowercase {t : Text} (h : '\x00' ∉ t) : '\x00' ∉ lowercase t := by
  intro hnul
  rcases exists_of_mem_lowercaseAfter hnul with ⟨c, hc, -, hlower⟩ | ⟨front, back, hsigma⟩
  · exact nul_not_mem_lowerChar (ne_of_mem_of_not_mem hc h) hlower
  · unfold lowerSigma at hsigma
    split at hsigma
    · exact absurd hsigma (by decide)
    · exact absurd hsigma (by decide)

end WikiPivot.Text
