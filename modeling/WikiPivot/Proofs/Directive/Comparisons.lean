import WikiPivot.Proofs.Directive.Clauses

/-! # Where a comparison is cut

An argument is cut at the leftmost place where a spelling of a comparator begins, and of the
spellings that begin there the longest one is taken.
-/
namespace WikiPivot

open Text

/-- The argument is cut at the leftmost spelling, which is the longest one there. -/
structure LeftmostCut (argument : Text) (cut : Comparison) : Prop where
  text : argument = cut.left ++ (cut.token ++ cut.right)
  spelt : cut.token ∈ Comparator.spellings.map Prod.fst
  longest : ∀ token ∈ Comparator.spellings.map Prod.fst, token <+: cut.token ++ cut.right →
    token.length ≤ cut.token.length
  leftmost : ∀ earlier later, cut.left = earlier ++ later → later ≠ [] →
    ∀ token ∈ Comparator.spellings.map Prod.fst, ¬ token <+: later ++ (cut.token ++ cut.right)

namespace Comparator

/-- No spelling stands in the table before one that it begins. -/
theorem pairwise_spellings :
    (spellings.map Prod.fst).Pairwise fun token later => ¬ token <+: later := by
  decide

theorem ne_nil_of_mem_spellings {token : Text} (h : token ∈ spellings.map Prod.fst) :
    token ≠ [] := by
  obtain ⟨entry, hentry, rfl⟩ := List.mem_map.mp h
  exact (mem_spellings_shape hentry).1

theorem spellingAt?_eq_none_iff {t : Text} :
    spellingAt? t = none ↔ ∀ token ∈ spellings.map Prod.fst, ¬ token <+: t := by
  simp [spellingAt?, List.find?_eq_none]

/-- The longest spelling is found. -/
theorem spellingAt?_eq_some_iff {t token : Text} :
    spellingAt? t = some token ↔ token ∈ spellings.map Prod.fst ∧ token <+: t ∧
      ∀ other ∈ spellings.map Prod.fst, other <+: t → other.length ≤ token.length := by
  have hsound : ∀ {token}, spellingAt? t = some token → token ∈ spellings.map Prod.fst ∧
      token <+: t ∧ ∀ other ∈ spellings.map Prod.fst, other <+: t →
        other.length ≤ token.length := by
    intro token h
    obtain ⟨hstart, before, after, htable, hbefore⟩ := List.find?_eq_some_iff_append.mp h
    have htoken : token <+: t := List.isPrefixOf_iff_prefix.mp hstart
    refine ⟨by rw [htable]; simp, htoken, ?_⟩
    intro other hother hstart'
    by_contra hlonger
    -- a longer spelling begins with the one that was found, so it stands before it in the table
    have hbegins : token <+: other :=
      List.prefix_of_prefix_length_le htoken hstart' (by omega)
    have hpairs := pairwise_spellings
    rw [htable] at hother hpairs
    rcases List.mem_append.mp hother with hfront | hbehind
    · have hnot := hbefore other hfront
      rw [List.isPrefixOf_iff_prefix.mpr hstart'] at hnot
      exact absurd hnot (by decide)
    · rcases List.mem_cons.mp hbehind with rfl | hafter
      · exact hlonger le_rfl
      · have hcons := (List.pairwise_append.mp hpairs).2.1
        exact (List.pairwise_cons.mp hcons).1 other hafter hbegins
  refine ⟨hsound, ?_⟩
  rintro ⟨hspelt, hstart, hlongest⟩
  cases hfound : spellingAt? t with
  | none => exact absurd hstart (spellingAt?_eq_none_iff.mp hfound token hspelt)
  | some found =>
    obtain ⟨hspelt', hstart', hlongest'⟩ := hsound hfound
    have hlength : token.length = found.length :=
      Nat.le_antisymm (hlongest' token hspelt hstart) (hlongest found hspelt' hstart')
    have hbegins : token <+: found :=
      List.prefix_of_prefix_length_le hstart hstart' hlength.le
    rw [hbegins.eq_of_length hlength]

end Comparator

namespace Comparison

theorem split?_eq_none_iff {t : Text} :
    split? t = none ↔ ∀ token ∈ Comparator.spellings.map Prod.fst, ¬ token <:+: t := by
  induction t with
  | nil =>
    refine iff_of_true rfl ?_
    intro token htoken hinfix
    exact Comparator.ne_nil_of_mem_spellings htoken (List.infix_nil.mp hinfix)
  | cons c rest ih =>
    rw [split?]
    cases hspelling : Comparator.spellingAt? (c :: rest) with
    | some found =>
      obtain ⟨hspelt, hstart, -⟩ := Comparator.spellingAt?_eq_some_iff.mp hspelling
      refine iff_of_false (by simp) ?_
      exact fun hnone => hnone found hspelt hstart.isInfix
    | none =>
      have hhere := Comparator.spellingAt?_eq_none_iff.mp hspelling
      simp only [Option.map_eq_none_iff, ih, List.infix_cons_iff, not_or]
      exact forall₂_congr fun token htoken => (and_iff_right (hhere token htoken)).symm

theorem leftmostCut_of_split? {t : Text} {cut : Comparison} (h : split? t = some cut) :
    LeftmostCut t cut := by
  induction t generalizing cut with
  | nil => exact absurd h (by simp [split?])
  | cons c rest ih =>
    rw [split?] at h
    cases hspelling : Comparator.spellingAt? (c :: rest) with
    | some token =>
      obtain ⟨hspelt, hstart, hlongest⟩ := Comparator.spellingAt?_eq_some_iff.mp hspelling
      rw [hspelling] at h
      obtain rfl := Option.some.inj h
      have htext : c :: rest = token ++ (c :: rest).drop token.length :=
        List.prefix_iff_eq_append.mp hstart |>.symm
      refine ⟨htext, hspelt, ?_, ?_⟩
      · rw [← htext]
        exact hlongest
      · intro earlier later hnil hlater
        exact absurd (List.append_eq_nil_iff.mp hnil.symm).2 hlater
    | none =>
      rw [hspelling, Option.map_eq_some_iff] at h
      obtain ⟨cut, hcut, rfl⟩ := h
      have inner := ih hcut
      refine ⟨congrArg (c :: ·) inner.text, inner.spelt, inner.longest, ?_⟩
      intro earlier later hleft hlater
      cases earlier with
      | nil =>
        obtain rfl : c :: cut.left = later := hleft
        rw [List.cons_append, ← inner.text]
        exact Comparator.spellingAt?_eq_none_iff.mp hspelling
      | cons d earlier =>
        obtain ⟨-, hleft⟩ := List.cons.inj hleft
        exact inner.leftmost earlier later hleft hlater

/-- There is one leftmost cut. -/
theorem split?_of_leftmostCut {t : Text} {cut : Comparison} (h : LeftmostCut t cut) :
    split? t = some cut := by
  obtain ⟨left, token, right⟩ := cut
  obtain ⟨rfl, hspelt, hlongest, hleftmost⟩ := h
  simp only at hspelt hlongest hleftmost ⊢
  induction left with
  | nil =>
    have hhere : Comparator.spellingAt? (token ++ right) = some token :=
      Comparator.spellingAt?_eq_some_iff.mpr ⟨hspelt, List.prefix_append _ _, hlongest⟩
    obtain ⟨c, more, rfl⟩ :=
      List.exists_cons_of_ne_nil (Comparator.ne_nil_of_mem_spellings hspelt)
    rw [List.nil_append, List.cons_append] at *
    rw [split?, hhere]
    simp
  | cons c left ih =>
    have hhere : Comparator.spellingAt? (c :: left ++ (token ++ right)) = none :=
      Comparator.spellingAt?_eq_none_iff.mpr
        (hleftmost [] (c :: left) rfl (List.cons_ne_nil c left))
    have hlater := ih fun earlier later hleft hne =>
      hleftmost (c :: earlier) later (congrArg (c :: ·) hleft) hne
    rw [List.cons_append] at hhere ⊢
    rw [split?, hhere]
    simp only [hlater, Option.map_some]

theorem split?_eq_some_iff {t : Text} {cut : Comparison} :
    split? t = some cut ↔ LeftmostCut t cut :=
  ⟨leftmostCut_of_split?, split?_of_leftmostCut⟩

end Comparison

theorem LeftmostCut.exists_comparator {argument : Text} {cut : Comparison}
    (h : LeftmostCut argument cut) :
    ∃ comparator, (cut.token, comparator) ∈ Comparator.spellings := by
  obtain ⟨⟨token, comparator⟩, hentry, htoken⟩ := List.mem_map.mp h.spelt
  exact ⟨comparator, htoken ▸ hentry⟩

namespace Directive.Clause

/-- Behind its cut an argument lacks nothing but a column. -/
theorem ofFilter_of_leftmostCut {argument : Text} {cut : Comparison} {comparator : Comparator}
    (leftmost : LeftmostCut argument cut)
    (hentry : (cut.token, comparator) ∈ Comparator.spellings) (sentinel : Text) (logic : Logic) :
    ofFilter sentinel logic argument =
      if (ColumnMention.ofToken sentinel cut.left).key.isEmpty then malformed argument .missingKey
      else filter
        { key := (ColumnMention.ofToken sentinel cut.left).key
          comparator
          value := Literal.ofText (comparator.prepare (trim cut.right))
          logic } := by
  have hcut := Comparison.split?_eq_some_iff.mpr leftmost
  simp only [ofFilter, hcut, Comparator.ofToken?_of_mem hentry]

theorem ofFilter_eq_missingComparator_iff {argument : Text} (sentinel : Text) (logic : Logic) :
    ofFilter sentinel logic argument = malformed argument .missingComparator ↔
      Comparison.split? argument = none := by
  constructor
  · intro h
    rw [Option.eq_none_iff_forall_ne_some]
    intro cut hcut
    have leftmost := Comparison.split?_eq_some_iff.mp hcut
    obtain ⟨comparator, hentry⟩ := leftmost.exists_comparator
    rw [ofFilter_of_leftmostCut leftmost hentry] at h
    split at h
    · exact absurd h (by simp)
    · exact absurd h (by simp)
  · intro hnone
    rw [ofFilter, hnone]

end Directive.Clause

/-- An argument is cut exactly if a spelling stands in it, at the leftmost one and there at the
longest. What is found is always read as a comparator, so an argument is reported to have none only
where no spelling stands in it. -/
theorem Comparison.arguments_are_cut_leftmost_longest (argument : Text) :
    (split? argument = none ↔
      ∀ token ∈ Comparator.spellings.map Prod.fst, ¬ token <:+: argument) ∧
    (∀ cut, split? argument = some cut ↔ LeftmostCut argument cut) ∧
    (∀ cut, split? argument = some cut → ∃ comparator,
      (cut.token, comparator) ∈ Comparator.spellings ∧
        Comparator.ofToken? cut.token = some comparator) ∧
    ∀ sentinel logic, Directive.Clause.ofFilter sentinel logic argument =
      .malformed argument .missingComparator ↔ split? argument = none := by
  refine ⟨split?_eq_none_iff, fun cut => split?_eq_some_iff, ?_,
    Directive.Clause.ofFilter_eq_missingComparator_iff⟩
  intro cut hcut
  obtain ⟨comparator, hentry⟩ := (split?_eq_some_iff.mp hcut).exists_comparator
  exact ⟨comparator, hentry, Comparator.ofToken?_of_mem hentry⟩

/-- A sign that is no spelling goes to the column, and the signs behind the first spelling to the
value. -/
theorem Comparison.signs_behind_the_first_are_value :
    let argument := "größe!<>=~ 3".toList
    let cut : Comparison := ⟨"größe!".toList, "<>".toList, "=~ 3".toList⟩
    split? argument = some cut ∧ LeftmostCut argument cut ∧
      (∃ comparator, (cut.token, comparator) ∈ Comparator.spellings ∧
        Comparator.ofToken? cut.token = some comparator) ∧
      ∀ sentinel logic, Directive.Clause.ofFilter sentinel logic argument ≠
        .malformed argument .missingComparator := by
  intro argument cut
  have hsplit : split? argument = some cut := by decide +kernel
  obtain ⟨-, hcut, htoken, hreport⟩ := arguments_are_cut_leftmost_longest argument
  refine ⟨hsplit, (hcut cut).mp hsplit, htoken cut hsplit, ?_⟩
  intro sentinel logic hmalformed
  rw [(hreport sentinel logic).mp hmalformed] at hsplit
  exact absurd hsplit (by simp)

end WikiPivot
