import WikiPivot.Proofs.Document.Lines
import WikiPivot.Proofs.Document.Ranges

/-! # Opening lines that nothing closes

Every opening line is a rule itself, so it closes any opening line before it save the one directly
above. Where one stays open no block follows, and the document may as well end before that line.
-/
namespace WikiPivot

namespace Block

open Text

def OpensInto (t front inner : Text) : Prop :=
  LineStart front ∧ ∃ suffix line, OpeningLine suffix line ∧ t = front ++ (line ++ inner)

theorem OpeningLine.isRule {suffix line : Text} (h : OpeningLine suffix line) :
    List.replicate 4 '-' <+: line := by
  obtain ⟨dashes, spaces, closing, lineEnd, hdashes, -, -, -⟩ := h
  exact (replicate_isPrefix hdashes).trans (List.prefix_append _ _)

/-- Only the first line of a text without rules behind its newlines may be a rule. -/
theorem RuleFree.eq_nil_of_rule {lines rest : Text} (h : RuleFree (lines ++ rest))
    (hstart : LineStart lines) (hrule : List.replicate 4 '-' <+: rest) : lines = [] := by
  refine hstart.resolve_right fun hnewline => ?_
  obtain ⟨before, rfl⟩ := List.getLast?_eq_some_iff.mp hnewline
  exact h before rest (by rw [List.append_assoc, List.singleton_append]) hrule

/-- Behind an open line only the line directly under it can open a block again. -/
theorem OpensInto.eq_or_under {t front inner front' inner' : Text} (opens : OpensInto t front inner)
    (unclosed : RuleFree inner) (later : OpensInto t front' inner')
    (hle : octets front ≤ octets front') :
    (front' = front ∧ inner' = inner) ∨
      ∃ suffix line, OpeningLine suffix line ∧ inner = line ++ inner' := by
  obtain ⟨-, suffix, line, hline, rfl⟩ := opens
  obtain ⟨hstart, suffix', line', hline', htext⟩ := later
  obtain ⟨bare, hbare, rfl⟩ := hline.exists_front
  obtain ⟨skipped, rfl⟩ := prefix_of_octets_le htext hle
  rw [List.append_assoc, List.append_assoc] at htext
  have hrest := List.append_cancel_left htext
  rw [List.singleton_append] at hrest
  by_cases hskipped : skipped = []
  · subst hskipped
    obtain ⟨bare', hbare', rfl⟩ := hline'.exists_front
    rw [List.nil_append, List.append_assoc, List.singleton_append] at hrest
    obtain ⟨-, rfl⟩ := append_mark_inj hbare hbare' hrest
    exact Or.inl ⟨List.append_nil front, rfl⟩
  · obtain ⟨first, between, hfirst, rfl, hbetween⟩ := exists_line hstart.of_append hskipped
    rw [List.append_assoc, List.cons_append] at hrest
    obtain ⟨-, rfl⟩ := append_mark_inj hbare hfirst hrest
    -- behind further lines the later opening line would be a rule that closes the earlier one
    have hrule : List.replicate 4 '-' <+: line' ++ inner' :=
      hline'.isRule.trans (List.prefix_append _ _)
    obtain rfl := unclosed.eq_nil_of_rule hbetween hrule
    exact Or.inr ⟨suffix', line', hline', rfl⟩

theorem OpensInto.ruleFree {t front inner front' inner' : Text} (opens : OpensInto t front inner)
    (unclosed : RuleFree inner) (later : OpensInto t front' inner')
    (hle : octets front ≤ octets front') : RuleFree inner' := by
  rcases opens.eq_or_under unclosed later hle with ⟨-, rfl⟩ | ⟨suffix, line, -, rfl⟩
  · exact unclosed
  · exact unclosed.of_append_right

theorem Starts.append {front here : Text} (h : Starts front here) (more : Text) :
    Starts front (here ++ more) := by
  obtain ⟨hstart, suffix, line, inner, opens, rfl, hrule⟩ := starts_iff.mp h
  refine starts_iff.mpr ⟨hstart, suffix, line, inner ++ more, opens, List.append_assoc _ _ _, ?_⟩
  exact fun hfree => hrule hfree.of_append_left

/-- What stands behind all blocks may be cut off. -/
theorem Scanned.of_append {front rest more : Text} {blocks : List Block}
    (h : Scanned front (rest ++ more) blocks)
    (hstop : ∀ block ∈ blocks, block.stop ≤ octets (front ++ rest)) :
    Scanned front rest blocks := by
  generalize hall : rest ++ more = all at h
  induction h generalizing rest with
  | done hnone =>
    subst hall
    refine .done ?_
    rintro skipped here rfl hstarts
    exact hnone skipped (here ++ more) (List.append_assoc _ _ _) (hstarts.append more)
  | @next front skipped taken after block blocks hnone found later ih =>
    obtain ⟨hblock, hblocks⟩ := List.forall_mem_cons.mp hstop
    -- the block ends in what is kept
    have htexts : skipped ++ taken ++ after = rest ++ more := by rw [hall, List.append_assoc]
    have hends : octets (skipped ++ taken) ≤ octets rest := by
      rw [found.stop_eq.1, List.append_assoc, octets_append, octets_append _ rest] at hblock
      omega
    obtain ⟨kept, rfl⟩ := prefix_of_octets_le htexts hends
    obtain rfl : after = kept ++ more := by
      rw [List.append_assoc, List.append_assoc] at hall
      exact (List.append_cancel_left (List.append_cancel_left hall)).symm
    rw [List.append_assoc]
    refine .next ?_ found.of_append (ih ?_ rfl)
    · intro earlier behind hskipped hbehind hstarts
      refine hnone earlier behind hskipped hbehind ?_
      simpa only [List.append_assoc] using hstarts.append more
    · simpa only [List.append_assoc] using hblocks

theorem find_of_append {t more : Text} (h : ∀ block ∈ find (t ++ more), block.stop ≤ octets t) :
    find (t ++ more) = find t := by
  have hscanned : Scanned [] (t ++ more) (find (t ++ more)) := scanned_scanFrom [] (t ++ more)
  exact (scanFrom_of_scanned (hscanned.of_append h)).symm

/-- Where an opening line stays open no block begins at that line or behind it. No later opening
line is closed either, and there is at most one, directly under it. If the line does not stand in a
block, the blocks are those of the document up to that line. -/
theorem unclosed_opening_line_ends_the_search {t front inner : Text}
    (opens : OpensInto t front inner) (unclosed : RuleFree inner) :
    (∀ block ∈ find t, block.start < octets front) ∧
      (∀ front' inner', OpensInto t front' inner' → octets front ≤ octets front' →
        RuleFree inner' ∧ ((front' = front ∧ inner' = inner) ∨
          ∃ suffix line, OpeningLine suffix line ∧ inner = line ++ inner')) ∧
      ((∀ block ∈ find t, block.start < octets front → block.stop ≤ octets front) →
        find t = find front) := by
  have hbefore : ∀ block ∈ find t, block.start < octets front := by
    intro block hblock
    have hscanned : Scanned [] t (find t) := scanned_scanFrom [] t
    obtain ⟨skipped, taken, after, htext, found⟩ := hscanned.exists_blockAt block hblock
    obtain ⟨hstart, suffix, line, inner', opens', hhere, hrule⟩ :=
      starts_iff.mp ⟨block, after, found⟩
    by_contra hlate
    have hle : octets front ≤ octets skipped := found.start_eq ▸ Nat.not_lt.mp hlate
    have later : OpensInto t skipped inner' :=
      ⟨hstart, suffix, line, opens', htext.trans (congrArg (skipped ++ ·) hhere)⟩
    exact hrule (opens.ruleFree unclosed later hle)
  refine ⟨hbefore, ?_, ?_⟩
  · intro front' inner' later hle
    exact ⟨opens.ruleFree unclosed later hle, opens.eq_or_under unclosed later hle⟩
  · intro hclosed
    obtain ⟨-, suffix, line, -, rfl⟩ := opens
    exact find_of_append fun block hblock => hclosed block hblock (hbefore block hblock)

/-- Of two opening lines one under the other neither is closed, since a rule directly under an
opening line is a line of its body. -/
theorem opening_lines_stay_open_below_a_block :
    let front := "---- datatable a ----\né\n----\n".toList
    let inner := "---- datatable c ----\n---\nend".toList
    let t := front ++ ("---- datatable b ----\n".toList ++ inner)
    let first : Block := ⟨"a".toList, ["é".toList], 0, 29⟩
    OpensInto t front inner ∧ RuleFree inner ∧ find t = [first] ∧
      (∀ block ∈ find t, block.start < octets front) ∧
      (∀ front' inner', OpensInto t front' inner' → octets front ≤ octets front' →
        RuleFree inner') ∧
      find t = find front := by
  intro front inner t first
  have opens : OpensInto t front inner := by
    have hopening : opening? ("---- datatable b ----\n".toList ++ inner) =
        some (" b ".toList, inner) := by decide +kernel
    obtain ⟨line, hline, htext⟩ := opening?_eq_some_iff.mp hopening
    exact ⟨by decide +kernel, _, line, hline, congrArg (front ++ ·) htext⟩
  have unclosed : RuleFree inner := closing?_eq_none_iff.mp (by decide +kernel)
  have hfind : find t = [first] := by
    have hhere : here? 0 t = some (first, [] ++ '\n' :: ("---- datatable b ----".toList ++
      '\n' :: inner)) := by decide +kernel
    have hnone : here? 30 ("---- datatable b ----".toList ++ '\n' :: inner) = none := by
      decide +kernel
    rw [find, scan_block List.not_mem_nil hhere]
    refine congrArg (first :: ·) ((scan_line (by decide) hnone).trans ?_)
    exact scan_eq_nil unclosed _
  obtain ⟨hbefore, hlater, hfront⟩ := unclosed_opening_line_ends_the_search opens unclosed
  refine ⟨opens, unclosed, hfind, hbefore, fun front' inner' later hle =>
    (hlater front' inner' later hle).1, hfront ?_⟩
  rw [hfind]
  decide +kernel

end Block

end WikiPivot
