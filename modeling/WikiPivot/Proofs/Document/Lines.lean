import WikiPivot.Proofs.Document.Scan

/-! # The search line by line

Whether a line opens a block is seen in that line alone, and what a block closes with is seen up to
the end of its rule. Where no rule follows any newline there is no block at all.
-/
namespace WikiPivot

namespace Block

open Text

theorem nextLine?_append_cons {line : Text} (h : '\n' ∉ line) (offset : Nat) (rest : Text) :
    nextLine? offset (line ++ '\n' :: rest) = some (offset + octets (line ++ ['\n']), rest) := by
  induction line generalizing offset with
  | nil => rfl
  | cons c line ih =>
    obtain ⟨hc, hline⟩ := not_or.mp (mt List.mem_cons.mpr h)
    rw [List.cons_append, nextLine?, if_neg (Ne.symm hc), ih hline, List.cons_append, octets,
      Nat.add_assoc]

theorem nextLine?_of_not_mem {t : Text} (h : '\n' ∉ t) (offset : Nat) :
    nextLine? offset t = none := by
  induction t generalizing offset with
  | nil => rfl
  | cons c t ih =>
    obtain ⟨hc, ht⟩ := not_or.mp (mt List.mem_cons.mpr h)
    rw [nextLine?, if_neg (Ne.symm hc), ih ht]

/-- A text that is empty or ends with a line is empty or begins with a line. -/
theorem exists_line {t : Text} (h : LineStart t) (hne : t ≠ []) :
    ∃ line rest, '\n' ∉ line ∧ t = line ++ '\n' :: rest ∧ LineStart rest := by
  have hlast : t.getLast? = some '\n' := h.resolve_left hne
  obtain ⟨line, rest, rfl, hline⟩ := List.eq_append_cons_of_mem (List.mem_of_getLast? hlast)
  rw [← List.singleton_append, ← List.append_assoc] at h
  exact ⟨line, rest, hline, rfl, h.of_append⟩

theorem ClassSuffix.not_mem {suffix : Text} (h : ClassSuffix suffix) {c : Char}
    (hc : isClassChar c = false) : c ∉ suffix := by
  have hspace : c ≠ ' ' := by
    rintro rfl
    exact absurd hc (by decide)
  rcases h with rfl | ⟨run, rfl, hrun⟩
  · exact List.not_mem_nil
  · rw [List.mem_cons, not_or]
    refine ⟨hspace, fun hmem => ?_⟩
    rw [isClassChar_iff.mpr (hrun c hmem)] at hc
    exact absurd hc (by decide)

/-- An opening line opens a block with either line end. -/
theorem OpeningLine.exists_bare {suffix line : Text} (h : OpeningLine suffix line) :
    ∃ bare, ∃ lineEnd ∈ [['\n'], ['\r', '\n']], line = bare ++ lineEnd ∧ '\n' ∉ bare ∧ '\r' ∉ bare ∧
      ∀ other ∈ [['\n'], ['\r', '\n']], OpeningLine suffix (bare ++ other) := by
  obtain ⟨dashes, spaces, closing, lineEnd, hdashes, hsuffix, hclosing, hend⟩ := h
  let bare := List.replicate dashes '-' ++ (List.replicate spaces ' ' ++
    ("datatable".toList ++ (suffix ++ List.replicate closing '-')))
  have hfree : ∀ c : Char, isClassChar c = false → c ≠ '-' → c ≠ ' ' →
      c ∉ "datatable".toList → c ∉ bare := by
    intro c hclass hdash hspace hword
    simp only [bare, List.mem_append, List.mem_replicate, not_or, not_and]
    exact ⟨fun _ => hdash, fun _ => hspace, hword, hsuffix.not_mem hclass, fun _ => hdash⟩
  refine ⟨bare, lineEnd, hend, by simp only [bare, List.append_assoc], ?_, ?_, ?_⟩
  · exact hfree _ (by decide) (by decide) (by decide) (by decide)
  · exact hfree _ (by decide) (by decide) (by decide) (by decide)
  · intro other hother
    have opens := OpeningLine.mk dashes spaces closing other hdashes hsuffix hclosing hother
    simpa only [bare, List.append_assoc] using opens

/-- An opening line is a whole line. -/
theorem OpeningLine.exists_front {suffix line : Text} (h : OpeningLine suffix line) :
    ∃ front, '\n' ∉ front ∧ line = front ++ ['\n'] := by
  obtain ⟨bare, lineEnd, hend, rfl, hfree, -⟩ := h.exists_bare
  rcases lineEnd_cases hend with rfl | rfl
  · exact ⟨bare, hfree, rfl⟩
  · exact ⟨bare ++ ['\r'], by simpa using hfree, by simp⟩

/-- The first line alone decides whether an opening line stands there. -/
theorem opening?_line {line : Text} (h : '\n' ∉ line) {rest suffix inner : Text} :
    opening? (line ++ '\n' :: rest) = some (suffix, inner) ↔
      OpeningLine suffix (line ++ ['\n']) ∧ inner = rest := by
  rw [opening?_eq_some_iff]
  constructor
  · rintro ⟨opener, opens, htext⟩
    obtain ⟨front, hfront, rfl⟩ := opens.exists_front
    rw [List.append_assoc, List.singleton_append] at htext
    obtain ⟨rfl, rfl⟩ := append_mark_inj h hfront htext
    exact ⟨opens, rfl⟩
  · rintro ⟨opens, rfl⟩
    exact ⟨_, opens, by rw [List.append_assoc, List.singleton_append]⟩

theorem newline_mem_of_opening? {t suffix inner : Text} (h : opening? t = some (suffix, inner)) :
    '\n' ∈ t := by
  obtain ⟨line, opens, rfl⟩ := opening?_eq_some_iff.mp h
  obtain ⟨front, -, rfl⟩ := opens.exists_front
  simp

theorem afterDashes?_append {least : Nat} {t after : Text} (h : afterDashes? least t = some after)
    (hne : after ≠ []) (more : Text) : afterDashes? least (t ++ more) = some (after ++ more) := by
  obtain ⟨n, hn, rfl, hafter⟩ := afterDashes?_eq_some_iff.mp h
  refine afterDashes?_eq_some_iff.mpr ⟨n, hn, List.append_assoc _ _ _, ?_⟩
  rwa [List.head?_append_of_ne_nil _ hne]

theorem newline_mem_of_closing? {t body after : Text} (h : closing? t = some (body, after)) :
    '\n' ∈ t := by
  obtain ⟨dashes, closes⟩ := closing?_eq_some_iff.mp h
  rw [closes.text]
  simp

/-- A body closes where it does whatever comes behind its rule. -/
theorem closing?_append_of_some {t body after : Text} (h : closing? t = some (body, after))
    (hne : after ≠ []) (more : Text) : closing? (t ++ more) = some (body, after ++ more) := by
  induction t generalizing body with
  | nil => exact absurd h (by simp [closing?])
  | cons c t ih =>
    by_cases hrule : c = '\n' ∧ List.replicate 4 '-' <+: t
    · obtain ⟨rfl, hrule⟩ := hrule
      obtain ⟨found, hfound⟩ := exists_afterDashes? hrule
      rw [closing?_cons_of_rule hfound] at h
      obtain ⟨rfl, rfl⟩ := Prod.mk.inj (Option.some.inj h)
      exact closing?_cons_of_rule (afterDashes?_append hfound hne more)
    · have hnone : c = '\n' → ¬ List.replicate 4 '-' <+: t := fun hc h => hrule ⟨hc, h⟩
      rw [closing?_cons_of_no_rule hnone] at h
      obtain ⟨⟨b, a⟩, hclosing, hsame⟩ := Option.map_eq_some_iff.mp h
      obtain ⟨rfl, rfl⟩ := Prod.mk.inj hsame
      -- a newline is still to come, so dashes of the appended text make no rule of this line
      have hlater : c = '\n' → ¬ List.replicate 4 '-' <+: t ++ more := by
        intro hc hdashes
        obtain ⟨line, rest, rfl, -⟩ := List.eq_append_cons_of_mem (newline_mem_of_closing? hclosing)
        rw [List.append_assoc, List.cons_append] at hdashes
        have hline := prefix_of_prefix_append_cons (by decide) hdashes
        exact hnone hc (hline.trans (List.prefix_append _ _))
      rw [List.cons_append, closing?_cons_of_no_rule hlater, ih hclosing]
      rfl

/-- The block that an opening line and a closing rule make is there whatever follows the rule. -/
theorem here?_append {suffix opener inner body dashes after : Text}
    (opens : OpeningLine suffix opener) (closes : Closing inner body dashes after)
    (hne : after ≠ []) (offset : Nat) (more : Text) :
    here? offset (opener ++ inner ++ more) =
      some (⟨trim suffix, bodyLines body, offset,
        offset + octets (opener ++ (body ++ '\n' :: dashes))⟩, after ++ more) := by
  have hopening : opening? (opener ++ inner ++ more) = some (suffix, inner ++ more) :=
    opening?_eq_some_iff.mpr ⟨opener, opens, List.append_assoc _ _ _⟩
  have hclosing : closing? (inner ++ more) = some (body, after ++ more) :=
    closing?_append_of_some (closing?_eq_some_iff.mpr ⟨dashes, closes⟩) hne more
  have hoctets : octets (opener ++ inner ++ more) - octets (after ++ more) =
      octets (opener ++ (body ++ '\n' :: dashes)) := by
    rw [closes.text]
    simp only [octets_append, octets]
    omega
  simp only [here?, Option.bind_eq_bind, hopening, Option.bind_some, hclosing, hoctets,
    Option.pure_def]

theorem here?_eq_none_of_ruleFree {t : Text} (h : RuleFree t) (offset : Nat) :
    here? offset t = none := by
  rw [Option.eq_none_iff_forall_ne_some]
  rintro ⟨block, after⟩ hsome
  simp only [here?, Option.bind_eq_bind, Option.bind_eq_some_iff, Prod.exists] at hsome
  obtain ⟨suffix, inner, hopening, body, rest, hclosing, -⟩ := hsome
  obtain ⟨line, -, rfl⟩ := opening?_eq_some_iff.mp hopening
  rw [closing?_eq_none_iff.mpr h.of_append_right] at hclosing
  exact absurd hclosing (by simp)

/-- Where no newline has a rule behind it there is no block. -/
theorem scan_eq_nil {t : Text} (h : RuleFree t) (offset : Nat) : scan offset t = [] := by
  induction t using piece_induction '\n' generalizing offset with
  | last t hfree =>
    rw [scan_of_none (here?_eq_none_of_ruleFree h offset), nextLine?_of_not_mem hfree]
  | marked line rest hfree ih =>
    rw [scan_of_none (here?_eq_none_of_ruleFree h offset), nextLine?_append_cons hfree]
    exact ih (ruleFree_cons_iff.mp h.of_append_right).2 _

theorem scan_line {line : Text} (h : '\n' ∉ line) {offset : Nat} {rest : Text}
    (hnone : here? offset (line ++ '\n' :: rest) = none) :
    scan offset (line ++ '\n' :: rest) = scan (offset + octets (line ++ ['\n'])) rest := by
  rw [scan_of_none hnone, nextLine?_append_cons h]

theorem scan_block {offset : Nat} {t line rest : Text} {block : Block} (h : '\n' ∉ line)
    (hsome : here? offset t = some (block, line ++ '\n' :: rest)) :
    scan offset t = block :: scan (block.stop + octets (line ++ ['\n'])) rest := by
  rw [scan_of_some hsome, nextLine?_append_cons h]

end Block

end WikiPivot
