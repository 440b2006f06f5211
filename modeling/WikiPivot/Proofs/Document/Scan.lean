import WikiPivot.Proofs.Document.Grammar

/-! # The search for blocks

The scanner looks at line starts alone. From any place on it finds what the grammar declares there.
-/
namespace WikiPivot

namespace Block

open Text

theorem scan_of_some {offset : Nat} {t after : Text} {block : Block}
    (h : here? offset t = some (block, after)) :
    scan offset t = block :: match nextLine? block.stop after with
      | some (next, rest) => scan next rest
      | none => [] := by
  rw [scan]
  split
  · rename_i found rest hsome
    rw [h] at hsome
    obtain ⟨rfl, rfl⟩ := Prod.mk.inj (Option.some.inj hsome)
    congr 1
    split <;> simp_all
  · simp_all

theorem scan_of_none {offset : Nat} {t : Text} (h : here? offset t = none) :
    scan offset t = match nextLine? offset t with
      | some (next, rest) => scan next rest
      | none => [] := by
  rw [scan]
  split
  · simp_all
  · split <;> simp_all

def scanFrom (front rest : Text) : List Block :=
  if LineStart front then scan (octets front) rest
  else match nextLine? (octets front) rest with
    | some (next, later) => scan next later
    | none => []

theorem scanFrom_of_inside {front : Text} (h : ¬ LineStart front) (rest : Text) :
    scanFrom front rest = match nextLine? (octets front) rest with
      | some (next, later) => scan next later
      | none => [] := if_neg h

theorem lineStart_append_singleton (front : Text) (c : Char) :
    LineStart (front ++ [c]) ↔ c = '\n' := by
  simp [LineStart]

theorem LineStart.of_append {front t : Text} (h : LineStart (front ++ t)) : LineStart t := by
  by_cases ht : t = []
  · exact Or.inl ht
  · right
    rw [← List.getLast?_append_of_ne_nil front ht]
    exact h.resolve_left (by simp [ht])

theorem scanFrom_nil (front : Text) : scanFrom front [] = [] := by
  unfold scanFrom
  split
  · exact scan_of_none rfl
  · rfl

theorem scanFrom_skip {front rest : Text} {c : Char} (h : ¬ Starts front (c :: rest)) :
    scanFrom front (c :: rest) = scanFrom (front ++ [c]) rest := by
  have hline : scanFrom front (c :: rest) = match nextLine? (octets front) (c :: rest) with
      | some (next, later) => scan next later
      | none => [] := by
    by_cases hstart : LineStart front
    · rw [scanFrom, if_pos hstart, scan_of_none ((here?_eq_none_iff hstart).mpr h)]
    · exact scanFrom_of_inside hstart _
  have hoctets : octets (front ++ [c]) = octets front + c.utf8Size := by simp [octets]
  rw [hline, scanFrom, hoctets, nextLine?]
  by_cases hc : c = '\n'
  · subst hc
    rw [if_pos rfl, if_pos ((lineStart_append_singleton front _).mpr rfl)]
    rfl
  · rw [if_neg hc, if_neg (mt (lineStart_append_singleton front c).mp hc)]

theorem BlockAt.lineStart {front here after : Text} {block : Block}
    (h : BlockAt front here block after) : LineStart front := by
  obtain ⟨hstart, -, -⟩ := h
  exact hstart

theorem Closing.exists_dash {inner body dashes after : Text}
    (closes : Closing inner body dashes after) : ∃ more, dashes = more ++ ['-'] := by
  obtain ⟨n, hn, hrule⟩ := closes.rule
  refine ⟨List.replicate (n - 1) '-', ?_⟩
  rw [hrule, ← List.replicate_succ', Nat.sub_add_cancel (by omega)]

/-- A block ends behind a dash, so in the middle of a line. -/
theorem BlockAt.ends {front here after : Text} {block : Block}
    (h : BlockAt front here block after) :
    ∃ taken, here = taken ++ after ∧ taken ≠ [] ∧ block.stop = octets (front ++ taken) ∧
      ¬ LineStart (front ++ taken) := by
  obtain ⟨-, opens, closes⟩ := h
  rename_i suffix line inner body dashes
  obtain ⟨more, rfl⟩ := closes.exists_dash
  refine ⟨line ++ body ++ '\n' :: (more ++ ['-']), ?_, by simp, ?_, ?_⟩
  · rw [closes.text]
    simp
  · simp
  · have hend : front ++ (line ++ body ++ '\n' :: (more ++ ['-'])) =
        (front ++ line ++ body ++ '\n' :: more) ++ ['-'] := by simp
    rw [hend, lineStart_append_singleton]
    decide

theorem scanFrom_block {front taken after : Text} {block : Block}
    (h : BlockAt front (taken ++ after) block after) :
    scanFrom front (taken ++ after) = block :: scanFrom (front ++ taken) after := by
  obtain ⟨taken', htaken, -, hstop, hinside⟩ := h.ends
  obtain rfl := List.append_cancel_right htaken
  rw [scanFrom, if_pos h.lineStart, scan_of_some ((here?_eq_some_iff h.lineStart).mpr h),
    scanFrom_of_inside hinside, hstop]

theorem scanFrom_skipped {front skipped here : Text}
    (h : ∀ earlier later, skipped = earlier ++ later → later ≠ [] →
      ¬ Starts (front ++ earlier) (later ++ here)) :
    scanFrom front (skipped ++ here) = scanFrom (front ++ skipped) here := by
  induction skipped generalizing front with
  | nil => rw [List.nil_append, List.append_nil]
  | cons c skipped ih =>
    have hfirst : ¬ Starts front (c :: (skipped ++ here)) := by
      simpa using h [] (c :: skipped) rfl (List.cons_ne_nil _ _)
    have hrest : ∀ earlier later, skipped = earlier ++ later → later ≠ [] →
        ¬ Starts (front ++ [c] ++ earlier) (later ++ here) := by
      intro earlier later hskipped hlater
      simpa using h (c :: earlier) later (by rw [hskipped, List.cons_append]) hlater
    rw [List.cons_append, scanFrom_skip hfirst, ih hrest, List.append_assoc, List.singleton_append]

theorem Scanned.skip {front rest : Text} {c : Char} {blocks : List Block}
    (h : ¬ Starts front (c :: rest)) (scanned : Scanned (front ++ [c]) rest blocks) :
    Scanned front (c :: rest) blocks := by
  generalize hfront : front ++ [c] = front' at scanned
  cases scanned with
  | done hnone =>
    refine .done ?_
    intro skipped here hrest
    cases skipped with
    | nil =>
      rw [List.nil_append] at hrest
      rw [List.append_nil, ← hrest]
      exact h
    | cons d skipped =>
      obtain ⟨rfl, htail⟩ := List.cons.inj hrest
      have := hnone skipped here htail
      rwa [← hfront, List.append_assoc, List.singleton_append] at this
  | next hnone found later =>
    rename_i skipped taken after block blocks
    subst hfront
    have hcons : front ++ [c] ++ skipped = front ++ c :: skipped := by simp
    rw [hcons] at found later
    rw [← List.cons_append]
    refine .next ?_ found later
    intro earlier behind hskipped hbehind
    cases earlier with
    | nil =>
      rw [List.nil_append] at hskipped
      rw [List.append_nil, ← hskipped]
      exact h
    | cons d earlier =>
      obtain ⟨rfl, htail⟩ := List.cons.inj hskipped
      have := hnone earlier behind htail hbehind
      rwa [List.append_assoc, List.singleton_append] at this

/-- What the scanner finds is declared. -/
theorem scanned_scanFrom (front rest : Text) : Scanned front rest (scanFrom front rest) := by
  -- A block takes many characters at once, so the induction is on the length of what is left.
  induction hlen : rest.length using Nat.strong_induction_on generalizing front rest with
  | _ length ih =>
    by_cases hstarts : Starts front rest
    · obtain ⟨block, after, found⟩ := hstarts
      obtain ⟨taken, rfl, htaken, -, -⟩ := found.ends
      have hpos : 0 < taken.length := List.length_pos_iff.mpr htaken
      have hshorter : after.length < length := by
        rw [← hlen, List.length_append]
        omega
      rw [scanFrom_block found]
      have hnone : ∀ earlier later : Text, [] = earlier ++ later → later ≠ [] →
          ¬ Starts (front ++ earlier) (later ++ (taken ++ after)) := by
        intro earlier later hnil hlater
        exact absurd (List.append_eq_nil_iff.mp hnil.symm).2 hlater
      have hfound : BlockAt (front ++ []) (taken ++ after) block after := by
        rwa [List.append_nil]
      refine .next hnone hfound ?_
      rw [List.append_nil]
      exact ih _ hshorter _ _ rfl
    · cases rest with
      | nil =>
        rw [scanFrom_nil]
        refine .done ?_
        intro skipped here hnil
        obtain ⟨rfl, rfl⟩ := List.append_eq_nil_iff.mp hnil.symm
        rwa [List.append_nil]
      | cons c rest =>
        rw [scanFrom_skip hstarts]
        have hshorter : rest.length < length := by
          rw [← hlen]
          exact Nat.lt_succ_self _
        exact (ih _ hshorter (front ++ [c]) rest rfl).skip hstarts

/-- What is declared is found, and nothing else. -/
theorem scanFrom_of_scanned {front rest : Text} {blocks : List Block}
    (h : Scanned front rest blocks) : scanFrom front rest = blocks := by
  induction h with
  | @done front rest hnone =>
    have hskip : scanFrom front (rest ++ []) = scanFrom (front ++ rest) [] := by
      apply scanFrom_skipped
      intro earlier later hrest _
      rw [List.append_nil]
      exact hnone earlier later hrest
    rwa [List.append_nil, scanFrom_nil] at hskip
  | next hnone found _ ih => rw [scanFrom_skipped hnone, scanFrom_block found, ih]

end Block

end WikiPivot
