import WikiPivot.Document.Block
import WikiPivot.Proofs.Text.Pieces
import Mathlib.Data.List.TakeWhile

/-! # The blocks of a document, declared

A place of a document is the text before it. A block stands at a place if an opening line begins
there and some later newline has four dashes behind it; its body ends at the first such newline.
The search takes the first block at or behind a place and goes on behind that block's dashes.
-/
namespace WikiPivot

namespace Block

open Text

/-- The place behind `front` is the first one of the document or stands behind a newline. -/
def LineStart (front : Text) : Prop := front = [] ∨ front.getLast? = some '\n'

instance (front : Text) : Decidable (LineStart front) :=
  inferInstanceAs (Decidable (_ ∨ _))

def ClassLetter (c : Char) : Prop :=
  c = ' ' ∨ c = '_' ∨ ('a' ≤ c ∧ c ≤ 'z') ∨ ('A' ≤ c ∧ c ≤ 'Z') ∨ ('0' ≤ c ∧ c ≤ '9')

def ClassSuffix (suffix : Text) : Prop :=
  suffix = [] ∨ ∃ run, suffix = ' ' :: run ∧ ∀ c ∈ run, ClassLetter c

inductive OpeningLine (suffix : Text) : Text → Prop where
  | mk (dashes spaces closing : Nat) (lineEnd : Text) : 4 ≤ dashes → ClassSuffix suffix →
      1 ≤ closing → lineEnd ∈ [['\n'], ['\r', '\n']] →
      OpeningLine suffix (List.replicate dashes '-' ++ (List.replicate spaces ' ' ++
        ("datatable".toList ++ (suffix ++ (List.replicate closing '-' ++ lineEnd)))))

/-- Behind an opening line the text goes on with `body`, a newline, a whole run of four dashes or
more, and `after`; no newline before that one has four dashes behind it. -/
structure Closing (inner body dashes after : Text) : Prop where
  text : inner = body ++ '\n' :: (dashes ++ after)
  rule : ∃ n, 4 ≤ n ∧ dashes = List.replicate n '-'
  whole : after.head? ≠ some '-'
  first : ∀ earlier later, inner = earlier ++ '\n' :: later →
    List.replicate 4 '-' <+: later → body.length ≤ earlier.length

def RuleFree (t : Text) : Prop :=
  ∀ earlier later, t = earlier ++ '\n' :: later → ¬ List.replicate 4 '-' <+: later

inductive BlockAt (front : Text) : Text → Block → Text → Prop where
  | mk {suffix line inner body dashes after : Text} : LineStart front → OpeningLine suffix line →
      Closing inner body dashes after →
      BlockAt front (line ++ inner)
        { classes := trim suffix
          lines := ((dropFinal '\r' body).splitOn '\n').map (dropFinal '\r')
          start := octets front
          stop := octets (front ++ line ++ body ++ '\n' :: dashes) }
        after

def Starts (front here : Text) : Prop := ∃ block after, BlockAt front here block after

inductive Scanned : Text → Text → List Block → Prop where
  | done {front rest : Text} :
      (∀ skipped here, rest = skipped ++ here → ¬ Starts (front ++ skipped) here) →
      Scanned front rest []
  | next {front skipped taken after : Text} {block : Block} {blocks : List Block} :
      (∀ earlier later, skipped = earlier ++ later → later ≠ [] →
        ¬ Starts (front ++ earlier) (later ++ (taken ++ after))) →
      BlockAt (front ++ skipped) (taken ++ after) block after →
      Scanned (front ++ skipped ++ taken) after blocks →
      Scanned front (skipped ++ (taken ++ after)) (block :: blocks)

theorem isAlphanum_iff {c : Char} : c.isAlphanum = true ↔
    (('A' ≤ c ∧ c ≤ 'Z') ∨ ('a' ≤ c ∧ c ≤ 'z')) ∨ ('0' ≤ c ∧ c ≤ '9') := by
  have hupper : c.isUpper = true ↔ c.val ≥ 'A'.val ∧ c.val ≤ 'Z'.val := decide_eq_true_iff
  have hlower : c.isLower = true ↔ c.val ≥ 'a'.val ∧ c.val ≤ 'z'.val :=
    Bool.and_eq_true_iff.trans (and_congr decide_eq_true_iff decide_eq_true_iff)
  have hdigit : c.isDigit = true ↔ c.val ≥ '0'.val ∧ c.val ≤ '9'.val :=
    Bool.and_eq_true_iff.trans (and_congr decide_eq_true_iff decide_eq_true_iff)
  have hclasses : c.isAlphanum = (c.isUpper || c.isLower || c.isDigit) := rfl
  rw [hclasses, Bool.or_eq_true, Bool.or_eq_true, hupper, hlower, hdigit]
  rfl

theorem isClassChar_iff {c : Char} : isClassChar c = true ↔ ClassLetter c := by
  simp only [isClassChar, ClassLetter, Bool.or_eq_true, beq_iff_eq, isAlphanum_iff]
  tauto

theorem lineEnd_cases {lineEnd : Text} (h : lineEnd ∈ [['\n'], ['\r', '\n']]) :
    lineEnd = ['\n'] ∨ lineEnd = ['\r', '\n'] := by
  simpa using h

theorem isDash_of_mem_replicate {n : Nat} {c : Char} (h : c ∈ List.replicate n '-') :
    isDash c = true := by
  rw [List.eq_of_mem_replicate h]
  rfl

theorem eq_replicate_of_isDash {t : Text} (h : ∀ c ∈ t, isDash c = true) :
    t = List.replicate t.length '-' :=
  List.eq_replicate_of_mem fun c hc => by simpa [isDash] using h c hc

theorem replicate_isPrefix {m n : Nat} (h : m ≤ n) :
    List.replicate m '-' <+: List.replicate n '-' := by
  rw [List.prefix_replicate_iff]
  simpa using h

theorem takeWhile_isDash (t : Text) :
    t.takeWhile isDash = List.replicate (t.takeWhile isDash).length '-' :=
  eq_replicate_of_isDash fun _ hc => List.mem_takeWhile_imp hc

theorem head?_dropWhile_ne {p : Char → Bool} {c : Char} (hc : p c = true) (t : Text) :
    (t.dropWhile p).head? ≠ some c := by
  intro h
  have := List.head?_dropWhile_not p t
  rw [h] at this
  simp [hc] at this

theorem dashes_split {n : Nat} {after : Text} (h : after.head? ≠ some '-') :
    (List.replicate n '-' ++ after).takeWhile isDash = List.replicate n '-' ∧
      (List.replicate n '-' ++ after).dropWhile isDash = after := by
  have hall : ∀ c ∈ List.replicate n '-', isDash c = true := fun _ => isDash_of_mem_replicate
  have hnone : after.takeWhile isDash = [] ∧ after.dropWhile isDash = after := by
    cases after with
    | nil => exact ⟨rfl, rfl⟩
    | cons c rest =>
      have hc : isDash c = false := by simpa [isDash] using h
      simp [hc]
  rw [List.takeWhile_append_of_pos hall, List.dropWhile_append_of_pos hall, hnone.1, hnone.2]
  simp

/-- The dashes that are passed over, and that none is left. -/
theorem afterDashes?_eq_some_iff {least : Nat} {t after : Text} :
    afterDashes? least t = some after ↔
      ∃ n, least ≤ n ∧ t = List.replicate n '-' ++ after ∧ after.head? ≠ some '-' := by
  rw [afterDashes?, Option.ite_none_right_eq_some, Option.some.injEq]
  constructor
  · rintro ⟨hleast, rfl⟩
    refine ⟨_, hleast, ?_, head?_dropWhile_ne rfl t⟩
    rw [← takeWhile_isDash, List.takeWhile_append_dropWhile]
  · rintro ⟨n, hn, rfl, hafter⟩
    obtain ⟨htake, hdrop⟩ := dashes_split (n := n) hafter
    rw [htake, hdrop, List.length_replicate]
    exact ⟨hn, rfl⟩

theorem afterDashes?_eq_none_iff {least : Nat} {t : Text} :
    afterDashes? least t = none ↔ ¬ List.replicate least '-' <+: t := by
  rw [afterDashes?, ite_eq_right_iff]
  constructor
  · rintro h ⟨rest, hrest⟩
    refine absurd (h ?_) (by simp)
    have hall : ∀ c ∈ List.replicate least '-', isDash c = true :=
      fun _ => isDash_of_mem_replicate
    rw [← hrest, List.takeWhile_append_of_pos hall]
    simp
  · intro h hleast
    refine absurd ?_ h
    have hrun : List.replicate least '-' <+: t.takeWhile isDash := by
      rw [takeWhile_isDash]
      exact replicate_isPrefix hleast
    exact hrun.trans (List.takeWhile_prefix _)

theorem exists_afterDashes? {least : Nat} {t : Text} (h : List.replicate least '-' <+: t) :
    ∃ after, afterDashes? least t = some after :=
  Option.ne_none_iff_exists'.mp fun hnone => afterDashes?_eq_none_iff.mp hnone h

theorem afterLineEnd?_eq_some_iff {t rest : Text} :
    afterLineEnd? t = some rest ↔ ∃ lineEnd ∈ [['\n'], ['\r', '\n']], t = lineEnd ++ rest := by
  unfold afterLineEnd?
  split
  · simp
  · simp
  · rename_i hlf hcrlf
    simp only [reduceCtorEq, List.mem_cons, List.not_mem_nil, or_false, false_iff, not_exists,
      not_and]
    rintro lineEnd (rfl | rfl) rfl
    · exact hlf rest rfl
    · exact hcrlf rest rfl

theorem classSuffix_of_classSuffix (t : Text) :
    ClassSuffix (classSuffix t) ∧ classSuffix t <+: t := by
  unfold classSuffix
  split
  · rename_i rest
    refine ⟨Or.inr ⟨rest.takeWhile isClassChar, rfl, ?_⟩, List.takeWhile_prefix _⟩
    intro c hc
    exact isClassChar_iff.mp (List.mem_takeWhile_imp hc)
  · exact ⟨Or.inl rfl, List.nil_prefix⟩

/-- A dash is no class letter, so the suffix ends where the closing dashes begin. -/
theorem classSuffix_append {suffix : Text} (h : ClassSuffix suffix) (rest : Text) :
    classSuffix (suffix ++ '-' :: rest) = suffix := by
  rcases h with rfl | ⟨run, rfl, hrun⟩
  · rfl
  · have hall : ∀ c ∈ ' ' :: run, isClassChar c = true := by
      intro c hc
      rcases List.mem_cons.mp hc with rfl | hc
      · rfl
      · exact isClassChar_iff.mpr (hrun c hc)
    have hstop : List.takeWhile isClassChar ('-' :: rest) = [] := rfl
    change List.takeWhile isClassChar ((' ' :: run) ++ '-' :: rest) = ' ' :: run
    rw [List.takeWhile_append_of_pos hall, hstop, List.append_nil]

theorem exists_spaces (t : Text) : ∃ n, t = List.replicate n ' ' ++ t.dropWhile (· == ' ') := by
  refine ⟨(t.takeWhile (· == ' ')).length, ?_⟩
  have hspaces : t.takeWhile (· == ' ') = List.replicate (t.takeWhile (· == ' ')).length ' ' :=
    List.eq_replicate_of_mem fun c hc => by simpa using List.mem_takeWhile_imp hc
  rw [← hspaces, List.takeWhile_append_dropWhile]

theorem dropWhile_spaces (n : Nat) (rest : Text) (h : rest.head? ≠ some ' ') :
    (List.replicate n ' ' ++ rest).dropWhile (· == ' ') = rest := by
  have hall : ∀ c ∈ List.replicate n ' ', (c == ' ') = true := by
    intro c hc
    simp [List.eq_of_mem_replicate hc]
  rw [List.dropWhile_append_of_pos hall]
  cases rest with
  | nil => rfl
  | cons c rest =>
    have hc : c ≠ ' ' := by simpa using h
    simp [hc]

/-- The scanner finds an opening line exactly where one stands. -/
theorem opening?_eq_some_iff {t suffix inner : Text} :
    opening? t = some (suffix, inner) ↔ ∃ line, OpeningLine suffix line ∧ t = line ++ inner := by
  simp only [opening?, Option.bind_eq_bind, Option.bind_eq_some_iff, Option.pure_def,
    Option.some.injEq, Prod.mk.injEq, after?_eq_some_iff]
  constructor
  · rintro ⟨indented, hindented, named, hnamed, dashed, hdashed, body, hbody, rfl, rfl⟩
    obtain ⟨dashes, hdashes, rfl, -⟩ := afterDashes?_eq_some_iff.mp hindented
    obtain ⟨closing, hclosing, hrest, -⟩ := afterDashes?_eq_some_iff.mp hdashed
    obtain ⟨lineEnd, hlineEnd, rfl⟩ := afterLineEnd?_eq_some_iff.mp hbody
    obtain ⟨hsuffix, hprefix⟩ := classSuffix_of_classSuffix named
    obtain ⟨spaces, hspaces⟩ := exists_spaces indented
    have hclose :
        named = classSuffix named ++ (List.replicate closing '-' ++ (lineEnd ++ body)) := by
      rw [← hrest]
      exact (List.prefix_iff_eq_append.mp hprefix).symm
    refine ⟨_, .mk dashes spaces closing lineEnd hdashes hsuffix hclosing hlineEnd, ?_⟩
    calc List.replicate dashes '-' ++ indented
        = List.replicate dashes '-' ++
            (List.replicate spaces ' ' ++ ("datatable".toList ++ named)) := by
          rw [← hnamed, ← hspaces]
      _ = _ := by
          conv_lhs => rw [hclose]
          simp only [List.append_assoc]
  · rintro ⟨line, ⟨dashes, spaces, closing, lineEnd, hdashes, hsuffix, hclosing, hlineEnd⟩, rfl⟩
    let named := suffix ++ (List.replicate closing '-' ++ (lineEnd ++ inner))
    let indented := List.replicate spaces ' ' ++ ("datatable".toList ++ named)
    have hindented : indented.head? ≠ some '-' := by
      cases spaces with
      | zero => simp [indented]
      | succ spaces => simp [indented, List.replicate_succ]
    have hlast : (lineEnd ++ inner).head? ≠ some '-' := by
      rcases lineEnd_cases hlineEnd with rfl | rfl <;> simp
    have hclass : classSuffix named = suffix := by
      obtain ⟨more, rfl⟩ : ∃ more, closing = more + 1 := ⟨closing - 1, by omega⟩
      exact classSuffix_append hsuffix _
    refine ⟨indented, ?_, named, dropWhile_spaces _ _ (by simp), lineEnd ++ inner, ?_, inner, ?_,
      hclass, rfl⟩
    · exact afterDashes?_eq_some_iff.mpr
        ⟨dashes, hdashes, by simp only [indented, named, List.append_assoc], hindented⟩
    · rw [hclass, List.drop_left]
      exact afterDashes?_eq_some_iff.mpr ⟨closing, hclosing, rfl, hlast⟩
    · exact afterLineEnd?_eq_some_iff.mpr ⟨lineEnd, hlineEnd, rfl⟩

theorem closing?_cons_of_rule {rest after : Text} (h : afterDashes? 4 rest = some after) :
    closing? ('\n' :: rest) = some ([], after) := by
  simp only [closing?, if_true, h]

theorem closing?_cons_of_no_rule {c : Char} {rest : Text}
    (h : c = '\n' → ¬ List.replicate 4 '-' <+: rest) :
    closing? (c :: rest) = (closing? rest).map fun (body, after) => (c :: body, after) := by
  have hnone : (if c = '\n' then afterDashes? 4 rest else none) = none := by
    split
    · exact afterDashes?_eq_none_iff.mpr (h ‹_›)
    · rfl
  simp only [closing?, hnone]

theorem Closing.cons {c : Char} {rest body dashes after : Text}
    (h : c = '\n' → ¬ List.replicate 4 '-' <+: rest) (closes : Closing rest body dashes after) :
    Closing (c :: rest) (c :: body) dashes after where
  text := congrArg (c :: ·) closes.text
  rule := closes.rule
  whole := closes.whole
  first := by
    intro earlier later htext hrule
    cases earlier with
    | nil =>
      obtain ⟨hc, rfl⟩ := List.cons.inj htext
      exact absurd hrule (h hc)
    | cons d earlier =>
      obtain ⟨-, hrest⟩ := List.cons.inj htext
      exact Nat.succ_le_succ (closes.first earlier later hrest hrule)

theorem Closing.of_cons {c : Char} {rest body dashes after : Text}
    (closes : Closing (c :: rest) (c :: body) dashes after) : Closing rest body dashes after where
  text := (List.cons.inj closes.text).2
  rule := closes.rule
  whole := closes.whole
  first := by
    intro earlier later htext hrule
    have := closes.first (c :: earlier) later (congrArg (c :: ·) htext) hrule
    exact Nat.le_of_succ_le_succ this

/-- The scanner ends a body exactly where the grammar does. -/
theorem closing?_eq_some_iff {t body after : Text} :
    closing? t = some (body, after) ↔ ∃ dashes, Closing t body dashes after := by
  induction t generalizing body with
  | nil =>
    simp only [closing?, reduceCtorEq, false_iff, not_exists]
    intro dashes closes
    exact absurd closes.text (by simp)
  | cons c rest ih =>
    -- Either the body ends here, or the character belongs to it and both sides go on.
    by_cases hrule : c = '\n' ∧ List.replicate 4 '-' <+: rest
    · obtain ⟨rfl, hrule⟩ := hrule
      obtain ⟨found, hfound⟩ := exists_afterDashes? hrule
      obtain ⟨n, hn, rfl, hwhole⟩ := afterDashes?_eq_some_iff.mp hfound
      rw [closing?_cons_of_rule hfound, Option.some.injEq, Prod.mk.injEq]
      constructor
      · rintro ⟨rfl, rfl⟩
        exact ⟨_, rfl, ⟨n, hn, rfl⟩, hwhole, fun _ _ _ _ => Nat.zero_le _⟩
      · rintro ⟨dashes, closes⟩
        have hbody : body = [] :=
          List.eq_nil_of_length_eq_zero (Nat.le_zero.mp (closes.first [] _ rfl hrule))
        subst hbody
        obtain ⟨m, hm, rfl⟩ := closes.rule
        have hrest : List.replicate n '-' ++ found = List.replicate m '-' ++ after :=
          (List.cons.inj closes.text).2
        have hdrop := (dashes_split (n := n) hwhole).2
        rw [hrest, (dashes_split closes.whole).2] at hdrop
        exact ⟨rfl, hdrop.symm⟩
    · have hnone : c = '\n' → ¬ List.replicate 4 '-' <+: rest := fun hc h => hrule ⟨hc, h⟩
      rw [closing?_cons_of_no_rule hnone]
      simp only [Option.map_eq_some_iff, Prod.exists, Prod.mk.injEq]
      constructor
      · rintro ⟨b, a, hclosing, rfl, rfl⟩
        obtain ⟨dashes, closes⟩ := ih.mp hclosing
        exact ⟨dashes, closes.cons hnone⟩
      · rintro ⟨dashes, closes⟩
        cases body with
        | nil =>
          obtain ⟨hc, rfl⟩ := List.cons.inj closes.text
          obtain ⟨m, hm, rfl⟩ := closes.rule
          exact absurd ((replicate_isPrefix hm).trans (List.prefix_append _ _)) (hnone hc)
        | cons d b =>
          obtain ⟨rfl, -⟩ := List.cons.inj closes.text
          exact ⟨b, after, ih.mpr ⟨dashes, closes.of_cons⟩, rfl, rfl⟩

theorem ruleFree_nil : RuleFree [] := by
  intro earlier later h
  exact absurd h (by simp)

theorem ruleFree_cons_iff {c : Char} {t : Text} :
    RuleFree (c :: t) ↔ (c = '\n' → ¬ List.replicate 4 '-' <+: t) ∧ RuleFree t := by
  constructor
  · intro h
    constructor
    · rintro rfl
      exact h [] t rfl
    · rintro earlier later rfl
      exact h (c :: earlier) later rfl
  · rintro ⟨hfirst, hrest⟩ earlier later h
    cases earlier with
    | nil =>
      obtain ⟨hc, rfl⟩ := List.cons.inj h
      exact hfirst hc
    | cons d earlier =>
      obtain ⟨-, htail⟩ := List.cons.inj h
      exact hrest earlier later htail

theorem RuleFree.of_append_left {s t : Text} (h : RuleFree (s ++ t)) : RuleFree s := by
  rintro earlier later rfl hrule
  refine h earlier (later ++ t) ?_ (hrule.trans (List.prefix_append _ _))
  rw [List.append_assoc, List.cons_append]

theorem RuleFree.of_append_right {s t : Text} (h : RuleFree (s ++ t)) : RuleFree t := by
  rintro earlier later rfl
  exact h (s ++ earlier) later (List.append_assoc _ _ _).symm

/-- No body is closed exactly where no newline has a rule behind it. -/
theorem closing?_eq_none_iff {t : Text} : closing? t = none ↔ RuleFree t := by
  induction t with
  | nil => exact iff_of_true rfl ruleFree_nil
  | cons c rest ih =>
    rw [ruleFree_cons_iff, ← ih]
    by_cases hrule : c = '\n' ∧ List.replicate 4 '-' <+: rest
    · obtain ⟨rfl, hrule⟩ := hrule
      obtain ⟨after, hafter⟩ := exists_afterDashes? hrule
      rw [closing?_cons_of_rule hafter]
      exact iff_of_false (by simp) fun h => h.1 rfl hrule
    · have hnone : c = '\n' → ¬ List.replicate 4 '-' <+: rest := fun hc h => hrule ⟨hc, h⟩
      rw [closing?_cons_of_no_rule hnone, Option.map_eq_none_iff]
      exact (and_iff_right hnone).symm

theorem exists_closing_iff {inner : Text} :
    (∃ body dashes after, Closing inner body dashes after) ↔ ¬ RuleFree inner := by
  rw [← closing?_eq_none_iff, ← ne_eq, Option.ne_none_iff_exists', Prod.exists]
  simp only [closing?_eq_some_iff]
  exact exists_congr fun body => exists_comm

/-- A block starts with an opening line that some rule behind it closes. -/
theorem starts_iff {front here : Text} :
    Starts front here ↔ LineStart front ∧ ∃ suffix line inner, OpeningLine suffix line ∧
      here = line ++ inner ∧ ¬ RuleFree inner := by
  constructor
  · rintro ⟨block, after, ⟨hstart, opens, closes⟩⟩
    exact ⟨hstart, _, _, _, opens, rfl, exists_closing_iff.mp ⟨_, _, _, closes⟩⟩
  · rintro ⟨hstart, suffix, line, inner, opens, rfl, hrule⟩
    obtain ⟨body, dashes, after, closes⟩ := exists_closing_iff.mpr hrule
    exact ⟨_, after, .mk hstart opens closes⟩

theorem bodyLines_eq (body : Text) :
    bodyLines body = ((dropFinal '\r' body).splitOn '\n').map (dropFinal '\r') := by
  rw [bodyLines, pieces_eq_splitOn]

/-- At the start of a line the scanner finds a block exactly where one stands. -/
theorem here?_eq_some_iff {front t after : Text} {block : Block} (h : LineStart front) :
    here? (octets front) t = some (block, after) ↔ BlockAt front t block after := by
  simp only [here?, Option.bind_eq_bind, Option.bind_eq_some_iff, Option.pure_def,
    Option.some.injEq, Prod.mk.injEq, Prod.exists]
  have hstop : ∀ line body dashes after : Text,
      octets front + (octets (line ++ (body ++ '\n' :: (dashes ++ after))) - octets after) =
        octets (front ++ line ++ body ++ '\n' :: dashes) := by
    intro line body dashes after
    simp only [octets_append, octets]
    omega
  constructor
  · rintro ⟨suffix, inner, hopening, body, rest, hclosing, rfl, rfl⟩
    obtain ⟨line, opens, rfl⟩ := opening?_eq_some_iff.mp hopening
    obtain ⟨dashes, closes⟩ := closing?_eq_some_iff.mp hclosing
    have found := BlockAt.mk h opens closes
    have htext := closes.text
    subst htext
    rw [hstop, bodyLines_eq]
    exact found
  · rintro ⟨-, opens, closes⟩
    rename_i suffix line inner body dashes
    refine ⟨suffix, inner, opening?_eq_some_iff.mpr ⟨line, opens, rfl⟩, body, after,
      closing?_eq_some_iff.mpr ⟨dashes, closes⟩, ?_, rfl⟩
    have htext := closes.text
    subst htext
    rw [hstop, bodyLines_eq]

theorem here?_eq_none_iff {front t : Text} (h : LineStart front) :
    here? (octets front) t = none ↔ ¬ Starts front t := by
  rw [Option.eq_none_iff_forall_ne_some]
  constructor
  · rintro hnone ⟨block, after, found⟩
    exact hnone _ ((here?_eq_some_iff h).mpr found)
  · rintro hstarts ⟨block, after⟩ hsome
    exact hstarts ⟨block, after, (here?_eq_some_iff h).mp hsome⟩

end Block

end WikiPivot
