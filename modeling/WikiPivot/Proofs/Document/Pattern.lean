import WikiPivot.Proofs.Document.Scan
import WikiPivot.Proofs.Text.Expression

/-! # Blocks as matches

One expression matches a block from its opening line through its closing dashes. Its leftmost
matches with the preferred ways are the blocks that the scanner finds.
-/
namespace WikiPivot

namespace Block

open Text Expression

instance : DecidablePred ClassLetter :=
  fun c => inferInstanceAs (Decidable (c = ' ' ∨ _))

def isClassLetter (c : Char) : Bool := decide (ClassLetter c)

def lineEnds : List Expression := [optional (one (· == '\r')), one (· == '\n')]

def dashesAndEnd : List Expression := atLeast 1 isDash ++ lineEnds

def suffixGroup : Expression :=
  group (optional (sequence [one (· == ' '), many .greedy isClassLetter]))

def namedOpening : List Expression := word "datatable".toList ++ suffixGroup :: dashesAndEnd

def indentedOpening : List Expression := atLeast 0 (· == ' ') ++ namedOpening

def openingLine : List Expression := lineStart :: (atLeast 4 isDash ++ indentedOpening)

def closingLine : List Expression := lineEnds ++ atLeast 4 isDash

/-- The expression `^----+ *datatable((?: [ a-zA-Z0-9_]*)?)-+\r?\n(.*?)\r?\n----+`, where `^` holds
at the start of every line and `.` stands for every character. The body is the second group. -/
def blockExpression : Expression :=
  sequence (openingLine ++ group (many .lazy fun _ => true) :: closingLine)

def ofFound? : Found → Option Block
  | ⟨start, stop, [suffix, body]⟩ =>
    some ⟨trim suffix, (body.splitOn '\n').map (dropFinal '\r'), start, stop⟩
  | _ => none

theorem exists_of_mem_append {es fs : List Expression} {p q : Progress}
    (h : q ∈ ways (sequence (es ++ fs)) p) :
    ∃ r ∈ ways (sequence es) p, q ∈ ways (sequence fs) r := by
  rw [ways_sequence_append] at h
  exact List.mem_flatMap.mp h

theorem ways_lineEnds {lineEnd : Text} (h : lineEnd ∈ [['\n'], ['\r', '\n']]) (front rest : Text)
    (groups : List Text) :
    ways (sequence lineEnds) ⟨front, lineEnd ++ rest, groups⟩ =
      [⟨front ++ lineEnd, rest, groups⟩] := by
  rcases lineEnd_cases h with rfl | rfl
  · simp [lineEnds, ways]
  · simp [lineEnds, ways]

theorem exists_of_mem_lineEnds {p q : Progress} (h : q ∈ ways (sequence lineEnds) p) :
    ∃ lineEnd ∈ [['\n'], ['\r', '\n']], ∃ rest, p.rest = lineEnd ++ rest ∧
      q = ⟨p.front ++ lineEnd, rest, p.groups⟩ := by
  obtain ⟨r, hr, h⟩ := List.mem_flatMap.mp h
  obtain ⟨s, hs, h⟩ := List.mem_flatMap.mp h
  obtain rfl := List.mem_singleton.mp h
  obtain ⟨c, rest, hrest, hc, rfl⟩ := exists_of_mem_one hs
  obtain rfl : c = '\n' := by simpa using hc
  rcases List.mem_append.mp hr with hr | hr
  · obtain ⟨d, rest', hrest', hd, rfl⟩ := exists_of_mem_one hr
    obtain rfl : d = '\r' := by simpa using hd
    obtain rfl : rest' = '\n' :: rest := hrest
    exact ⟨['\r', '\n'], by simp, rest, hrest', by simp⟩
  · obtain rfl := List.mem_singleton.mp hr
    exact ⟨['\n'], by simp, rest, hrest, rfl⟩

theorem exists_of_mem_suffixGroup {p q : Progress} (h : q ∈ ways suffixGroup p) :
    ∃ suffix rest, ClassSuffix suffix ∧ p.rest = suffix ++ rest ∧
      q = ⟨p.front ++ suffix, rest, p.groups ++ [suffix]⟩ := by
  obtain ⟨r, hr, rfl⟩ := List.mem_map.mp h
  rcases List.mem_append.mp hr with hr | hr
  · obtain ⟨s, hs, hr⟩ := List.mem_flatMap.mp hr
    obtain ⟨c, rest, hrest, hc, rfl⟩ := exists_of_mem_one hs
    obtain ⟨t, ht, hr⟩ := List.mem_flatMap.mp hr
    obtain rfl := List.mem_singleton.mp hr
    obtain ⟨run, rest', hrun, hletters, rfl⟩ := exists_of_mem_repeated ht
    obtain rfl : c = ' ' := by simpa using hc
    have hrest' : rest = run ++ rest' := hrun
    have hsuffix : ClassSuffix (' ' :: run) :=
      Or.inr ⟨run, rfl, fun c hc => of_decide_eq_true (hletters c hc)⟩
    exact ⟨' ' :: run, rest', hsuffix, by rw [hrest, hrest', List.cons_append], by simp⟩
  · have hsame : r = p := List.mem_singleton.mp hr
    have hempty : ClassSuffix [] := Or.inl rfl
    refine ⟨[], p.rest, hempty, rfl, ?_⟩
    simp [hsame]

/-- If what follows cannot begin with a class letter, the group takes the whole class suffix. -/
theorem flatMap_suffixGroup {α : Type} {k : Progress → List α}
    (hk : ∀ front c rest groups, isClassLetter c = true → k ⟨front, c :: rest, groups⟩ = [])
    (groups : List Text) (front : Text) {suffix rest : Text} (hsuffix : ClassSuffix suffix)
    (hrest : ∃ more, rest = '-' :: more) :
    (ways suffixGroup ⟨front, suffix ++ rest, groups⟩).flatMap k =
      k ⟨front ++ suffix, rest, groups ++ [suffix]⟩ := by
  obtain ⟨more, rfl⟩ := hrest
  rcases hsuffix with rfl | ⟨run, rfl, hrun⟩
  · simp [suffixGroup, ways]
  · have hletters : ∀ c ∈ run, isClassLetter c = true := fun c hc => decide_eq_true (hrun c hc)
    have hstop : ∀ c ∈ ('-' :: more).head?, isClassLetter c = false := by
      rintro c ⟨⟩
      decide
    let close (q : Progress) : Progress :=
      { q with groups := q.groups ++ [q.front.drop front.length] }
    have hways : ways suffixGroup ⟨front, ' ' :: run ++ '-' :: more, groups⟩ =
        (repeated .greedy isClassLetter groups (front ++ [' ']) (run ++ '-' :: more) ++
          [Progress.mk front (' ' :: run ++ '-' :: more) groups]).map close := by
      have hrepeat : ways (sequence [one (· == ' '), many .greedy isClassLetter])
            ⟨front, ' ' :: run ++ '-' :: more, groups⟩ =
          repeated .greedy isClassLetter groups (front ++ [' ']) (run ++ '-' :: more) := by
        rw [ways_sequence_cons, List.cons_append, ways_one, if_pos (by rfl), List.flatMap_singleton]
        exact List.flatMap_singleton' _
      rw [← hrepeat]
      rfl
    have hblocked : ∀ front c rest groups, isClassLetter c = true →
        (fun q => k (close q)) ⟨front, c :: rest, groups⟩ = [] := fun front c rest groups hc =>
      hk front c rest _ hc
    rw [hways, List.flatMap_map, List.flatMap_append,
      flatMap_repeated_greedy hblocked groups _ hletters hstop, List.flatMap_singleton]
    have hnone : k (close ⟨front, ' ' :: run ++ '-' :: more, groups⟩) = [] :=
      hk front ' ' _ _ (by decide)
    rw [hnone, List.append_nil]
    simp [close]

theorem dashesAndEnd_blocked (front : Text) (c : Char) (rest : Text) (groups : List Text)
    (hc : isClassLetter c = true) :
    ways (sequence dashesAndEnd) ⟨front, c :: rest, groups⟩ = [] := by
  apply List.eq_nil_iff_forall_not_mem.mpr
  intro q hq
  obtain ⟨r, hr, -⟩ := exists_of_mem_append hq
  obtain ⟨run, rest', hrest, hleast, hrun, -⟩ := exists_of_mem_atLeast hr
  obtain ⟨d, run, rfl⟩ := List.exists_cons_of_length_pos hleast
  obtain ⟨rfl, -⟩ := List.cons.inj hrest
  have hd : c = '-' := by simpa [isDash] using hrun c List.mem_cons_self
  subst hd
  exact absurd hc (by decide)

theorem lineEnds_blocked (front : Text) (c : Char) (rest : Text) (groups : List Text)
    (hc : isDash c = true) : ways (sequence lineEnds) ⟨front, c :: rest, groups⟩ = [] := by
  apply List.eq_nil_iff_forall_not_mem.mpr
  intro q hq
  obtain ⟨lineEnd, hend, rest', hrest, -⟩ := exists_of_mem_lineEnds hq
  obtain rfl : c = '-' := by simpa [isDash] using hc
  rcases lineEnd_cases hend with rfl | rfl
  · exact absurd hrest (by simp)
  · exact absurd hrest (by simp)

theorem namedOpening_blocked (front : Text) (c : Char) (rest : Text) (groups : List Text)
    (hc : (c == ' ') = true) : ways (sequence namedOpening) ⟨front, c :: rest, groups⟩ = [] := by
  apply List.eq_nil_iff_forall_not_mem.mpr
  intro q hq
  obtain ⟨r, hr, -⟩ := exists_of_mem_append hq
  obtain ⟨rest', hrest, -⟩ := exists_of_mem_word hr
  obtain rfl : c = ' ' := by simpa using hc
  exact absurd hrest (by simp)

theorem indentedOpening_blocked (front : Text) (c : Char) (rest : Text) (groups : List Text)
    (hc : isDash c = true) : ways (sequence indentedOpening) ⟨front, c :: rest, groups⟩ = [] := by
  apply List.eq_nil_iff_forall_not_mem.mpr
  intro q hq
  obtain ⟨r, hr, hq⟩ := exists_of_mem_append hq
  obtain ⟨run, rest', hrest, -, hrun, rfl⟩ := exists_of_mem_atLeast hr
  obtain rfl : c = '-' := by simpa [isDash] using hc
  cases run with
  | nil =>
    obtain ⟨s, hs, -⟩ := exists_of_mem_append hq
    obtain ⟨rest'', hword, -⟩ := exists_of_mem_word hs
    have hboth : '-' :: rest = "datatable".toList ++ rest'' := hrest.trans hword
    exact absurd hboth (by simp)
  | cons d run =>
    obtain ⟨rfl, -⟩ := List.cons.inj hrest
    exact absurd (hrun '-' List.mem_cons_self) (by decide)

theorem ways_dashesAndEnd {closing : Nat} {lineEnd : Text} (hclosing : 1 ≤ closing)
    (hend : lineEnd ∈ [['\n'], ['\r', '\n']]) (front inner : Text) (groups : List Text) :
    ways (sequence dashesAndEnd) ⟨front, List.replicate closing '-' ++ (lineEnd ++ inner), groups⟩ =
      [⟨front ++ (List.replicate closing '-' ++ lineEnd), inner, groups⟩] := by
  have hstop : ∀ c ∈ (lineEnd ++ inner).head?, isDash c = false := by
    rcases lineEnd_cases hend with rfl | rfl
    · rintro c ⟨⟩
      decide
    · rintro c ⟨⟩
      decide
  rw [dashesAndEnd, ways_sequence_append,
    flatMap_atLeast groups front (by simpa using hclosing) (fun c => isDash_of_mem_replicate) hstop
      lineEnds_blocked,
    ways_lineEnds hend, List.append_assoc]

theorem ways_namedOpening {closing : Nat} {suffix lineEnd : Text} (hsuffix : ClassSuffix suffix)
    (hclosing : 1 ≤ closing) (hend : lineEnd ∈ [['\n'], ['\r', '\n']]) (front inner : Text)
    (groups : List Text) :
    ways (sequence namedOpening) ⟨front, "datatable".toList ++
        (suffix ++ (List.replicate closing '-' ++ (lineEnd ++ inner))), groups⟩ =
      [⟨front ++ ("datatable".toList ++ (suffix ++ (List.replicate closing '-' ++ lineEnd))), inner,
        groups ++ [suffix]⟩] := by
  have hdash : ∃ more, List.replicate closing '-' ++ (lineEnd ++ inner) = '-' :: more := by
    obtain ⟨n, rfl⟩ : ∃ n, closing = n + 1 := ⟨closing - 1, by omega⟩
    exact ⟨_, by rw [List.replicate_succ, List.cons_append]⟩
  rw [namedOpening, ways_sequence_append, ways_word, List.flatMap_singleton, ways_sequence_cons,
    flatMap_suffixGroup dashesAndEnd_blocked groups _ hsuffix hdash,
    ways_dashesAndEnd hclosing hend]
  simp only [List.append_assoc]

/-- An opening line has one way only: none of its repetitions can stop early. -/
theorem ways_openingLine {front line suffix : Text} (hstart : LineStart front)
    (opens : OpeningLine suffix line) (inner : Text) (groups : List Text) :
    ways (sequence openingLine) ⟨front, line ++ inner, groups⟩ =
      [⟨front ++ line, inner, groups ++ [suffix]⟩] := by
  obtain ⟨dashes, spaces, closing, lineEnd, hdashes, hsuffix, hclosing, hend⟩ := opens
  let named := "datatable".toList ++ (suffix ++ (List.replicate closing '-' ++ (lineEnd ++ inner)))
  have hspaces : ∀ c ∈ List.replicate spaces ' ', (c == ' ') = true := by
    intro c hc
    rw [List.eq_of_mem_replicate hc]
    rfl
  have hnamed : ∀ c ∈ named.head?, (c == ' ') = false := by
    rintro c ⟨⟩
    decide
  have hindented : ∀ c ∈ (List.replicate spaces ' ' ++ named).head?, isDash c = false := by
    cases spaces with
    | zero =>
      rintro c ⟨⟩
      decide
    | succ n =>
      rintro c ⟨⟩
      decide
  have hhere : List.replicate dashes '-' ++ (List.replicate spaces ' ' ++ ("datatable".toList ++
        (suffix ++ (List.replicate closing '-' ++ lineEnd)))) ++ inner =
      List.replicate dashes '-' ++ (List.replicate spaces ' ' ++ named) := by
    simp only [named, List.append_assoc]
  have hline : ∀ rest, ways lineStart ⟨front, rest, groups⟩ = [⟨front, rest, groups⟩] :=
    fun _ => if_pos hstart
  rw [hhere, openingLine, ways_sequence_cons, hline, List.flatMap_singleton, ways_sequence_append,
    flatMap_atLeast groups front (by simpa using hdashes) (fun c => isDash_of_mem_replicate)
      hindented indentedOpening_blocked,
    indentedOpening, ways_sequence_append,
    flatMap_atLeast groups _ (Nat.zero_le _) hspaces hnamed namedOpening_blocked,
    ways_namedOpening hsuffix hclosing hend]
  simp only [List.append_assoc]

theorem exists_of_mem_openingLine {p q : Progress} (h : q ∈ ways (sequence openingLine) p) :
    LineStart p.front ∧ ∃ suffix line inner, OpeningLine suffix line ∧ p.rest = line ++ inner ∧
      q.rest = inner := by
  obtain ⟨a, ha, hq⟩ := List.mem_flatMap.mp h
  have hstart : LineStart p.front ∧ a = p := by
    unfold ways at ha
    split at ha
    · exact ⟨‹_›, List.mem_singleton.mp ha⟩
    · exact absurd ha List.not_mem_nil
  obtain ⟨hstart, rfl⟩ := hstart
  obtain ⟨b, hb, hq⟩ := exists_of_mem_append hq
  obtain ⟨dashes, rest, hrest, hdashes, hall, rfl⟩ := exists_of_mem_atLeast hb
  obtain ⟨b, hb, hq⟩ := exists_of_mem_append hq
  obtain ⟨spaces, rest', hrest', -, hspaces, rfl⟩ := exists_of_mem_atLeast hb
  obtain ⟨b, hb, hq⟩ := exists_of_mem_append hq
  obtain ⟨named, hnamed, rfl⟩ := exists_of_mem_word hb
  obtain ⟨b, hb, hq⟩ := List.mem_flatMap.mp hq
  obtain ⟨suffix, tail, hsuffix, htail, rfl⟩ := exists_of_mem_suffixGroup hb
  obtain ⟨b, hb, hq⟩ := exists_of_mem_append hq
  obtain ⟨closing, tail', htail', hclosing, hdash, rfl⟩ := exists_of_mem_atLeast hb
  obtain ⟨lineEnd, hend, inner, hinner, rfl⟩ := exists_of_mem_lineEnds hq
  have hdashes' : dashes = List.replicate dashes.length '-' := eq_replicate_of_isDash hall
  have hspaces' : spaces = List.replicate spaces.length ' ' :=
    List.eq_replicate_of_mem fun c hc => by simpa using hspaces c hc
  have hclosing' : closing = List.replicate closing.length '-' := eq_replicate_of_isDash hdash
  simp only at hrest hrest' hnamed htail htail' hinner
  refine ⟨hstart, suffix, _, inner, .mk dashes.length spaces.length closing.length lineEnd hdashes
    hsuffix hclosing hend, ?_, rfl⟩
  rw [hrest, hrest', hnamed, htail, htail', hinner, ← hdashes', ← hspaces', ← hclosing']
  simp only [List.append_assoc]

theorem exists_of_mem_closingLine {p q : Progress} (h : q ∈ ways (sequence closingLine) p) :
    ∃ lineEnd ∈ [['\n'], ['\r', '\n']], ∃ later, p.rest = lineEnd ++ later ∧
      List.replicate 4 '-' <+: later := by
  obtain ⟨r, hr, h⟩ := exists_of_mem_append h
  obtain ⟨lineEnd, hend, later, hlater, rfl⟩ := exists_of_mem_lineEnds hr
  obtain ⟨run, rest, hrun, hleast, hall, -⟩ := exists_of_mem_atLeast h
  refine ⟨lineEnd, hend, later, hlater, ?_⟩
  have hfour : List.replicate 4 '-' <+: run := by
    rw [eq_replicate_of_isDash hall]
    exact replicate_isPrefix hleast
  have hlater' : later = run ++ rest := hrun
  rw [hlater']
  exact hfour.trans (List.prefix_append _ _)

/-- Whatever the expression matches begins with a block. -/
theorem starts_of_mem_blockExpression {front here : Text} {groups : List Text} {q : Progress}
    (h : q ∈ ways blockExpression ⟨front, here, groups⟩) : Starts front here := by
  obtain ⟨r, hr, h⟩ := exists_of_mem_append h
  obtain ⟨hstart, suffix, line, inner, opens, hhere, hinner⟩ := exists_of_mem_openingLine hr
  obtain ⟨s, hs, h⟩ := List.mem_flatMap.mp h
  obtain ⟨t, ht, rfl⟩ := List.mem_map.mp hs
  obtain ⟨body, rest, hbody, -, rfl⟩ := exists_of_mem_repeated ht
  obtain ⟨lineEnd, hend, later, hlater, hrule⟩ := exists_of_mem_closingLine h
  have hrest : rest = lineEnd ++ later := hlater
  have hnewline : ∃ earlier, inner = earlier ++ '\n' :: later := by
    rw [← hinner, hbody, hrest]
    rcases lineEnd_cases hend with rfl | rfl
    · exact ⟨body, rfl⟩
    · exact ⟨body ++ ['\r'], by simp⟩
  obtain ⟨earlier, hearlier⟩ := hnewline
  exact starts_iff.mpr ⟨hstart, suffix, line, inner, opens, hhere, fun hfree =>
    hfree earlier later hearlier hrule⟩

theorem head?_closingLine {lineEnd after : Text} {n : Nat} (hend : lineEnd ∈ [['\n'], ['\r', '\n']])
    (hn : 4 ≤ n) (hafter : after.head? ≠ some '-') (front : Text) (groups : List Text) :
    (ways (sequence closingLine)
        ⟨front, lineEnd ++ (List.replicate n '-' ++ after), groups⟩).head? =
      some ⟨front ++ lineEnd ++ List.replicate n '-', after, groups⟩ := by
  have hstop : ∀ c ∈ after.head?, isDash c = false := by
    intro c hc
    have hne : c ≠ '-' := by
      rintro rfl
      exact hafter hc
    simpa [isDash] using hne
  rw [closingLine, ways_sequence_append, ways_lineEnds hend, List.flatMap_singleton,
    head?_atLeast groups _ (by simpa using hn) (fun c => isDash_of_mem_replicate) hstop]

def closed (front : Text) (q : Progress) : Progress :=
  { q with groups := q.groups ++ [q.front.drop front.length] }

theorem closed_read (front read rest : Text) (groups : List Text) :
    closed front ⟨front ++ read, rest, groups⟩ = ⟨front ++ read, rest, groups ++ [read]⟩ := by
  simp [closed]

/-- The body stops at the first newline that has dashes behind it, or one before at a carriage
return. -/
theorem head?_body {inner body dashes after : Text} (closes : Closing inner body dashes after)
    (front read : Text) (groups : List Text) :
    ((repeated .lazy (fun _ => true) groups (front ++ read) inner).flatMap
        fun q => ways (sequence closingLine) (closed front q)).head? =
      some ⟨front ++ read ++ (body ++ '\n' :: dashes), after,
        groups ++ [read ++ dropFinal '\r' body]⟩ := by
  obtain ⟨n, hn, hdashes⟩ := closes.rule
  -- What was read of the body so far stands before the place and opens the group.
  induction body generalizing inner read with
  | nil =>
    have htext : inner = '\n' :: (dashes ++ after) := closes.text
    have hend : ['\n'] ∈ [['\n'], ['\r', '\n']] := List.mem_cons_self
    have hhead := head?_closingLine hend hn closes.whole (front ++ read) (groups ++ [read])
    rw [← hdashes] at hhead
    rw [htext, flatMap_repeated_lazy_cons _ _ _ _ rfl, closed_read, List.head?_append]
    rw [List.singleton_append] at hhead
    rw [hhead]
    simp [dropFinal]
  | cons c body ih =>
    obtain ⟨rest, rfl⟩ : ∃ rest, inner = c :: rest := ⟨_, closes.text⟩
    rw [flatMap_repeated_lazy_cons _ _ _ _ rfl, closed_read]
    by_cases hreturn : c = '\r' ∧ body = []
    · obtain ⟨rfl, rfl⟩ := hreturn
      have hrest : rest = '\n' :: (dashes ++ after) := (List.cons.inj closes.text).2
      have hend : ['\r', '\n'] ∈ [['\n'], ['\r', '\n']] := List.mem_cons_of_mem _ List.mem_cons_self
      have hhead := head?_closingLine hend hn closes.whole (front ++ read) (groups ++ [read])
      rw [← hdashes] at hhead
      rw [hrest, List.head?_append]
      rw [List.cons_append, List.singleton_append] at hhead
      rw [hhead]
      simp [dropFinal]
    · -- A way from here would close the body before its first such newline.
      have hearly : ways (sequence closingLine)
          ⟨front ++ read, c :: rest, groups ++ [read]⟩ = [] := by
        apply List.eq_nil_iff_forall_not_mem.mpr
        intro q hq
        obtain ⟨lineEnd, hend, later, hlater, hrule⟩ := exists_of_mem_closingLine hq
        have hcons : c :: rest = lineEnd ++ later := hlater
        rcases lineEnd_cases hend with rfl | rfl
        · have hlength := closes.first [] later hcons hrule
          simp at hlength
        · have hlength := closes.first ['\r'] later hcons hrule
          have hc : c = '\r' := (List.cons.inj hcons).1
          have hbody : body = [] := by simpa using hlength
          exact hreturn ⟨hc, hbody⟩
      have hdrop : dropFinal '\r' (c :: body) = c :: dropFinal '\r' body := by
        cases body with
        | nil =>
          have hc : c ≠ '\r' := fun hc => hreturn ⟨hc, rfl⟩
          simp [dropFinal, hc]
        | cons d body =>
          by_cases hlast : (d :: body).getLast? = some '\r'
          · simp [dropFinal, List.getLast?_cons_cons, hlast]
          · simp [dropFinal, List.getLast?_cons_cons, hlast]
      have hih := ih closes.of_cons (read ++ [c])
      rw [← List.append_assoc] at hih
      rw [hearly, List.nil_append, hih, hdrop]
      simp

theorem head?_blockExpression {front line suffix inner body dashes after : Text}
    (hstart : LineStart front) (opens : OpeningLine suffix line)
    (closes : Closing inner body dashes after) :
    (ways blockExpression ⟨front, line ++ inner, []⟩).head? =
      some ⟨front ++ line ++ (body ++ '\n' :: dashes), after, [suffix, dropFinal '\r' body]⟩ := by
  have hbody := head?_body closes (front ++ line) [] [suffix]
  rw [List.append_nil, List.nil_append] at hbody
  rw [blockExpression, ways_sequence_append, ways_openingLine hstart opens, List.flatMap_singleton,
    ways_sequence_cons, List.nil_append]
  have hgroup : ways (group (many .lazy fun _ => true)) ⟨front ++ line, inner, [suffix]⟩ =
      (repeated .lazy (fun _ => true) [suffix] (front ++ line) inner).map
        (closed (front ++ line)) := rfl
  rw [hgroup, List.flatMap_map, hbody]
  rfl

/-- Where a block stands, the preferred way takes that block. -/
theorem BlockAt.head?_blockExpression {front here after : Text} {block : Block}
    (h : BlockAt front here block after) :
    ∃ taken groups, here = taken ++ after ∧
      (ways blockExpression ⟨front, here, []⟩).head? = some ⟨front ++ taken, after, groups⟩ ∧
      ofFound? ⟨octets front, octets (front ++ taken), groups⟩ = some block := by
  obtain ⟨hstart, opens, closes⟩ := h
  rename_i suffix line inner body dashes
  refine ⟨line ++ (body ++ '\n' :: dashes), [suffix, dropFinal '\r' body], ?_, ?_, ?_⟩
  · rw [closes.text]
    simp
  · rw [Block.head?_blockExpression hstart opens closes, List.append_assoc]
  · simp [ofFound?]

/-- From any place on the leftmost matches of the expression are the blocks that are found. -/
theorem matchesFrom_blockExpression (front rest : Text) :
    (matchesFrom blockExpression front rest).filterMap ofFound? = scanFrom front rest := by
  induction hlen : rest.length using Nat.strong_induction_on generalizing front rest with
  | _ length ih =>
    by_cases hstarts : Starts front rest
    · obtain ⟨block, after, found⟩ := hstarts
      obtain ⟨taken, groups, rfl, hhead, hblock⟩ := found.head?_blockExpression
      obtain ⟨taken', htaken', hne, -, -⟩ := found.ends
      obtain rfl := List.append_cancel_right htaken'
      have hpos : 0 < taken.length := List.length_pos_iff.mpr hne
      have hshorter : after.length < (taken ++ after).length := by
        rw [List.length_append]
        omega
      rw [scanFrom_block found, matchesFrom_of_head? hhead hshorter,
        List.filterMap_cons_some hblock, ih _ (hlen ▸ hshorter) _ _ rfl]
    · have hnone : ways blockExpression ⟨front, rest, []⟩ = [] :=
        List.eq_nil_iff_forall_not_mem.mpr fun _ hq => hstarts (starts_of_mem_blockExpression hq)
      cases rest with
      | nil => rw [matchesFrom_nil, scanFrom_nil, List.filterMap_nil]
      | cons c rest =>
        have hshorter : rest.length < length := by
          rw [← hlen]
          exact Nat.lt_succ_self _
        rw [matchesFrom_of_nil hnone, scanFrom_skip hstarts, ih _ hshorter _ _ rfl]

/-- The blocks of a document are the declared ones, no other and none missed. They are also the
matches of the block expression, leftmost first and without overlap. -/
theorem find_iff_scanned (document : Text) (blocks : List Block) :
    (find document = blocks ↔ Scanned [] document blocks) ∧
      find document = (blockExpression.matchesOf document).filterMap ofFound? := by
  have hfind : find document = scanFrom [] document := rfl
  refine ⟨⟨?_, ?_⟩, ?_⟩
  · rintro rfl
    rw [hfind]
    exact scanned_scanFrom [] document
  · intro h
    rw [hfind, scanFrom_of_scanned h]
  · rw [hfind, matchesOf, matchesFrom_blockExpression]

end Block

end WikiPivot
