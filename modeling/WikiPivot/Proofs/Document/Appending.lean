import WikiPivot.Proofs.Document.Lines

/-! # Documents that grow

What is appended to whole lines changes none of the blocks in them. At most it closes an opening
line that waits for its rule; where none waits, the appended text is searched as if it stood alone.
-/
namespace WikiPivot

namespace Block

open Text

def shift (count : Nat) (block : Block) : Block :=
  { block with start := count + block.start, stop := count + block.stop }

def Opens (t front : Text) : Prop :=
  LineStart front ∧ ∃ suffix line rest, OpeningLine suffix line ∧ t = front ++ (line ++ rest)

def Spans (block : Block) (front : Text) : Prop :=
  block.start ≤ octets front ∧ octets front < block.stop

instance (block : Block) (front : Text) : Decidable (block.Spans front) :=
  inferInstanceAs (Decidable (_ ∧ _))

theorem nextLine?_shift (count offset : Nat) (t : Text) :
    nextLine? (count + offset) t =
      (nextLine? offset t).map fun (next, rest) => (count + next, rest) := by
  induction t generalizing offset with
  | nil => rfl
  | cons c t ih =>
    rw [nextLine?, nextLine?]
    split
    · rfl
    · rw [Nat.add_assoc, ih]

theorem here?_shift (count offset : Nat) (t : Text) :
    here? (count + offset) t =
      (here? offset t).map fun (block, after) => (block.shift count, after) := by
  simp only [here?]
  cases opening? t with
  | none => rfl
  | some opened =>
    obtain ⟨suffix, inner⟩ := opened
    simp only [Option.bind_eq_bind, Option.bind_some]
    cases closing? inner with
    | none => rfl
    | some closed => simp [shift, Nat.add_assoc]

theorem scan_shift (count offset : Nat) (t : Text) :
    scan (count + offset) t = (scan offset t).map (shift count) := by
  induction hlen : t.length using Nat.strong_induction_on generalizing offset t with
  | _ length ih =>
    have hshift := here?_shift count offset t
    cases hhere : here? offset t with
    | none =>
      rw [hhere] at hshift
      rw [scan_of_none hshift, scan_of_none hhere, nextLine?_shift]
      cases hline : nextLine? offset t with
      | none => rfl
      | some found =>
        obtain ⟨next, rest⟩ := found
        exact ih _ (hlen ▸ nextLine?_length hline) next rest rfl
    | some found =>
      obtain ⟨block, after⟩ := found
      rw [hhere] at hshift
      rw [scan_of_some hshift, scan_of_some hhere, List.map_cons]
      have hstop : (block.shift count).stop = count + block.stop := rfl
      rw [hstop, nextLine?_shift]
      cases hline : nextLine? block.stop after with
      | none => rfl
      | some found =>
        obtain ⟨next, rest⟩ := found
        have hshorter := Nat.lt_of_lt_of_le (nextLine?_length hline) (here?_length hhere)
        exact congrArg _ (ih _ (hlen ▸ hshorter) next rest rfl)

/-- How a search of `t` goes on in an appended text: `settled` holds all blocks of `t`, and
`pending` is searched again together with what is appended. -/
structure Seam (offset : Nat) (t settled pending : Text) : Prop where
  text : t = settled ++ pending
  lineStart : LineStart settled
  scan_append : ∀ more, scan offset (t ++ more) =
    scan offset t ++ scan (offset + octets settled) (pending ++ more)
  stop_le : ∀ block ∈ scan offset t, block.stop ≤ offset + octets settled
  waits : pending = [] ∨ ∃ suffix line rest, OpeningLine suffix line ∧ pending = line ++ rest

theorem lineStart_append {front t : Text} (hfront : LineStart front) (h : LineStart t) :
    LineStart (front ++ t) := by
  rcases h with rfl | hlast
  · rwa [List.append_nil]
  · right
    rw [List.getLast?_append, hlast]
    rfl

theorem seam_nil (offset : Nat) : Seam offset [] [] [] where
  text := rfl
  lineStart := Or.inl rfl
  scan_append := by
    intro more
    have hnone : scan offset [] = [] := scan_of_none rfl
    rw [hnone]
    rfl
  stop_le := by
    have hnone : scan offset [] = [] := scan_of_none rfl
    rw [hnone]
    exact fun _ hblock => absurd hblock List.not_mem_nil
  waits := Or.inl rfl

/-- An opening line that nothing closes yet holds back the rest of the text. -/
theorem seam_waiting {line rest suffix : Text} (opens : OpeningLine suffix line)
    (h : closing? rest = none) (offset : Nat) : Seam offset (line ++ rest) [] (line ++ rest) := by
  have hhere : here? offset (line ++ rest) = none := by
    have hopening : opening? (line ++ rest) = some (suffix, rest) :=
      opening?_eq_some_iff.mpr ⟨line, opens, rfl⟩
    simp only [here?, Option.bind_eq_bind, hopening, Option.bind_some, h, Option.bind_none]
  have hnone : scan offset (line ++ rest) = [] := by
    obtain ⟨front, hfront, rfl⟩ := opens.exists_front
    rw [List.append_assoc, List.singleton_append] at hhere ⊢
    rw [scan_line hfront hhere, scan_eq_nil (closing?_eq_none_iff.mp h)]
  exact
    { text := rfl
      lineStart := Or.inl rfl
      scan_append := fun more => by rw [hnone]; rfl
      stop_le := by
        rw [hnone]
        exact fun _ hblock => absurd hblock List.not_mem_nil
      waits := Or.inr ⟨suffix, line, rest, opens, rfl⟩ }

structure Step (offset : Nat) (front rest : Text) (found : List Block) : Prop where
  takes : front ≠ []
  lineStart : LineStart front
  scan_append : ∀ more, scan offset (front ++ rest ++ more) =
    found ++ scan (offset + octets front) (rest ++ more)
  stop_le : ∀ block ∈ found, block.stop ≤ offset + octets front

theorem Seam.prepend {offset : Nat} {front rest settled pending : Text} {found : List Block}
    (step : Step offset front rest found)
    (seam : Seam (offset + octets front) rest settled pending) :
    Seam offset (front ++ rest) (front ++ settled) pending := by
  have hscan : scan offset (front ++ rest) = found ++ scan (offset + octets front) rest := by
    simpa using step.scan_append []
  have hoctets : offset + octets (front ++ settled) = offset + octets front + octets settled := by
    rw [octets_append, Nat.add_assoc]
  refine ⟨?_, lineStart_append step.lineStart seam.lineStart, ?_, ?_, seam.waits⟩
  · rw [List.append_assoc, ← seam.text]
  · intro more
    rw [step.scan_append, seam.scan_append, hscan, hoctets, List.append_assoc]
  · intro block hblock
    rw [hscan] at hblock
    rw [hoctets]
    rcases List.mem_append.mp hblock with hfound | hlater
    · exact Nat.le_trans (step.stop_le block hfound) (Nat.le_add_right _ _)
    · exact seam.stop_le block hlater

/-- A line that opens no block is passed over. -/
theorem step_line {line : Text} (h : '\n' ∉ line) {rest : Text}
    (hnone : ∀ suffix, ¬ OpeningLine suffix (line ++ ['\n'])) (offset : Nat) :
    Step offset (line ++ ['\n']) rest [] := by
  refine ⟨by simp, Or.inr (by simp), ?_, fun _ hblock => absurd hblock List.not_mem_nil⟩
  intro more
  have hopening : opening? (line ++ '\n' :: (rest ++ more)) = none := by
    rw [Option.eq_none_iff_forall_ne_some]
    rintro ⟨suffix, inner⟩ hsome
    exact hnone suffix ((opening?_line h).mp hsome).1
  have hhere : here? offset (line ++ '\n' :: (rest ++ more)) = none := by
    simp only [here?, Option.bind_eq_bind, hopening, Option.bind_none]
  have htext : line ++ ['\n'] ++ rest ++ more = line ++ '\n' :: (rest ++ more) := by simp
  rw [htext, scan_line h hhere, List.nil_append]

/-- A block is taken together with the rest of the line that it ends in. -/
theorem step_block {suffix opener inner body dashes line rest : Text} (h : '\n' ∉ line)
    (opens : OpeningLine suffix opener)
    (closes : Closing inner body dashes (line ++ '\n' :: rest)) (offset : Nat) :
    ∃ front block, opener ++ inner = front ++ rest ∧ Step offset front rest [block] := by
  let range := opener ++ (body ++ '\n' :: dashes)
  let block : Block := ⟨trim suffix, bodyLines body, offset, offset + octets range⟩
  have htext : opener ++ inner = range ++ (line ++ ['\n']) ++ rest := by
    rw [closes.text]
    simp [range]
  have hoctets : block.stop + octets (line ++ ['\n']) =
      offset + octets (range ++ (line ++ ['\n'])) := by
    simp only [block, octets_append, Nat.add_assoc]
  refine ⟨range ++ (line ++ ['\n']), block, htext, by simp, ?_, ?_, ?_⟩
  · right
    simp
  · intro more
    have hhere : here? offset (opener ++ inner ++ more) =
        some (block, line ++ '\n' :: (rest ++ more)) := by
      rw [here?_append opens closes (by simp), List.append_assoc, List.cons_append]
    rw [← htext, scan_block h hhere, hoctets, List.singleton_append]
  · intro found hfound
    obtain rfl := List.mem_singleton.mp hfound
    rw [← hoctets]
    exact Nat.le_add_right _ _

/-- Behind a rule the last line of whole lines goes on. -/
theorem Closing.exists_line {inner body dashes after : Text}
    (closes : Closing inner body dashes after) (h : LineStart inner) :
    ∃ line rest, '\n' ∉ line ∧ after = line ++ '\n' :: rest ∧ LineStart rest := by
  obtain ⟨more, rfl⟩ := closes.exists_dash
  have htext : inner = body ++ '\n' :: more ++ ['-'] ++ after := by simp [closes.text]
  rw [htext] at h
  have hne : after ≠ [] := by
    rintro rfl
    rw [List.append_nil, lineStart_append_singleton] at h
    exact absurd h (by decide)
  exact Block.exists_line h.of_append hne

/-- Whole lines end at a seam. -/
theorem exists_seam {t : Text} (h : LineStart t) (offset : Nat) :
    ∃ settled pending, Seam offset t settled pending := by
  induction hlen : t.length using Nat.strong_induction_on generalizing offset t with
  | _ length ih =>
    by_cases hne : t = []
    · subst hne
      exact ⟨[], [], seam_nil offset⟩
    · obtain ⟨line, rest, hline, rfl, hrest⟩ := exists_line h hne
      -- the search goes on behind what a step takes
      have hstep : ∀ front later found, line ++ '\n' :: rest = front ++ later →
          LineStart later → Step offset front later found →
          ∃ settled pending, Seam offset (line ++ '\n' :: rest) settled pending := by
        intro front later found htext hlater step
        have hshorter : later.length < length := by
          have hpos := List.length_pos_iff.mpr step.takes
          rw [← hlen, htext, List.length_append]
          omega
        obtain ⟨settled, pending, seam⟩ := ih _ hshorter hlater (offset + octets front) rfl
        exact ⟨front ++ settled, pending, htext ▸ seam.prepend step⟩
      have htext : line ++ '\n' :: rest = line ++ ['\n'] ++ rest := by simp
      by_cases hopens : ∃ suffix, OpeningLine suffix (line ++ ['\n'])
      · obtain ⟨suffix, opens⟩ := hopens
        cases hclosing : closing? rest with
        | none =>
          rw [htext]
          exact ⟨[], _, seam_waiting opens hclosing offset⟩
        | some closed =>
          obtain ⟨body, after⟩ := closed
          obtain ⟨dashes, closes⟩ := closing?_eq_some_iff.mp hclosing
          obtain ⟨last, later, hlast, rfl, hlater⟩ := closes.exists_line hrest
          obtain ⟨front, block, hfront, step⟩ := step_block hlast opens closes offset
          exact hstep front later [block] (htext.trans hfront) hlater step
      · have hnone : ∀ suffix, ¬ OpeningLine suffix (line ++ ['\n']) := not_exists.mp hopens
        exact hstep _ _ [] htext hrest (step_line hline hnone offset)

/-- The blocks of whole lines stay as they are when a text is appended. If every opening line among
those lines begins in the range of a block, the other blocks are those of the appended text, moved
behind the lines. -/
theorem appended_text_changes_no_block {t : Text} (whole : t = [] ∨ t.getLast? = some '\n')
    (more : Text) :
    find t <+: find (t ++ more) ∧
      ((∀ front, Opens t front → ∃ block ∈ find t, block.Spans front) →
        find (t ++ more) = find t ++ (find more).map (shift (octets t))) := by
  obtain ⟨settled, pending, seam⟩ := exists_seam whole 0
  have hscan : find (t ++ more) = find t ++ scan (0 + octets settled) (pending ++ more) :=
    seam.scan_append more
  refine ⟨hscan ▸ List.prefix_append _ _, ?_⟩
  intro hclosed
  -- an opening line that waits lies behind all blocks
  have hnone : pending = [] := by
    refine seam.waits.resolve_right ?_
    rintro ⟨suffix, line, rest, opens, hpending⟩
    have hopens : Opens t settled :=
      ⟨seam.lineStart, suffix, line, rest, opens, hpending ▸ seam.text⟩
    obtain ⟨block, hblock, -, hstop⟩ := hclosed settled hopens
    have hle := seam.stop_le block hblock
    omega
  have htext : t = settled := by rw [seam.text, hnone, List.append_nil]
  rw [hscan, hnone, List.nil_append, ← htext, Nat.zero_add]
  exact congrArg _ (scan_shift (octets t) 0 more)

/-- An opening line that closes the block before it is none for what is appended, and neither is the
rule directly under an opening line. -/
theorem line_behind_closing_opener_is_searched_alone :
    let t := "---- datatable a ----\n----\né: x\n---- datatable b ----\n".toList
    let more := "---- datatable c ----\n\n-----".toList
    let first : Block := ⟨"a".toList, ["----".toList, "é: x".toList], 0, 37⟩
    let second : Block := ⟨"c".toList, [[]], 55, 83⟩
    (t = [] ∨ t.getLast? = some '\n') ∧
      (∀ front, Opens t front → ∃ block ∈ find t, block.Spans front) ∧
      find t = [first] ∧ find t <+: find (t ++ more) ∧ find (t ++ more) = [first, second] := by
  intro t more first second
  have whole : t = [] ∨ t.getLast? = some '\n' := Or.inr (by decide +kernel)
  have hfirst : find t = [first] := by
    have hhere : here? 0 t = some (first, " datatable b ----\n".toList) := by decide +kernel
    have hline : '\n' ∉ " datatable b ----".toList := by decide
    rw [find, scan_block hline hhere]
    exact congrArg _ (scan_of_none rfl)
  have hsecond : find more = [⟨"c".toList, [[]], 0, 28⟩] := by
    have hhere : here? 0 more = some (⟨"c".toList, [[]], 0, 28⟩, []) := by decide +kernel
    rw [find, scan_of_some hhere]
    rfl
  have hclosed : ∀ front, Opens t front → ∃ block ∈ find t, block.Spans front := by
    have hall : ∀ n ∈ List.range (t.length + 1), LineStart (t.take n) →
        (opening? (t.drop n)).isSome → first.Spans (t.take n) := by decide +kernel
    rintro front ⟨hstart, suffix, line, rest, opens, htext⟩
    have hlength : front.length ∈ List.range (t.length + 1) := by
      rw [List.mem_range, htext, List.length_append]
      omega
    have htake : t.take front.length = front := by rw [htext, List.take_left]
    have hopening : opening? (t.drop front.length) = some (suffix, rest) := by
      rw [htext, List.drop_left]
      exact opening?_eq_some_iff.mpr ⟨line, opens, rfl⟩
    have hspans := hall _ hlength
    rw [htake, hopening] at hspans
    exact ⟨first, hfirst ▸ List.mem_singleton_self _, hspans hstart rfl⟩
  obtain ⟨hstay, hlocal⟩ := appended_text_changes_no_block whole more
  refine ⟨whole, hclosed, hfirst, hstay, ?_⟩
  rw [hlocal hclosed, hfirst, hsecond]
  decide +kernel

end Block

end WikiPivot
