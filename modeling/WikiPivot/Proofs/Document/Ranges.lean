import WikiPivot.Proofs.Document.Scan

/-! # Ranges of blocks

The blocks of a document stand one behind the other, each at the start of a line. What a range holds
is a block by itself, for the text around it decides neither where it begins nor where it ends.
-/
namespace WikiPivot

namespace Text

/-- The characters that lie wholly in the first `count` octets. -/
def takeOctets (count : Nat) : Text → Text
  | [] => []
  | c :: t => if c.utf8Size ≤ count then c :: takeOctets (count - c.utf8Size) t else []

def dropOctets (count : Nat) : Text → Text
  | [] => []
  | c :: t => if c.utf8Size ≤ count then dropOctets (count - c.utf8Size) t else c :: t

def slice (start stop : Nat) (t : Text) : Text := takeOctets (stop - start) (dropOctets start t)

theorem takeOctets_append (s t : Text) : takeOctets (octets s) (s ++ t) = s := by
  induction s with
  | nil =>
    cases t with
    | nil => rfl
    | cons c t =>
      have hsize := c.utf8Size_pos
      rw [octets, List.nil_append, takeOctets, if_neg (by omega)]
  | cons c s ih =>
    rw [octets, List.cons_append, takeOctets, if_pos (Nat.le_add_right _ _),
      Nat.add_sub_cancel_left, ih]

theorem dropOctets_append (s t : Text) : dropOctets (octets s) (s ++ t) = t := by
  induction s with
  | nil =>
    cases t with
    | nil => rfl
    | cons c t =>
      have hsize := c.utf8Size_pos
      rw [octets, List.nil_append, dropOctets, if_neg (by omega)]
  | cons c s ih =>
    rw [octets, List.cons_append, dropOctets, if_pos (Nat.le_add_right _ _),
      Nat.add_sub_cancel_left, ih]

theorem slice_append (front taken after : Text) :
    slice (octets front) (octets (front ++ taken)) (front ++ (taken ++ after)) = taken := by
  rw [slice, dropOctets_append, octets_append, Nat.add_sub_cancel_left, takeOctets_append]

theorem octets_pos {t : Text} (h : t ≠ []) : 0 < octets t := by
  obtain ⟨c, rest, rfl⟩ := List.exists_cons_of_ne_nil h
  have hsize := c.utf8Size_pos
  rw [octets]
  omega

/-- Of two places in one text the one with fewer octets before it comes first. -/
theorem prefix_of_octets_le {s t s' t' : Text} (h : s ++ s' = t ++ t') (hle : octets s ≤ octets t) :
    s <+: t := by
  have hprefix : t <+: s ++ s' := h ▸ List.prefix_append t t'
  rcases List.prefix_or_prefix_of_prefix (List.prefix_append s s') hprefix with hst | ⟨more, rfl⟩
  · exact hst
  · obtain rfl : more = [] := by
      by_contra hne
      have hpos := octets_pos hne
      rw [octets_append] at hle
      omega
    exact ⟨[], by rw [List.append_nil, List.append_nil]⟩

end Text

namespace Block

open Text

/-- Every block that is declared from a place on stands at that place or behind it. -/
theorem Scanned.exists_blockAt {front rest : Text} {blocks : List Block}
    (h : Scanned front rest blocks) : ∀ block ∈ blocks, ∃ skipped taken after,
      rest = skipped ++ (taken ++ after) ∧
        BlockAt (front ++ skipped) (taken ++ after) block after := by
  induction h with
  | done => exact fun _ hblock => absurd hblock List.not_mem_nil
  | @next front skipped taken after found blocks _ hfound _ ih =>
    refine List.forall_mem_cons.mpr ⟨⟨skipped, taken, after, rfl, hfound⟩, ?_⟩
    intro block hblock
    obtain ⟨between, taken', after', rfl, hat⟩ := ih block hblock
    refine ⟨skipped ++ taken ++ between, taken', after', by simp only [List.append_assoc], ?_⟩
    simpa only [List.append_assoc] using hat

theorem BlockAt.start_eq {front here after : Text} {block : Block}
    (h : BlockAt front here block after) : block.start = octets front := by
  obtain ⟨-, -, -⟩ := h
  rfl

theorem BlockAt.stop_eq {front taken after : Text} {block : Block}
    (h : BlockAt front (taken ++ after) block after) :
    block.stop = octets (front ++ taken) ∧ taken ≠ [] ∧ ¬ LineStart (front ++ taken) := by
  obtain ⟨taken', htaken, hne, hstop, hinside⟩ := h.ends
  obtain rfl := List.append_cancel_right htaken
  exact ⟨hstop, hne, hinside⟩

/-- A block begins behind the end of the block before it, since it begins a line and no block ends
one. -/
theorem Scanned.pairwise {front rest : Text} {blocks : List Block}
    (h : Scanned front rest blocks) : blocks.Pairwise fun a b => a.stop < b.start := by
  induction h with
  | done => exact List.Pairwise.nil
  | @next front skipped taken after found blocks _ hfound hlater ih =>
    refine List.Pairwise.cons ?_ ih
    intro block hblock
    obtain ⟨between, taken', after', rfl, hat⟩ := hlater.exists_blockAt block hblock
    obtain ⟨hstop, -, hinside⟩ := hfound.stop_eq
    have hne : between ≠ [] := by
      rintro rfl
      have hstart := hat.lineStart
      rw [List.append_nil] at hstart
      exact hinside hstart
    have hpos := octets_pos hne
    rw [hat.start_eq, hstop, octets_append _ between]
    omega

/-- The same body closes with the same dashes when less follows them. -/
theorem Closing.of_append {inner body dashes after more : Text}
    (closes : Closing inner body dashes (after ++ more)) :
    Closing (body ++ '\n' :: (dashes ++ after)) body dashes after where
  text := rfl
  rule := closes.rule
  whole := fun h => closes.whole (List.mem_head?_append_of_mem_head? h)
  first := by
    intro earlier later htext hrule
    have hinner : inner = earlier ++ '\n' :: (later ++ more) := by
      have happend := congrArg (· ++ more) htext
      simpa [closes.text] using happend
    exact closes.first earlier (later ++ more) hinner (hrule.trans (List.prefix_append _ _))

/-- The text that a block takes is such a block at any start of a line, also if less follows. -/
theorem BlockAt.moved {front front' taken after more : Text} {block : Block}
    (h : BlockAt front (taken ++ (after ++ more)) block (after ++ more))
    (hstart : LineStart front') :
    BlockAt front' (taken ++ after)
      ⟨block.classes, block.lines, octets front', octets (front' ++ taken)⟩ after := by
  generalize hrest : after ++ more = rest at h
  generalize hhere : taken ++ rest = here at h
  cases h with
  | @mk suffix line inner body dashes _ _ opens closes =>
    obtain rfl : taken = line ++ (body ++ '\n' :: dashes) := by
      have hboth : taken ++ rest = line ++ (body ++ '\n' :: dashes) ++ rest := by
        rw [hhere, closes.text]
        simp
      exact List.append_cancel_right hboth
    subst hrest
    have hmoved := BlockAt.mk hstart opens closes.of_append
    simpa only [List.append_assoc, List.cons_append] using hmoved

theorem BlockAt.of_append {front taken after more : Text} {block : Block}
    (h : BlockAt front (taken ++ (after ++ more)) block (after ++ more)) :
    BlockAt front (taken ++ after) block after := by
  have hmoved := h.moved h.lineStart
  rwa [← h.start_eq, ← h.stop_eq.1] at hmoved

/-- A block is found by itself in the text that it takes. -/
theorem BlockAt.find_alone {front taken after : Text} {block : Block}
    (h : BlockAt front (taken ++ after) block after) :
    find taken = [⟨block.classes, block.lines, 0, octets taken⟩] := by
  have halone : BlockAt [] (taken ++ []) ⟨block.classes, block.lines, 0, octets taken⟩ [] :=
    h.moved (Or.inl rfl)
  have hscan : find taken = scanFrom [] (taken ++ []) := by
    rw [List.append_nil]
    rfl
  rw [hscan, scanFrom_block halone, scanFrom_nil]

/-- The range of a block in a document. It begins and ends between characters and holds a text. -/
structure RangeIn (t : Text) (block : Block) : Prop where
  nonempty : block.start < block.stop
  within : block.stop ≤ octets t
  lineStart : LineStart (takeOctets block.start t)
  start : octets (takeOctets block.start t) = block.start
  stop : octets (takeOctets block.stop t) = block.stop
  /-- What the range holds is this block and nothing else. -/
  alone : find (slice block.start block.stop t) =
    [⟨block.classes, block.lines, 0, octets (slice block.start block.stop t)⟩]

theorem BlockAt.rangeIn {front taken after : Text} {block : Block}
    (h : BlockAt front (taken ++ after) block after) :
    RangeIn (front ++ (taken ++ after)) block := by
  obtain ⟨hstop, hne, -⟩ := h.stop_eq
  have hstart := h.start_eq
  have hpos := octets_pos hne
  have hfront : takeOctets block.start (front ++ (taken ++ after)) = front := by
    rw [hstart, takeOctets_append]
  have hbehind : takeOctets block.stop (front ++ (taken ++ after)) = front ++ taken := by
    rw [hstop, ← List.append_assoc, takeOctets_append]
  have hslice : slice block.start block.stop (front ++ (taken ++ after)) = taken := by
    rw [hstart, hstop, slice_append]
  constructor
  case nonempty =>
    rw [hstart, hstop, octets_append]
    omega
  case within =>
    rw [hstop, ← List.append_assoc, octets_append (front ++ taken)]
    exact Nat.le_add_right _ _
  case lineStart =>
    rw [hfront]
    exact h.lineStart
  case start => rw [hfront, hstart]
  case stop => rw [hbehind, hstop]
  case alone => rw [hslice, h.find_alone]

/-- The blocks of a document do not overlap and stand in the order in which they are found. Each
begins a line, and its range alone is a document with this one block. -/
theorem ranges_are_ordered_and_self_contained (t : Text) :
    (find t).Pairwise (fun a b => a.stop < b.start) ∧ ∀ block ∈ find t, RangeIn t block := by
  have hscanned : Scanned [] t (find t) := scanned_scanFrom [] t
  refine ⟨hscanned.pairwise, ?_⟩
  intro block hblock
  obtain ⟨skipped, taken, after, rfl, hat⟩ := hscanned.exists_blockAt block hblock
  exact hat.rangeIn

end Block

end WikiPivot
