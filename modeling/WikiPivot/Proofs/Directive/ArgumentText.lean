import WikiPivot.Proofs.Directive.LineText

/-! # The text of an argument

What a line says behind the name of an instruction is a text in which marks are still escaped and
blanks not yet trimmed. Texts can be joined with commas, or cut at them, before they are read as
well as afterwards: no escape and no guard reaches over a comma.
-/
namespace WikiPivot

open Text

namespace Text

section

variable {mark : Char}

/-- A beginning without the mark stood there before the escapes were dropped. -/
theorem exists_of_unescape_append {front t rest : Text} (hfront : mark ∉ front)
    (h : unescape mark t = front ++ rest) :
    ∃ rest', t = front ++ rest' ∧ unescape mark rest' = rest := by
  induction front generalizing t with
  | nil => exact ⟨t, rfl, h⟩
  | cons c front ih =>
    obtain ⟨hc, hlater⟩ := not_or.mp (mt List.mem_cons.mpr hfront)
    cases t with
    | nil => exact absurd h (by simp [unescape])
    | cons d t =>
      rw [unescape_cons] at h
      split at h
      · exact absurd (List.cons.inj h).1 hc
      · obtain ⟨rfl, hrest⟩ := List.cons.inj h
        obtain ⟨rest', rfl, hread⟩ := ih hlater hrest
        exact ⟨rest', rfl, hread⟩

theorem getLast?_unescape (t : Text) : (unescape mark t).getLast? = t.getLast? := by
  induction t using unescape.induct mark with
  | case1 => rfl
  | case2 => rfl
  | case3 c d t hescape ih =>
    rw [unescape, if_pos hescape, List.getLast?_cons_cons, hescape.2, List.getLast?_cons,
      List.getLast?_cons, ih]
  | case4 c d t hplain ih =>
    rw [unescape, if_neg hplain, List.getLast?_cons, ih, List.getLast?_cons_cons,
      List.getLast?_cons]
    rfl

theorem unescape_sublist (t : Text) : (unescape mark t).Sublist t := by
  induction t using unescape.induct mark with
  | case1 => exact List.Sublist.refl _
  | case2 => exact List.Sublist.refl _
  | case3 c d t hescape ih =>
    rw [unescape, if_pos hescape, hescape.2]
    exact (ih.cons_cons mark).cons c
  | case4 c d t hplain ih =>
    rw [unescape, if_neg hplain]
    exact ih.cons_cons c

theorem trimmed_unescape (hmark : isBlank mark = false) {t : Text} (h : Trimmed t) :
    Trimmed (unescape mark t) where
  first := by
    intro c hc
    cases t with
    | nil => exact absurd hc (by simp [unescape])
    | cons d t =>
      rw [unescape_cons] at hc
      split at hc
      · obtain rfl : mark = c := by simpa using hc
        exact hmark
      · exact h.first c hc
  last := by
    intro c hc
    rw [getLast?_unescape] at hc
    exact h.last c hc

theorem unescape_trim (hmark : isBlank mark = false) (t : Text) :
    unescape mark (trim t) = trim (unescape mark t) := by
  have hplain : ∀ {blanks : Text}, Blanks blanks → unescape mark blanks = blanks :=
    fun hblanks => unescape_of_not_mem (hblanks.not_mem (by decide))
  obtain ⟨pre, post, hpre, hpost, ht⟩ := exists_trim t
  have hfront : pre.getLast? ≠ some '\\' := fun hlast =>
    hpre.not_mem (by decide) (List.mem_of_mem_getLast? hlast)
  have hback : post.head? ≠ some mark := fun hhead =>
    hpost.not_mem hmark (List.mem_of_mem_head? hhead)
  conv_rhs => rw [ht, unescape_append (Or.inl hfront), unescape_append (Or.inr hback),
    hplain hpre, hplain hpost]
  exact (trim_of_split hpre (trimmed_unescape hmark (trimmed_trim t)) hpost).symm

theorem pieces_unescape {comma : Char} (hcomma : comma ≠ mark) (hslash : comma ≠ '\\') (t : Text) :
    pieces comma (unescape mark t) = (pieces comma t).map (unescape mark) := by
  have hfree : ∀ {piece : Text}, comma ∉ piece → comma ∉ unescape mark piece :=
    fun hpiece hinside => hpiece ((unescape_sublist _).mem hinside)
  induction t using piece_induction comma with
  | last t ht => rw [pieces_of_not_mem ht, pieces_of_not_mem (hfree ht), List.map_singleton]
  | marked piece rest hpiece ih =>
    have hback : (comma :: rest).head? ≠ some mark := by simpa using hcomma
    have hhead : unescape mark (comma :: rest) = comma :: unescape mark rest := by
      rw [unescape_cons, if_neg fun hescape => hslash hescape.1]
    rw [unescape_append (Or.inr hback), hhead, pieces_append_cons (hfree hpiece), ih,
      pieces_append_cons hpiece, List.map_cons]

end

/-- Lowercasing takes no such mark out of a text, and trimming none. -/
theorem not_mem_of_not_mem_lowercase_trim {mark : Char} (hkept : Kept mark)
    (hmark : isBlank mark = false) {t : Text} (h : mark ∉ lowercase (trim t)) : mark ∉ t := by
  intro hmem
  obtain ⟨pre, post, hpre, hpost, ht⟩ := exists_trim t
  rw [ht, List.mem_append, List.mem_append] at hmem
  rcases hmem with hmem | hmem | hmem
  · exact hpre.not_mem hmark hmem
  · exact h (mem_lowercaseAfter_of_kept hkept hmem)
  · exact hpost.not_mem hmark hmem

end Text

namespace Directive

def Spells (name : Text) (instruction : Instruction) : Prop :=
  (lowercase (trim name), instruction) ∈ Instruction.aliases

instance (name : Text) (instruction : Instruction) : Decidable (Spells name instruction) :=
  inferInstanceAs (Decidable (_ ∈ _))

/-- Without its comment the line is a name of the instruction, a colon and this text. -/
def Carries (line : Text) (instruction : Instruction) (text : Text) : Prop :=
  ∃ name, Spells name instruction ∧ CommentCut line (name ++ ':' :: text)

def argumentOf (text : Text) : Text := unescape ':' (trim (unescape '#' text))

section

variable {name : Text} {instruction : Instruction}

theorem Spells.not_mem (h : Spells name instruction) {mark : Char}
    (hmark : mark ∈ ['#', ':', '\\']) : mark ∉ name := by
  have hother :
      (['#', ':', '\\'].all fun mark => !isAlphanumeric mark && !isBlank mark) = true := by
    decide +kernel
  obtain ⟨halphanumeric, hblank⟩ : isAlphanumeric mark = false ∧ isBlank mark = false := by
    simpa only [Bool.and_eq_true, Bool.not_eq_true'] using List.all_eq_true.mp hother mark hmark
  have plain := plainName_of_mem_aliases h
  apply not_mem_of_not_mem_lowercase_trim (kept_of_not_alphanumeric halphanumeric) hblank
  simp only [List.mem_cons, List.not_mem_nil, or_false] at hmark
  rcases hmark with rfl | rfl | rfl
  · exact plain.hash
  · exact plain.colon
  · exact plain.slash

theorem Spells.ne_nil (h : Spells name instruction) : trim name ≠ [] := by
  intro hnil
  have hall : ∀ entry ∈ Instruction.aliases, entry.1 ≠ lowercase [] := by decide
  rw [Spells, hnil] at h
  exact hall _ h rfl

end

/-- A name and a colon hold no escape, so what stands behind them is read by itself. -/
theorem Spells.trim_unescape {name : Text} {instruction : Instruction}
    (h : Spells name instruction) (text : Text) : ∃ left,
      trim (unescape '#' (name ++ ':' :: text)) =
        left ++ ':' :: trimRight (unescape '#' text) ∧
      trim left = trim name ∧ ':' ∉ left ∧ '\\' ∉ left := by
  obtain ⟨pre, post, hpre, hpost, hname⟩ := exists_trim name
  have hslash : '\\' ∉ name ++ [':'] := by
    have hname : '\\' ∉ name := h.not_mem (by decide)
    simpa using hname
  have hlast : (name ++ [':']).getLast? ≠ some '\\' := fun hlast =>
    hslash (List.mem_of_mem_getLast? hlast)
  have hcolon : Trimmed (trim name ++ (post ++ [':'])) :=
    (trimmed_trim name).append (trimmed_of_forall (by simp; decide)) h.ne_nil
      (List.cons_ne_nil _ _) post
  have hinside : ∀ c ∈ trim name ++ post, c ∈ name := by
    intro c hc
    rw [hname]
    exact List.mem_append_right pre hc
  have hfront : name ++ [':'] = pre ++ (trim name ++ (post ++ [':'])) := by
    conv_lhs => rw [hname]
    simp
  refine ⟨trim name ++ post, ?_, ?_, fun hc => h.not_mem (by decide) (hinside _ hc),
    fun hc => h.not_mem (by decide) (hinside _ hc)⟩
  · rw [← List.singleton_append, ← List.append_assoc, unescape_append (Or.inl hlast),
      unescape_of_not_mem hslash, hfront, List.append_assoc, trim_blanks_append hpre,
      trim_append hcolon (by simp [h.ne_nil])]
    simp
  · rw [trim_append_blanks hpost, trim_trim]

/-- A line gives the instruction that it carries a text for; the argument comes from the text. -/
theorem gives_iff_carries {line : Text} {instruction : Instruction} {argument : Text} :
    Gives line instruction argument ↔
      ∃ text, Carries line instruction text ∧ argument = argumentOf text := by
  constructor
  · rintro ⟨_, @⟨kept, left, right, hkept, htext, -, -⟩, hname⟩
    have spelt : Spells left instruction := hname
    obtain ⟨pre, post, hpre, hpost, htrim⟩ := exists_trim (unescape '#' kept)
    -- neither the blanks before the name nor the name nor the colon come from an escape
    have hfront : '#' ∉ pre ++ left ++ [':'] := by
      have hblank : '#' ∉ pre := hpre.not_mem (by decide)
      have hname : '#' ∉ left := spelt.not_mem (by decide)
      simp [hblank, hname]
    have hread : unescape '#' kept = pre ++ left ++ [':'] ++ (right ++ post) := by
      rw [htrim, htext]
      simp
    obtain ⟨text, hsplit, hrest⟩ := exists_of_unescape_append hfront hread
    have spelt' : Spells (pre ++ left) instruction := by
      rwa [Spells, trim_blanks_append hpre]
    refine ⟨text, ⟨pre ++ left, spelt', ?_⟩, ?_⟩
    · have hwhole : pre ++ left ++ ':' :: text = kept := by
        rw [hsplit]
        simp
      rwa [hwhole]
    · rw [argumentOf, hrest, trim_append_blanks hpost]
  · rintro ⟨text, ⟨name, spelt, hcut⟩, rfl⟩
    obtain ⟨left, hread, hname, hcolon, hslash⟩ := spelt.trim_unescape text
    have hfree : endsGuarded ['\\'] left = false := endsGuarded_of_forall fun c hc hguard =>
      hslash (List.mem_singleton.mp hguard ▸ hc)
    have hsays : Says line (lowercase (trim left))
        (unescape ':' (trim (trimRight (unescape '#' text)))) :=
      .mk hcut hread (noneLive_of_not_mem hcolon) hfree
    rw [hname, trim_trimRight] at hsays
    exact ⟨_, hsays, spelt⟩

/-- The argument is cut at the commas of the text. -/
theorem map_trim_pieces_argumentOf (text : Text) :
    (pieces ',' (argumentOf text)).map trim =
      (pieces ',' text).map fun piece => trim (unescape ':' (unescape '#' piece)) := by
  rw [argumentOf, unescape_trim (by decide), map_trim_pieces_trim (by decide),
    pieces_unescape (by decide) (by decide), pieces_unescape (by decide) (by decide),
    List.map_map, List.map_map]
  rfl

/-- No comment begins in a text that stands behind a colon. -/
def CommentFree (text : Text) : Prop := NoneLive '#' ['\\', '&'] [':'] text

/-- What stands before a mark that is no guard does not matter. -/
theorem noneLive_behind_iff {c : Char} (hhash : c ≠ '#') (hguard : c ∉ ['\\', '&'])
    (front text : Text) :
    NoneLive '#' ['\\', '&'] front (c :: text) ↔ CommentFree text := by
  have hfree : endsGuarded ['\\', '&'] (front ++ [c]) = endsGuarded ['\\', '&'] [':'] := by
    rw [endsGuarded_append_singleton]
    simpa [endsGuarded] using hguard
  rw [noneLive_cons_iff, noneLive_congr hfree]
  exact and_iff_right fun hc => absurd hc hhash

theorem commentFree_of_carries {line text : Text} {instruction : Instruction}
    (h : Carries line instruction text) : CommentFree text := by
  obtain ⟨name, -, hcut⟩ := h
  have hfree := (noneLive_append_iff.mp hcut.free).2
  exact (noneLive_behind_iff (by decide) (by decide) _ text).mp hfree

theorem carries_of_commentFree {name text : Text} {instruction : Instruction}
    (spelt : Spells name instruction) (h : CommentFree text) :
    Carries (name ++ ':' :: text) instruction text :=
  ⟨name, spelt, noneLive_append_iff.mpr ⟨noneLive_of_not_mem (spelt.not_mem (by decide)),
    (noneLive_behind_iff (by decide) (by decide) _ text).mpr h⟩, Or.inl rfl⟩

/-- No guard reaches over a comma. -/
theorem commentFree_intercalate_iff {texts : List Text} :
    CommentFree ([','].intercalate texts) ↔ ∀ text ∈ texts, CommentFree text := by
  induction texts with
  | nil => simp [CommentFree, noneLive_nil]
  | cons text texts ih =>
    cases texts with
    | nil => simp
    | cons next texts =>
      rw [List.forall_mem_cons, ← ih, List.intercalate_cons_cons, List.append_assoc,
        List.singleton_append, CommentFree, noneLive_append_iff,
        noneLive_behind_iff (by decide) (by decide)]
      rfl

/-- The texts can be carried by lines of their own if and only if one line can carry them joined. -/
theorem exists_carries_intercalate_iff {instruction : Instruction} {texts : List Text}
    (h : texts ≠ []) :
    (∃ line, Carries line instruction ([','].intercalate texts)) ↔
      ∀ text ∈ texts, ∃ line, Carries line instruction text := by
  constructor
  · rintro ⟨line, hcarries⟩ text htext
    have hfree := commentFree_intercalate_iff.mp (commentFree_of_carries hcarries)
    obtain ⟨name, spelt, -⟩ := hcarries
    exact ⟨_, carries_of_commentFree spelt (hfree text htext)⟩
  · intro hall
    obtain ⟨first, hfirst⟩ := List.exists_mem_of_ne_nil texts h
    obtain ⟨line, name, spelt, -⟩ := hall first hfirst
    refine ⟨_, carries_of_commentFree spelt (commentFree_intercalate_iff.mpr ?_)⟩
    intro text htext
    obtain ⟨line, hcarries⟩ := hall text htext
    exact commentFree_of_carries hcarries

end Directive

end WikiPivot
