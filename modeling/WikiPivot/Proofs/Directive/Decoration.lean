import WikiPivot.Proofs.Directive.LineText
import WikiPivot.Proofs.Directive.Reading

/-! # Blanks and comments

Blanks around a line and comments behind it change nothing, and a line that says nothing changes no
more than the numbers of the lines behind it.
-/
namespace WikiPivot

open Text

namespace Directive

inductive Decorated (line : Text) : Text → Prop where
  | bare : Decorated line line
  | before {blanks decorated : Text} : Blanks blanks → Decorated line decorated →
      Decorated line (blanks ++ decorated)
  | behind {blanks decorated : Text} : Blanks blanks → Decorated line decorated →
      Decorated line (decorated ++ blanks)
  | comment {decorated : Text} (comment : Text) : endsGuarded ['\\', '&'] decorated = false →
      Decorated line decorated → Decorated line (decorated ++ '#' :: comment)

/-- A line that is blank, a comment, or without a live colon in front of its comment. -/
inductive Silent : Text → Prop where
  | blank {line : Text} : Blanks line → Silent line
  | comment {blanks : Text} (comment : Text) : Blanks blanks → Silent (blanks ++ '#' :: comment)
  | colonless {line kept : Text} : CommentCut line kept → NoneLive ':' ['\\'] [] kept → Silent line

theorem isBlank_colonGuards : ∀ c ∈ ['\\'], isBlank c = false :=
  List.forall_mem_singleton.mpr (by decide)

theorem isBlank_hashGuards : ∀ c ∈ ['\\', '&'], isBlank c = false :=
  List.forall_mem_cons.mpr ⟨by decide, List.forall_mem_singleton.mpr (by decide)⟩

namespace CommentCut

variable {line kept blanks : Text}

theorem before (h : CommentCut line kept) (hblanks : Blanks blanks) :
    CommentCut (blanks ++ line) (blanks ++ kept) where
  free := noneLive_append_iff.mpr ⟨noneLive_of_not_mem (hblanks.not_mem (by decide)),
    (noneLive_behind_blanks_iff isBlank_hashGuards hblanks).mpr h.free⟩
  comment := by
    rcases h.comment with rfl | ⟨comment, rfl, hlive⟩
    · exact Or.inl rfl
    · refine Or.inr ⟨comment, (List.append_assoc ..).symm, ?_⟩
      rwa [endsGuarded_blanks_append isBlank_hashGuards hblanks]

/-- Blanks behind a line are behind what is kept of it, or belong to its comment. -/
theorem behind (h : CommentCut line kept) (hblanks : Blanks blanks) :
    ∃ blanks', Blanks blanks' ∧ CommentCut (line ++ blanks) (kept ++ blanks') := by
  rcases h.comment with rfl | ⟨comment, rfl, hlive⟩
  · exact ⟨blanks, hblanks, noneLive_append_iff.mpr
      ⟨h.free, noneLive_of_not_mem (hblanks.not_mem (by decide))⟩, Or.inl rfl⟩
  · refine ⟨[], blanks_nil, ?_⟩
    rw [List.append_nil]
    exact ⟨h.free, Or.inr ⟨comment ++ blanks, by simp, hlive⟩⟩

theorem commented (h : CommentCut line kept) (hlive : endsGuarded ['\\', '&'] line = false)
    (comment : Text) : CommentCut (line ++ '#' :: comment) kept := by
  rcases h.comment with rfl | ⟨comment', rfl, hlive'⟩
  · exact ⟨h.free, Or.inr ⟨comment, rfl, hlive⟩⟩
  · exact ⟨h.free, Or.inr ⟨comment' ++ '#' :: comment, by simp, hlive'⟩⟩

end CommentCut

theorem Decorated.instructionText?_eq {line decorated : Text} (h : Decorated line decorated) :
    instructionText? decorated = instructionText? line := by
  induction h with
  | bare => rfl
  | @before blanks decorated hblanks _ ih =>
    obtain ⟨kept, hkept⟩ := exists_commentCut decorated
    have hslash : '\\' ∉ blanks := hblanks.not_mem (by decide)
    have hlast : blanks.getLast? ≠ some '\\' := fun hlast =>
      hslash (List.mem_of_mem_getLast? hlast)
    rw [← ih, (hkept.before hblanks).instructionText?_eq, hkept.instructionText?_eq,
      unescape_append (Or.inl hlast), unescape_of_not_mem hslash,
      trim_blanks_append hblanks]
  | @behind blanks decorated hblanks _ ih =>
    obtain ⟨kept, hkept⟩ := exists_commentCut decorated
    obtain ⟨blanks', hblanks', hcut⟩ := hkept.behind hblanks
    have hhead : blanks'.head? ≠ some '#' := fun hhead =>
      hblanks'.not_mem (by decide) (List.mem_of_mem_head? hhead)
    rw [← ih, hcut.instructionText?_eq, hkept.instructionText?_eq,
      unescape_append (Or.inr hhead),
      unescape_of_not_mem (hblanks'.not_mem (by decide)), trim_append_blanks hblanks']
  | @comment decorated comment hlive _ ih =>
    obtain ⟨kept, hkept⟩ := exists_commentCut decorated
    rw [← ih, (hkept.commented hlive comment).instructionText?_eq, hkept.instructionText?_eq]

theorem Decorated.ofLine?_eq {line decorated : Text} (h : Decorated line decorated)
    (settings : DirectiveSettings) :
    Clause.ofLine? settings decorated = Clause.ofLine? settings line := by
  rw [Clause.ofLine?, Clause.ofLine?, h.instructionText?_eq]

/-- No colon comes alive where the backslashes before hashes are dropped. -/
theorem NoneLive.unescape_hash {front t : Text} (h : NoneLive ':' ['\\'] front t) :
    NoneLive ':' ['\\'] front (unescape '#' t) := by
  induction t using unescape.induct '#' generalizing front with
  | case1 => exact h
  | case2 c => exact h
  | case3 c d rest hescaped ih =>
    obtain ⟨rfl, rfl⟩ := hescaped
    rw [unescape, if_pos ⟨rfl, rfl⟩]
    have hrest := (noneLive_cons_iff.mp (noneLive_cons_iff.mp h).2).2
    have hfront : endsGuarded ['\\'] (front ++ ['\\'] ++ ['#']) =
        endsGuarded ['\\'] (front ++ ['#']) := by
      rw [endsGuarded_append_singleton, endsGuarded_append_singleton]
    refine noneLive_cons_iff.mpr ⟨fun hc => absurd hc (by decide), ?_⟩
    exact ih ((noneLive_congr hfront).mp hrest)
  | case4 c d rest hplain ih =>
    rw [unescape, if_neg hplain]
    obtain ⟨hfirst, hrest⟩ := noneLive_cons_iff.mp h
    exact noneLive_cons_iff.mpr ⟨hfirst, ih hrest⟩

theorem NoneLive.trim {t : Text} (h : NoneLive ':' ['\\'] [] t) :
    NoneLive ':' ['\\'] [] (trim t) := by
  obtain ⟨pre, post, hpre, -, ht⟩ := exists_trim t
  rw [ht] at h
  have hcore := (noneLive_append_iff.mp (noneLive_append_iff.mp h).2).1
  exact (noneLive_behind_blanks_iff isBlank_colonGuards hpre).mp hcore

namespace Silent

theorem exists_commentCut {line : Text} (h : Silent line) :
    ∃ kept, CommentCut line kept ∧ NoneLive ':' ['\\'] [] kept := by
  cases h with
  | blank hblanks =>
    exact ⟨line, ⟨noneLive_of_not_mem (hblanks.not_mem (by decide)), Or.inl rfl⟩,
      noneLive_of_not_mem (hblanks.not_mem (by decide))⟩
  | @comment blanks comment hblanks =>
    exact ⟨blanks, ⟨noneLive_of_not_mem (hblanks.not_mem (by decide)),
      Or.inr ⟨comment, rfl, endsGuarded_blanks isBlank_hashGuards hblanks⟩⟩,
      noneLive_of_not_mem (hblanks.not_mem (by decide))⟩
  | colonless hcut hnone => exact ⟨_, hcut, hnone⟩

theorem ofLine?_eq_none {line : Text} (h : Silent line) (settings : DirectiveSettings) :
    Clause.ofLine? settings line = none := by
  obtain ⟨kept, hcut, hnone⟩ := h.exists_commentCut
  have hcolon : cutLive? ':' ['\\'] false (Text.trim (unescape '#' kept)) = none :=
    (cutLive?_eq_none_iff []).mpr hnone.unescape_hash.trim
  rw [Clause.ofLine?, hcut.instructionText?_eq, nameAndArgument?, hcolon]
  rfl

end Silent

end Directive

def renumbered (count number : Nat) : Nat := if count < number then number + 1 else number

def Diagnostic.renumbered (count : Nat) : Diagnostic → Diagnostic
  | unknownOption line option => unknownOption (WikiPivot.renumbered count line) option
  | malformedFilter line argument problem =>
    malformedFilter (WikiPivot.renumbered count line) argument problem
  | headerCount headers columns => headerCount headers columns

namespace Directive

variable {settings : DirectiveSettings}

theorem diagnostic?_renumbered (count line : Nat) (clause : Clause) :
    clause.diagnostic? (renumbered count line) =
      (clause.diagnostic? line).map (·.renumbered count) := by
  cases clause <;> rfl

theorem map_renumbered_headersFor (settings : DirectiveSettings) (columns : List Column)
    (declared : List (List Text)) (count : Nat) :
    (headersFor settings columns declared).2.map (·.renumbered count) =
      (headersFor settings columns declared).2 := by
  rw [snd_headersFor]
  split <;> rfl

/-- The clauses behind a line that says nothing are counted on by one. -/
theorem clauses_insert {line : Text} (hnone : Clause.ofLine? settings line = none)
    (before after : List Text) :
    clauses settings 1 (before ++ line :: after) =
      (clauses settings 1 (before ++ after)).map fun (number, clause) =>
        (renumbered before.length number, clause) := by
  have hbefore : ∀ entry ∈ clauses settings 1 before,
      (renumbered before.length entry.1, entry.2) = id entry := by
    rintro ⟨number, clause⟩ hmem
    obtain ⟨-, hlast⟩ := bounds_of_mem_clauses hmem
    rw [renumbered, if_neg (by omega), id]
  have hafter : ∀ entry ∈ clauses settings (1 + before.length) after,
      (renumbered before.length entry.1, entry.2) = (entry.1 + 1, entry.2) := by
    rintro ⟨number, clause⟩ hmem
    obtain ⟨hfirst, -⟩ := bounds_of_mem_clauses hmem
    rw [renumbered, if_pos (by omega)]
  have hskip : clauses settings (1 + before.length) (line :: after) =
      clauses settings (1 + before.length + 1) after := by
    rw [clauses, hnone]
  rw [clauses_append, clauses_append settings 1 before after, List.map_append,
    List.map_congr_left hbefore, List.map_id, List.map_congr_left hafter, hskip,
    clauses_succ settings (1 + before.length)]

theorem read_insert {line : Text} (hnone : Clause.ofLine? settings line = none) (classes : Text)
    (before after : List Text) :
    let reading := read settings classes (before ++ after)
    read settings classes (before ++ line :: after) =
      { reading with diagnostics := reading.diagnostics.map (·.renumbered before.length) } := by
  intro reading
  let numbered := clauses settings 1 (before ++ after)
  have hfound : (numbered.map fun (number, clause) =>
      (renumbered before.length number, clause)).map Prod.snd = numbered.map Prod.snd := by
    rw [List.map_map]
    rfl
  have hreports : (numbered.map fun (number, clause) =>
        (renumbered before.length number, clause)).filterMap
          (fun (number, clause) => clause.diagnostic? number) =
      (numbered.filterMap fun (number, clause) => clause.diagnostic? number).map
        (·.renumbered before.length) := by
    rw [List.filterMap_map, List.map_filterMap]
    exact List.filterMap_congr fun (number, clause) _ =>
      diagnostic?_renumbered before.length number clause
  simp only [reading, read, clauses_insert hnone, numbered, hfound, hreports, List.map_append,
    map_renumbered_headersFor]

theorem blanks_and_comments_change_nothing (settings : DirectiveSettings) (classes : Text) :
    (∀ lines decorated, List.Forall₂ Decorated lines decorated →
      read settings classes decorated = read settings classes lines) ∧
    ∀ before line after, Silent line →
      let reading := read settings classes (before ++ after)
      read settings classes (before ++ line :: after) =
        { reading with diagnostics := reading.diagnostics.map (·.renumbered before.length) } := by
  constructor
  · intro lines decorated h
    have hsame := List.Forall₂.imp (fun _ _ hline => Decorated.ofLine?_eq hline settings) h
    simp only [read, clauses_congr hsame]
  · intro before line after h
    exact read_insert (h.ofLine?_eq_none settings) classes before after

/-- An escaped hash, an entity, a comment and a carriage return, and between the lines one whose
only live colon is in its comment. -/
theorem decorated_filters_are_reported_alike :
    let lines := ["filter: a\\#b # c".toList, "or: R&#39;s".toList, "x: 1".toList]
    let decorated := [" filter: a\\#b # c\r".toList, "or: R&#39;s#: \\".toList, "x: 1".toList]
    let line := "a\\: b # c: d".toList
    List.Forall₂ Decorated lines decorated ∧ Silent line ∧
      read {} [] decorated = read {} [] lines ∧
      (read {} [] lines).diagnostics = [.malformedFilter 1 "a#b".toList .missingComparator,
        .malformedFilter 2 "R&#39;s".toList .missingComparator, .unknownOption 3 ['x']] ∧
      (read {} [] (lines.take 1 ++ line :: lines.drop 1)).diagnostics =
        [.malformedFilter 1 "a#b".toList .missingComparator,
          .malformedFilter 3 "R&#39;s".toList .missingComparator, .unknownOption 4 ['x']] := by
  intro lines decorated line
  have hdecorated : List.Forall₂ Decorated lines decorated := by
    refine .cons ?_ (.cons ?_ (.cons .bare .nil))
    · have hspace : Blanks [' '] := blanks_singleton (by decide)
      have hreturn : Blanks ['\r'] := blanks_singleton (by decide)
      exact .before hspace (.behind hreturn .bare)
    · exact .comment ": \\".toList (by decide) .bare
  have hcut : CommentCut line "a\\: b ".toList :=
    { free := noneLive_of_not_mem (by decide)
      comment := Or.inr ⟨" c: d".toList, rfl, by decide⟩ }
  have hsilent : Silent line := .colonless hcut ((cutLive?_eq_none_iff []).mp (by decide))
  have hreported : (read {} [] lines).diagnostics =
      [.malformedFilter 1 "a#b".toList .missingComparator,
        .malformedFilter 2 "R&#39;s".toList .missingComparator, .unknownOption 3 ['x']] := by
    decide +kernel
  obtain ⟨hsame, hinserted⟩ := blanks_and_comments_change_nothing {} []
  refine ⟨hdecorated, hsilent, hsame lines decorated hdecorated, hreported, ?_⟩
  rw [hinserted (lines.take 1) line (lines.drop 1) hsilent, List.take_append_drop, hreported]
  rfl

end Directive

end WikiPivot
