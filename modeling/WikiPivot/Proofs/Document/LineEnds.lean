import WikiPivot.Pivot
import WikiPivot.Proofs.Directive.Escaping
import WikiPivot.Proofs.Document.Lines
import WikiPivot.Proofs.Text.Lines
import Mathlib.Data.List.Forall2

/-! # Line ends of a document

A document without carriage returns may be given one before each newline. The search then finds the
same directives, for an opening line, the end of a body and a body line each lose theirs.
-/
namespace WikiPivot

open Text

namespace Text

def withReturns (t : Text) : Text := replaceChar '\n' ['\r', '\n'] t

theorem withReturns_newline (t : Text) :
    withReturns ('\n' :: t) = '\r' :: '\n' :: withReturns t := rfl

theorem withReturns_cons {c : Char} (hc : c ≠ '\n') (t : Text) :
    withReturns (c :: t) = c :: withReturns t := by
  rw [withReturns, replaceChar, if_neg hc]
  rfl

theorem withReturns_of_not_mem {t : Text} (h : '\n' ∉ t) : withReturns t = t :=
  replaceChar_of_not_mem h _

theorem withReturns_line {line : Text} (h : '\n' ∉ line) (rest : Text) :
    withReturns (line ++ '\n' :: rest) = (line ++ ['\r']) ++ '\n' :: withReturns rest := by
  have hline : replaceChar '\n' ['\r', '\n'] line = line := replaceChar_of_not_mem h _
  rw [withReturns, replaceChar_append, hline, ← withReturns, withReturns_newline,
    List.append_assoc, List.singleton_append]

section

variable {p : Char → Bool} (hnewline : p '\n' = false) (hreturn : p '\r' = false)

include hnewline hreturn

theorem takeWhile_withReturns (t : Text) : (withReturns t).takeWhile p = t.takeWhile p := by
  induction t with
  | nil => rfl
  | cons c t ih =>
    by_cases hc : c = '\n'
    · subst hc
      rw [withReturns_newline, List.takeWhile_cons_of_neg (by simp [hreturn]),
        List.takeWhile_cons_of_neg (by simp [hnewline])]
    · rw [withReturns_cons hc, List.takeWhile_cons, List.takeWhile_cons, ih]

theorem dropWhile_withReturns (t : Text) :
    (withReturns t).dropWhile p = withReturns (t.dropWhile p) := by
  induction t with
  | nil => rfl
  | cons c t ih =>
    by_cases hc : c = '\n'
    · subst hc
      rw [withReturns_newline, List.dropWhile_cons_of_neg (by simp [hreturn]),
        List.dropWhile_cons_of_neg (by simp [hnewline]), withReturns_newline]
    · rw [withReturns_cons hc, List.dropWhile_cons, List.dropWhile_cons, ih]
      split
      · rfl
      · rw [withReturns_cons hc]

end

/-- The carriage returns stand at the ends of pieces. -/
theorem map_dropFinal_pieces_withReturns {t : Text} (h : '\r' ∉ t) :
    (pieces '\n' (withReturns t)).map (dropFinal '\r') =
      (pieces '\n' t).map (dropFinal '\r') := by
  induction t using piece_induction '\n' with
  | last t hfree => rw [withReturns_of_not_mem hfree]
  | marked line rest hfree ih =>
    have hbare : '\r' ∉ line := fun hmem => h (by simp [hmem])
    have hrest : '\r' ∉ rest := fun hmem => h (by simp [hmem])
    have hfree' : '\n' ∉ line ++ ['\r'] := by simpa using hfree
    rw [withReturns_line hfree, pieces_append_cons hfree', pieces_append_cons hfree, List.map_cons,
      List.map_cons, dropFinal_append_singleton, dropFinal_of_not_mem hbare, ih hrest]

end Text

namespace Block

theorem afterDashes?_withReturns (least : Nat) (t : Text) :
    afterDashes? least (withReturns t) = (afterDashes? least t).map withReturns := by
  rw [afterDashes?, afterDashes?, takeWhile_withReturns rfl rfl, dropWhile_withReturns rfl rfl]
  split <;> rfl

theorem rule_withReturns_iff {t : Text} :
    List.replicate 4 '-' <+: withReturns t ↔ List.replicate 4 '-' <+: t := by
  rw [← not_iff_not, ← afterDashes?_eq_none_iff, ← afterDashes?_eq_none_iff,
    afterDashes?_withReturns, Option.map_eq_none_iff]

/-- An opening line may have either line end. -/
theorem openingLine_return_iff {suffix line : Text} (h : '\r' ∉ line) :
    OpeningLine suffix (line ++ ['\r'] ++ ['\n']) ↔ OpeningLine suffix (line ++ ['\n']) := by
  have hcrlf : ['\r', '\n'] = ['\r'] ++ ['\n'] := rfl
  constructor
  · intro opens
    obtain ⟨bare, lineEnd, hend, hline, -, hfree, heither⟩ := opens.exists_bare
    rcases lineEnd_cases hend with rfl | rfl
    · obtain rfl := List.append_cancel_right hline
      exact absurd (by simp) hfree
    · rw [hcrlf, ← List.append_assoc] at hline
      obtain rfl := List.append_cancel_right (List.append_cancel_right hline)
      exact heither _ (by simp)
  · intro opens
    obtain ⟨bare, lineEnd, hend, hline, -, -, heither⟩ := opens.exists_bare
    rcases lineEnd_cases hend with rfl | rfl
    · obtain rfl := List.append_cancel_right hline
      rw [List.append_assoc, ← hcrlf]
      exact heither _ (by simp)
    · rw [hcrlf, ← List.append_assoc] at hline
      obtain rfl := List.append_cancel_right hline
      exact absurd (by simp) h

theorem opening?_withReturns {t : Text} (h : '\r' ∉ t) :
    opening? (withReturns t) =
      (opening? t).map fun (suffix, inner) => (suffix, withReturns inner) := by
  by_cases hline : '\n' ∈ t
  · obtain ⟨line, rest, rfl, hfree⟩ := List.eq_append_cons_of_mem hline
    have hfree' : '\n' ∉ line ++ ['\r'] := by simpa using hfree
    have hreturn : '\r' ∉ line := fun hmem => h (by simp [hmem])
    ext ⟨suffix, inner⟩
    rw [withReturns_line hfree, opening?_line hfree', openingLine_return_iff hreturn]
    simp only [Option.map_eq_some_iff, Prod.exists, opening?_line hfree, Prod.mk.injEq]
    constructor
    · rintro ⟨opens, rfl⟩
      exact ⟨suffix, rest, ⟨opens, rfl⟩, rfl, rfl⟩
    · rintro ⟨_, _, ⟨opens, rfl⟩, rfl, rfl⟩
      exact ⟨opens, rfl⟩
  · have hnone : opening? t = none := by
      rw [Option.eq_none_iff_forall_ne_some]
      rintro ⟨suffix, inner⟩ hsome
      exact hline (newline_mem_of_opening? hsome)
    rw [withReturns_of_not_mem hline, hnone]
    rfl

/-- The body of a block takes the carriage return before its last newline. -/
theorem closing?_withReturns (t : Text) :
    closing? (withReturns t) =
      (closing? t).map fun (body, after) => (withReturns body ++ ['\r'], withReturns after) := by
  have hfree : ∀ rest : Text, '\r' = '\n' → ¬ List.replicate 4 '-' <+: rest :=
    fun _ heq => absurd heq (by decide)
  induction t with
  | nil => rfl
  | cons c t ih =>
    by_cases hc : c = '\n'
    · subst hc
      rw [withReturns_newline, closing?_cons_of_no_rule (hfree _)]
      by_cases hrule : List.replicate 4 '-' <+: t
      · obtain ⟨found, hfound⟩ := exists_afterDashes? hrule
        have hreturned : afterDashes? 4 (withReturns t) = some (withReturns found) := by
          rw [afterDashes?_withReturns, hfound, Option.map_some]
        rw [closing?_cons_of_rule hfound, closing?_cons_of_rule hreturned]
        rfl
      · rw [closing?_cons_of_no_rule fun _ => hrule,
          closing?_cons_of_no_rule fun _ => mt rule_withReturns_iff.mp hrule, ih]
        simp [Option.map_map, Function.comp_def, withReturns_newline]
    · rw [withReturns_cons hc, closing?_cons_of_no_rule fun heq => absurd heq hc,
        closing?_cons_of_no_rule fun heq => absurd heq hc, ih]
      simp [Option.map_map, Function.comp_def, withReturns_cons hc]

theorem bodyLines_withReturns {body : Text} (h : '\r' ∉ body) :
    bodyLines (withReturns body ++ ['\r']) = bodyLines body := by
  rw [bodyLines, bodyLines, dropFinal_append_singleton, map_dropFinal_pieces_withReturns h,
    dropFinal_of_not_mem h]

def Alike (block block' : Block) : Prop :=
  block.classes = block'.classes ∧ block.lines = block'.lines

/-- In both documents the search sees the same at a place and goes on at places that correspond. -/
theorem here?_withReturns {t : Text} (h : '\r' ∉ t) (m n : Nat) :
    match here? m t with
    | some (block, after) => '\r' ∉ after ∧
        ∃ block', here? n (withReturns t) = some (block', withReturns after) ∧ Alike block block'
    | none => here? n (withReturns t) = none := by
  simp only [here?, Option.bind_eq_bind, opening?_withReturns h]
  cases hopening : opening? t with
  | none => rfl
  | some opened =>
    obtain ⟨suffix, inner⟩ := opened
    simp only [Option.map_some, Option.bind_some, closing?_withReturns]
    cases hclosing : closing? inner with
    | none => rfl
    | some closed =>
      obtain ⟨body, after⟩ := closed
      obtain ⟨line, -, rfl⟩ := opening?_eq_some_iff.mp hopening
      obtain ⟨dashes, closes⟩ := closing?_eq_some_iff.mp hclosing
      rw [closes.text] at h
      simp only [List.mem_append, List.mem_cons, not_or] at h
      obtain ⟨-, hbody, -, -, hafter⟩ := h
      exact ⟨hafter, _, rfl, rfl, (bodyLines_withReturns hbody).symm⟩

/-- If searches that begin at corresponding lines find blocks that are alike, so do those that go on
at the next line of either document. -/
theorem forall₂_nextLine?_withReturns {t : Text} (h : '\r' ∉ t)
    (alike : ∀ rest : Text, rest.length < t.length → '\r' ∉ rest →
      ∀ m n, List.Forall₂ Alike (scan m rest) (scan n (withReturns rest))) (m n : Nat) :
    List.Forall₂ Alike
      (match nextLine? m t with
        | some (next, rest) => scan next rest
        | none => [])
      (match nextLine? n (withReturns t) with
        | some (next, rest) => scan next rest
        | none => []) := by
  by_cases hline : '\n' ∈ t
  · obtain ⟨line, rest, rfl, hwhole⟩ := List.eq_append_cons_of_mem hline
    have hwhole' : '\n' ∉ line ++ ['\r'] := by simpa using hwhole
    have hrest : '\r' ∉ rest := fun hmem => h (by simp [hmem])
    have hshorter : rest.length < (line ++ '\n' :: rest).length := by
      rw [List.length_append, List.length_cons]
      omega
    rw [withReturns_line hwhole, nextLine?_append_cons hwhole, nextLine?_append_cons hwhole']
    exact alike rest hshorter hrest _ _
  · rw [withReturns_of_not_mem hline, nextLine?_of_not_mem hline, nextLine?_of_not_mem hline]
    exact .nil

/-- The search finds blocks that are alike, one by one. -/
theorem scan_withReturns {t : Text} (h : '\r' ∉ t) (m n : Nat) :
    List.Forall₂ Alike (scan m t) (scan n (withReturns t)) := by
  induction hlen : t.length using Nat.strong_induction_on generalizing m n t with
  | _ length ih =>
    have hhere := here?_withReturns h m n
    cases hblock : here? m t with
    | none =>
      rw [hblock] at hhere
      rw [scan_of_none hblock, scan_of_none hhere]
      exact forall₂_nextLine?_withReturns h
        (fun rest hshorter hrest m n => ih _ (hlen ▸ hshorter) hrest m n rfl) m n
    | some found =>
      obtain ⟨block, after⟩ := found
      rw [hblock] at hhere
      obtain ⟨hafter, block', hblock', halike⟩ := hhere
      rw [scan_of_some hblock, scan_of_some hblock']
      refine .cons halike (forall₂_nextLine?_withReturns hafter ?_ _ _)
      intro rest hshorter hrest m n
      exact ih _ (hlen ▸ Nat.lt_of_lt_of_le hshorter (here?_length hblock)) hrest m n rfl

/-- A document without carriage returns has as many blocks once each newline has one before it. They
have the same classes and lines in the same order, so they are read alike under all settings and
lead to the same statement. -/
theorem carriage_returns_change_no_block {t : Text} (bare : '\r' ∉ t) :
    (find (withReturns t)).length = (find t).length ∧
      List.Forall₂
        (fun block block' => block.classes = block'.classes ∧ block.lines = block'.lines ∧
          ∀ settings : Settings, settings.readBlock block = settings.readBlock block' ∧
            ∀ parameter,
              (settings.query (settings.readBlock block).spec parameter).sql settings.store =
                (settings.query (settings.readBlock block').spec parameter).sql settings.store)
        (find t) (find (withReturns t)) := by
  have halike := scan_withReturns bare 0 0
  refine ⟨halike.length_eq.symm, halike.imp ?_⟩
  rintro block block' ⟨hclasses, hlines⟩
  have hread : ∀ settings : Settings, settings.readBlock block = settings.readBlock block' := by
    intro settings
    rw [Settings.readBlock, Settings.readBlock, hclasses, hlines]
  exact ⟨hclasses, hlines, fun settings => ⟨hread settings, fun _ => by rw [hread]⟩⟩

/-- A rule and an empty line in the first block, and nothing but an empty line in the second. -/
theorem empty_lines_survive_carriage_returns :
    let t := "x\n---- datatable a ----\n----\n\ncols: y\n-----\n---- datatable ----\n\n----".toList
    '\r' ∉ t ∧
      find t = [⟨"a".toList, ["----".toList, [], "cols: y".toList], 2, 43⟩, ⟨[], [[]], 44, 69⟩] ∧
      ∃ first second, find (withReturns t) = [first, second] ∧
        first.classes = "a".toList ∧ first.lines = ["----".toList, [], "cols: y".toList] ∧
        second.classes = [] ∧ second.lines = [[]] := by
  intro t
  have bare : '\r' ∉ t := by decide +kernel
  have hfind : find t =
      [⟨"a".toList, ["----".toList, [], "cols: y".toList], 2, 43⟩, ⟨[], [[]], 44, 69⟩] := by
    let opened :=
      "---- datatable a ----\n----\n\ncols: y\n-----\n---- datatable ----\n\n----".toList
    let later := "---- datatable ----\n\n----".toList
    have htext : t = "x".toList ++ '\n' :: opened := by decide +kernel
    have hline : here? 0 ("x".toList ++ '\n' :: opened) = none := by decide +kernel
    have hfirst : here? 2 opened = some (⟨"a".toList, ["----".toList, [], "cols: y".toList], 2, 43⟩,
        [] ++ '\n' :: later) := by decide +kernel
    have hsecond : here? 44 later = some (⟨[], [[]], 44, 69⟩, []) := by decide +kernel
    have hfree : '\n' ∉ "x".toList := by decide
    rw [find, htext, scan_line hfree hline]
    change scan 2 opened = _
    rw [scan_block List.not_mem_nil hfirst]
    change _ :: scan 44 later = _
    rw [scan_of_some hsecond]
    rfl
  obtain ⟨-, halike⟩ := carriage_returns_change_no_block bare
  rw [hfind, List.forall₂_cons_left_iff] at halike
  obtain ⟨first, rest, ⟨hclasses, hlines, -⟩, hrest, hfound⟩ := halike
  obtain ⟨second, none, ⟨hclasses', hlines', -⟩, hnone, rfl⟩ := List.forall₂_cons_left_iff.mp hrest
  obtain rfl := List.forall₂_nil_left_iff.mp hnone
  exact ⟨bare, hfind, first, second, hfound, hclasses.symm, hlines.symm, hclasses'.symm,
    hlines'.symm⟩

end Block

end WikiPivot
