import WikiPivot.Proofs.Directive.Accounts
import WikiPivot.Proofs.Directive.ArgumentText
import WikiPivot.Proofs.Directive.NormalForms
import WikiPivot.Proofs.Query.Keys

/-! # Where keys come from

Every key that a directive mentions is, in lowercase, a part of one of its lines. What escapes,
trims and cuts drop may have stood inside that part, and the marker of a sort in front of it, but
nothing is put in.
-/
namespace WikiPivot

open Text

/-- The key stands in the text: in lowercase it is a part of it, or the end of one. -/
def KeyIn (t key : Text) : Prop := ∃ word, word.Sublist t ∧ key <:+ lowercase word

theorem KeyIn.mono {t t' key : Text} (h : KeyIn t key) (hsub : t.Sublist t') : KeyIn t' key := by
  obtain ⟨word, hword, hkey⟩ := h
  exact ⟨word, hword.trans hsub, hkey⟩

/-- Lowercasing makes no NUL, so a key has one only if the text does. -/
theorem KeyIn.nul_not_mem {t key : Text} (h : KeyIn t key) (ht : '\x00' ∉ t) : '\x00' ∉ key := by
  obtain ⟨word, hword, hkey⟩ := h
  exact fun hnul => nul_not_mem_lowercase (fun hmem => ht (hword.mem hmem)) (hkey.mem hnul)

namespace Text

theorem trim_sublist (t : Text) : (trim t).Sublist t := by
  obtain ⟨pre, post, -, -, ht⟩ := exists_trim t
  conv_rhs => rw [ht]
  exact (List.sublist_append_left _ post).trans (List.sublist_append_right pre _)

theorem sublist_of_mem_pieces {mark : Char} {t piece : Text} (h : piece ∈ pieces mark t) :
    piece.Sublist t := by
  induction t using piece_induction mark with
  | last t ht =>
    rw [pieces_of_not_mem ht] at h
    rw [List.mem_singleton.mp h]
  | marked first rest hfirst ih =>
    rw [pieces_append_cons hfirst] at h
    rcases List.mem_cons.mp h with rfl | hrest
    · exact List.sublist_append_left _ _
    · exact ((ih hrest).trans (List.sublist_cons_self mark rest)).trans
        (List.sublist_append_right first _)

end Text

theorem ColumnMention.keyIn_ofToken (sentinel token : Text) :
    KeyIn token (ofToken sentinel token).key :=
  ⟨_, (List.takeWhile_sublist _).trans (trim_sublist token), List.suffix_refl _⟩

theorem SortKey.keyIn_of_parse? {sentinel token : Text} {marker : Char} {sort : SortKey}
    (h : parse? sentinel marker token = some sort) : KeyIn token sort.key := by
  obtain ⟨word, hword, hkey⟩ := ColumnMention.keyIn_ofToken sentinel token
  refine ⟨word, hword, List.IsSuffix.trans ?_ hkey⟩
  rw [← parameter_of_parse? h, parameter]
  split
  · exact List.suffix_refl _
  · exact List.suffix_cons marker sort.key

namespace Directive

theorem Says.argument_sublist {line name argument : Text} (h : Says line name argument) :
    argument.Sublist line := by
  obtain @⟨kept, left, right, hkept, htext, -, -⟩ := h
  have hbefore : kept.Sublist line := by
    rcases hkept.comment with rfl | ⟨comment, rfl, -⟩
    · exact List.Sublist.refl _
    · exact List.sublist_append_left kept _
  have hright : right.Sublist (trim (unescape '#' kept)) := by
    rw [htext]
    exact (List.sublist_cons_self ':' right).trans (List.sublist_append_right left _)
  calc
    (unescape ':' (trim right)).Sublist (trim right) := unescape_sublist _
    List.Sublist _ right := trim_sublist right
    List.Sublist _ (trim (unescape '#' kept)) := hright
    List.Sublist _ (unescape '#' kept) := trim_sublist _
    List.Sublist _ kept := unescape_sublist kept
    List.Sublist _ line := hbefore

namespace Clause

def keys : Clause → List Text
  | select columns => columns.map (·.key)
  | sort key => key.toList.map (·.key)
  | filter condition => [condition.key]
  | _ => []

theorem keyIn_ofFilter (sentinel : Text) (logic : Logic) (argument : Text) :
    ∀ key ∈ (ofFilter sentinel logic argument).keys, KeyIn argument key := by
  have houtcome := filterOutcome_ofFilter sentinel logic argument
  generalize ofFilter sentinel logic argument = clause at houtcome
  intro key hkey
  cases houtcome with
  | unsigned => exact absurd hkey List.not_mem_nil
  | keyless => exact absurd hkey List.not_mem_nil
  | condition leftmost =>
    rw [List.mem_singleton.mp hkey, leftmost.text]
    exact (ColumnMention.keyIn_ofToken sentinel _).mono (List.sublist_append_left _ _)

theorem keyIn_ofInstruction (settings : DirectiveSettings) (argument : Text)
    (instruction : Instruction) :
    ∀ key ∈ (ofInstruction settings argument instruction).keys, KeyIn argument key := by
  intro key hkey
  cases instruction with
  | select =>
    obtain ⟨column, hcolumn, rfl⟩ := List.mem_map.mp hkey
    obtain ⟨token, htoken, hread⟩ := List.mem_filterMap.mp hcolumn
    rw [ColumnMention.column?, Option.ite_none_left_eq_some, Option.some.injEq] at hread
    obtain ⟨-, rfl⟩ := hread
    have htoken := sublist_of_mem_pieces htoken
    exact (ColumnMention.keyIn_ofToken settings.sentinel token).mono htoken
  | headers => exact absurd hkey List.not_mem_nil
  | sort =>
    obtain ⟨sort, hsort, rfl⟩ := List.mem_map.mp hkey
    exact SortKey.keyIn_of_parse? (Option.mem_toList.mp hsort)
  | filter logic => exact keyIn_ofFilter settings.sentinel logic argument key hkey

theorem keyIn_ofLine? {settings : DirectiveSettings} {line : Text} {clause : Clause}
    (h : ofLine? settings line = some clause) : ∀ key ∈ clause.keys, KeyIn line key := by
  intro key hkey
  rcases ofLine?_cases h with ⟨instruction, argument, hgives, rfl⟩ | ⟨name, argument, -, -, rfl⟩
  · obtain ⟨name, hsays, -⟩ := hgives
    exact (keyIn_ofInstruction settings argument instruction key hkey).mono hsays.argument_sublist
  · exact absurd hkey List.not_mem_nil

end Clause

/-- What a table mentions, one of its clauses mentions. -/
theorem exists_clause_of_mem_mentions {settings : DirectiveSettings} {classes : Text}
    {found : List Clause} {key : Text}
    (h : key ∈ (specOf settings classes found).mentions (specOf settings classes found).sort) :
    ∃ clause ∈ found, key ∈ clause.keys := by
  rw [TableSpec.mentions, List.mem_append, List.mem_append] at h
  rcases h with (hshown | hsorted) | hcompared
  · rw [specOf, columnsOf, Column.map_key_foldl_insert, mem_distinct, List.mem_map] at hshown
    obtain ⟨column, hcolumn, rfl⟩ := hshown
    obtain ⟨clause, hclause, hnamed⟩ := List.mem_flatMap.mp hcolumn
    cases clause with
    | select columns => exact ⟨_, hclause, List.mem_map_of_mem hnamed⟩
    | _ => exact absurd hnamed List.not_mem_nil
  · obtain ⟨sort, hsort, rfl⟩ := List.mem_map.mp hsorted
    obtain ⟨clause, hclause, hread⟩ :=
      List.mem_filterMap.mp (List.mem_of_getLast? (Option.mem_toList.mp hsort))
    cases clause with
    | sort key =>
      obtain rfl : key = some sort := hread
      exact ⟨_, hclause, List.mem_singleton_self _⟩
    | _ => cases hread
  · obtain ⟨filter, hfilter, rfl⟩ := List.mem_map.mp hcompared
    obtain ⟨clause, hclause, hread⟩ := List.mem_filterMap.mp hfilter
    cases clause with
    | filter condition =>
      obtain rfl : condition = filter := Option.some.inj hread
      exact ⟨_, hclause, List.mem_singleton_self _⟩
    | _ => cases hread

/-- Every key that a table mentions stands in one of the lines that it was read from. -/
theorem exists_line_of_mem_mentions {settings : DirectiveSettings} {classes : Text}
    {lines : List Text} {key : Text}
    (h : key ∈ (read settings classes lines).spec.mentions
      (read settings classes lines).spec.sort) :
    ∃ line ∈ lines, KeyIn line key := by
  rw [spec_read rfl] at h
  obtain ⟨clause, hclause, hkey⟩ := exists_clause_of_mem_mentions h
  obtain ⟨line, hline, hread⟩ := List.mem_filterMap.mp hclause
  exact ⟨line, hline, Clause.keyIn_ofLine? hread key hkey⟩

end Directive

end WikiPivot
