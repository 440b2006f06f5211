import WikiPivot.Proofs.Column
import WikiPivot.Proofs.Directive.Accounts
import WikiPivot.Proofs.Directive.ArgumentText

/-! # Where a column stands and how it is shown

A column stands where it is first named and is shown as it is last named. So the columns come from
the mentions on all selecting lines, one after the other, however the lines share them out.
-/
namespace WikiPivot

open Text

namespace Directive

def selectArguments (lines : List Text) : List Text :=
  lines.filterMap fun line =>
    match given? line with
    | some (.select, argument) => some argument
    | _ => none

/-- The tokens between the commas of the selecting lines, in order, as mentions of a column; blank
tokens mention none. -/
def mentions (sentinel : Text) (lines : List Text) : List ColumnMention :=
  (((selectArguments lines).flatMap (pieces ',')).map (ColumnMention.ofToken sentinel)).filter
    (·.key ≠ [])

def Clause.selected? : Clause → Option (List Column)
  | select columns => some columns
  | _ => none

theorem flatMap_columns (found : List Clause) :
    found.flatMap (·.columns) = (found.filterMap (·.selected?)).flatten := by
  induction found with
  | nil => rfl
  | cons clause found ih =>
    rw [List.flatMap_cons, ih]
    cases clause <;> simp [Clause.columns, Clause.selected?]

theorem filterMap_selected? (settings : DirectiveSettings) (lines : List Text) :
    (lines.filterMap (Clause.ofLine? settings)).filterMap (·.selected?) =
      (selectArguments lines).map fun argument => (pieces ',' argument).filterMap fun token =>
        (ColumnMention.ofToken settings.sentinel token).column? := by
  rw [selectArguments, List.map_filterMap]
  refine filterMap_ofLine?_of_kind .select settings lines
    (fun clause => by cases clause <;> rfl) fun line => ?_
  rcases given? line with _ | ⟨instruction, argument⟩
  · rfl
  · cases instruction <;> rfl

theorem isIdentity_of_mem_mentions {sentinel : Text} {lines : List Text} {mention : ColumnMention}
    (h : mention ∈ mentions sentinel lines) : mention.isIdentity = (mention.key == sentinel) := by
  obtain ⟨token, -, rfl⟩ := List.mem_map.mp (List.mem_of_mem_filter h)
  rfl

/-- The mentions are inserted in their order. -/
theorem columns_read (settings : DirectiveSettings) (classes : Text) (lines : List Text) :
    (read settings classes lines).spec.columns =
      ((mentions settings.sentinel lines).map fun mention =>
        Column.mk mention.key mention.type).foldl Column.insert [] := by
  have hnamed : ∀ tokens : List Text,
      tokens.filterMap (fun token => (ColumnMention.ofToken settings.sentinel token).column?) =
        ((tokens.map (ColumnMention.ofToken settings.sentinel)).filter (·.key ≠ [])).map
          fun mention => Column.mk mention.key mention.type := by
    intro tokens
    induction tokens with
    | nil => rfl
    | cons token tokens ih =>
      rw [List.filterMap_cons, List.map_cons, List.filter_cons, ih]
      by_cases hblank : (ColumnMention.ofToken settings.sentinel token).key = []
      · simp [ColumnMention.column?, hblank]
      · simp [ColumnMention.column?, hblank]
  rw [spec_read rfl]
  change (List.flatMap _ _).foldl Column.insert [] = _
  rw [flatMap_columns, filterMap_selected?, mentions, ← hnamed, List.filterMap_flatMap,
    List.flatMap_def]

theorem lineKind?_eq_map_given? (line : Text) :
    lineKind? line = (given? line).map fun (instruction, _) =>
      LineKind.ofInstruction instruction := by
  rw [lineKind?, given?]
  cases instructionText? line with
  | none => rfl
  | some said =>
    simp only [Option.bind_some, Option.map_map]
    rfl

theorem lineKind?_eq_select_iff {line : Text} :
    lineKind? line = some .select ↔ ∃ text, Carries line .select text := by
  have hgives : lineKind? line = some .select ↔ ∃ argument, Gives line .select argument := by
    simp only [lineKind?_eq_map_given?, ← given?_eq_some_iff, Option.map_eq_some_iff, Prod.exists]
    constructor
    · rintro ⟨instruction, argument, hgiven, hkind⟩
      cases instruction with
      | select => exact ⟨argument, hgiven⟩
      | _ => exact LineKind.noConfusion hkind
    · rintro ⟨argument, hgiven⟩
      exact ⟨.select, argument, hgiven, rfl⟩
  simp only [hgives, gives_iff_carries]
  constructor
  · rintro ⟨_, text, hcarries, -⟩
    exact ⟨text, hcarries⟩
  · rintro ⟨text, hcarries⟩
    exact ⟨_, text, hcarries, rfl⟩

def selecting (lines : List Text) : List Text := lines.filter (lineKind? · = some .select)

theorem selectArguments_selecting (lines : List Text) :
    selectArguments (selecting lines) = selectArguments lines := by
  rw [selectArguments, selecting, List.filterMap_filter]
  refine List.filterMap_congr fun line _ => ?_
  rw [lineKind?_eq_map_given?]
  rcases given? line with _ | ⟨instruction, argument⟩
  · rfl
  · cases instruction <;> rfl

theorem map_ofToken_pieces_argumentOf (sentinel text : Text) :
    (pieces ',' (argumentOf text)).map (ColumnMention.ofToken sentinel) =
      (pieces ',' text).map fun piece =>
        ColumnMention.ofToken sentinel (unescape ':' (unescape '#' piece)) := by
  have htrim := congrArg (List.map (ColumnMention.ofToken sentinel))
    (map_trim_pieces_argumentOf text)
  simpa [Function.comp_def, ColumnMention.ofToken_trim] using htrim

theorem selectArguments_of_carries {parts texts : List Text}
    (h : List.Forall₂ (Carries · .select ·) parts texts) :
    selectArguments parts = texts.map argumentOf := by
  induction h with
  | nil => rfl
  | cons hcarries _ ih =>
    have hgiven := given?_eq_some_iff.mpr (gives_iff_carries.mpr ⟨_, hcarries, rfl⟩)
    rw [selectArguments, List.filterMap_cons, ← selectArguments, ih, hgiven]
    rfl

/-- In the place of one selecting line that carries texts joined with commas, the other directive
has a selecting line for each of the texts. -/
def SharesOut (lines lines' : List Text) : Prop :=
  ∃ before parts after whole texts,
    selecting lines = before ++ whole :: after ∧ selecting lines' = before ++ parts ++ after ∧
      texts ≠ [] ∧ Carries whole .select ([','].intercalate texts) ∧
      List.Forall₂ (Carries · .select ·) parts texts

theorem mentions_of_sharesOut (sentinel : Text) {lines lines' : List Text}
    (h : SharesOut lines lines') : mentions sentinel lines' = mentions sentinel lines := by
  obtain ⟨before, parts, after, whole, texts, hwhole, hparts, hne, hcarries, hall⟩ := h
  have hshared : ((texts.map argumentOf).flatMap (pieces ',')).map
        (ColumnMention.ofToken sentinel) =
      (pieces ',' (argumentOf ([','].intercalate texts))).map (ColumnMention.ofToken sentinel) := by
    rw [map_ofToken_pieces_argumentOf, pieces_intercalate hne, List.map_flatMap, List.flatMap_map,
      List.map_flatMap]
    simp only [map_ofToken_pieces_argumentOf]
  have harguments : selectArguments [whole] = [argumentOf ([','].intercalate texts)] :=
    selectArguments_of_carries (.cons hcarries .nil)
  have happend : ∀ lines lines', selectArguments (lines ++ lines') =
      selectArguments lines ++ selectArguments lines' := fun _ _ => List.filterMap_append
  rw [mentions, mentions, ← selectArguments_selecting lines, ← selectArguments_selecting lines',
    hwhole, hparts, ← List.singleton_append, happend, happend, happend, happend, harguments,
    selectArguments_of_carries hall]
  simp only [List.flatMap_append, List.map_append, hshared, List.flatMap_cons, List.flatMap_nil,
    List.append_nil, List.append_assoc]

/-- A column stands where its key is first mentioned and has the type of its last mention. It makes
no difference how the selecting lines share out the mentions, and they can be shared out at any
comma. -/
theorem columns_keep_first_place_and_last_type (settings : DirectiveSettings) (classes : Text)
    (lines : List Text) :
    let columns := (read settings classes lines).spec.columns
    let named := mentions settings.sentinel lines
    columns.map (·.key) = (named.map (·.key)).eraseDups ∧
    (∀ column ∈ columns, ∃ last, (named.filter (·.key = column.key)).getLast? = some last ∧
      column.type =
        if column.key = settings.sentinel then .page else last.declared.getD .text) ∧
    (∀ lines', SharesOut lines lines' → (read settings classes lines').spec.columns = columns) ∧
    (∀ line ∈ selecting lines, ∃ text, Carries line .select text) ∧
    ∀ texts, texts ≠ [] →
      ((∃ line, Carries line .select ([','].intercalate texts)) ↔
        ∀ text ∈ texts, ∃ line, Carries line .select text) := by
  intro columns named
  have hcolumns : columns = (named.map fun mention =>
      Column.mk mention.key mention.type).foldl Column.insert [] :=
    columns_read settings classes lines
  refine ⟨?_, ?_, ?_, ?_, ?_⟩
  · rw [hcolumns, Column.map_key_foldl_insert, eraseDups_eq_distinct, List.map_map]
    rfl
  · intro column hcolumn
    rw [hcolumns, Column.mem_foldl_insert_iff, List.filter_map, List.getLast?_map,
      Option.map_eq_some_iff] at hcolumn
    obtain ⟨last, hlast, rfl⟩ := hcolumn
    have hmention : last ∈ named := List.mem_of_mem_filter (List.mem_of_mem_getLast? hlast)
    refine ⟨last, hlast, ?_⟩
    simp only [ColumnMention.type, isIdentity_of_mem_mentions hmention, beq_iff_eq]
  · intro lines' hshared
    rw [columns_read, mentions_of_sharesOut settings.sentinel hshared, hcolumns]
  · intro line hline
    exact lineKind?_eq_select_iff.mp (of_decide_eq_true (List.mem_filter.mp hline).2)
  · exact fun texts => exists_carries_intercalate_iff

/-- Three lines in the place of one. The first key loses its type where it is named again without
one, and the page keeps its own. -/
theorem shared_out_columns_are_the_same :
    let lines := ["# cols: x".toList, "Cols:A url,%pageid% url,b,a,,B Mail".toList]
    let lines' := ["cols:A url,%pageid% url# ,x".toList, "sort:b".toList, "select:b".toList,
      " COLS :a,,B Mail".toList]
    SharesOut lines lines' ∧
      (read {} [] lines).spec.columns =
        [⟨"a".toList, .text⟩, ⟨"%pageid%".toList, .page⟩, ⟨"b".toList, .mail⟩] ∧
      (read {} [] lines').spec.columns = (read {} [] lines).spec.columns := by
  intro lines lines'
  let texts := ["A url,%pageid% url".toList, "b".toList, "a,,B Mail".toList]
  have spelt : ∀ name ∈ ["Cols".toList, "cols".toList, "select".toList, " COLS ".toList],
      Spells name .select := by decide +kernel
  have hfree : ∀ text ∈ texts, CommentFree text := fun text htext =>
    noneLive_of_not_mem ((by decide : ∀ text ∈ texts, '#' ∉ text) text htext)
  have hshared : SharesOut lines lines' := by
    refine ⟨[], ["cols:A url,%pageid% url# ,x".toList, "select:b".toList,
      " COLS :a,,B Mail".toList], [], "Cols:A url,%pageid% url,b,a,,B Mail".toList, texts,
      by decide +kernel, by decide +kernel, List.cons_ne_nil _ _, ?_, ?_⟩
    · have hwhole : "Cols:A url,%pageid% url,b,a,,B Mail".toList =
          "Cols".toList ++ ':' :: [','].intercalate texts := by decide +kernel
      rw [hwhole]
      exact carries_of_commentFree (spelt _ (by decide)) (commentFree_intercalate_iff.mpr hfree)
    · refine .cons ⟨"cols".toList, spelt _ (by decide), ?_, ?_⟩ (.cons ?_ (.cons ?_ .nil))
      · exact noneLive_of_not_mem (by decide)
      · exact Or.inr ⟨" ,x".toList, by decide, by decide⟩
      · exact carries_of_commentFree (spelt "select".toList (by decide)) (hfree _ (by decide))
      · exact carries_of_commentFree (spelt " COLS ".toList (by decide)) (hfree _ (by decide))
  have hread : (read {} [] lines).spec.columns =
      [⟨"a".toList, .text⟩, ⟨"%pageid%".toList, .page⟩, ⟨"b".toList, .mail⟩] := by
    decide +kernel
  obtain ⟨-, -, hsame, -⟩ := columns_keep_first_place_and_last_type {} [] lines
  exact ⟨hshared, hread, hsame lines' hshared⟩

end Directive

end WikiPivot
