import WikiPivot.Proofs.Html.HeaderLinks
import WikiPivot.Proofs.Text.Sections

/-! # The text of a rendered table

What markup shows is what stands outside its tags, with the references to characters replaced. A
cell shows the text that it was formatted from, wherever that was cut at the separator, and the link
of a header shows the header.
-/
namespace WikiPivot.Html

mutual

/-- The characters of a node that stand outside the tags, as they are written. -/
def Node.untagged : Node → Text
  | .char c => [c]
  | .element _ content => untagged content

def untagged : List Node → Text
  | [] => []
  | node :: rest => node.untagged ++ untagged rest

end

def shownText (nodes : List Node) : Text := unescape (untagged nodes)

def Node.linkText? : Node → Option Text
  | .char _ => none
  | .element tag content => if tag.name = ['a'] then some (shownText content) else none

def headerRow? (markup : Text) : Option Node :=
  match parse markup with
  | some [.element _ (header :: _)] => some header
  | _ => none

def rows? (markup : Text) : Option (List Node) :=
  match parse markup with
  | some [.element _ (_ :: rows)] => some rows
  | _ => none

def headerTexts? (markup : Text) : Option (List (List Text)) :=
  (headerRow? markup).map fun header =>
    header.content.map fun cell => cell.content.filterMap Node.linkText?

def cellTexts? (markup : Text) : Option (List (List Text)) :=
  (rows? markup).map fun rows =>
    rows.map fun row => row.content.map fun cell => shownText cell.content

theorem untagged_append (nodes nodes' : List Node) :
    untagged (nodes ++ nodes') = untagged nodes ++ untagged nodes' := by
  induction nodes with
  | nil => rfl
  | cons node nodes ih => rw [List.cons_append, untagged, untagged, ih, List.append_assoc]

theorem untagged_flatMap {α : Type} (nodes : α → List Node) (xs : List α) :
    untagged (xs.flatMap nodes) = xs.flatMap fun x => untagged (nodes x) := by
  induction xs with
  | nil => rfl
  | cons x xs ih => rw [List.flatMap_cons, untagged_append, ih, List.flatMap_cons]

theorem untagged_chars (t : Text) : untagged (t.map .char) = t := by
  induction t with
  | nil => rfl
  | cons c t ih => rw [List.map_cons, untagged, ih, Node.untagged, List.singleton_append]

theorem untagged_element (tag : Tag) (content : List Node) :
    untagged [.element tag content] = untagged content := by
  rw [untagged, untagged, List.append_nil, Node.untagged]

theorem flatMap_intersperse {α β : Type} (f : α → List β) (x : α) (xs : List α) :
    (xs.intersperse x).flatMap f = (f x).intercalate (xs.map f) := by
  induction xs with
  | nil => rfl
  | cons first rest ih =>
    cases rest with
    | nil => simp
    | cons second rest =>
      rw [List.map_cons] at ih ⊢
      rw [List.map_cons, List.intersperse_cons_cons, List.flatMap_cons, List.flatMap_cons, ih,
        List.intercalate_cons_cons, List.append_assoc]

theorem escape_intercalate (separator : Text) (values : List Text) :
    escape (separator.intercalate values) = (escape separator).intercalate (values.map escape) := by
  rw [← flatMap_intersperse, List.intercalate, List.flatten_eq_flatMap, escape, List.flatMap_assoc]
  rfl

namespace LinkSettings

variable (links : LinkSettings)

/-- Whatever it is wrapped in, a value is written once outside the tags. -/
theorem untagged_formatValue (type : ColumnType) (value : Text) :
    untagged (links.formatValue type value).nodes = escape value := by
  unfold formatValue
  split
  · exact (untagged_element _ _).trans (untagged_chars _)
  · split
    · exact (untagged_element _ _).trans (untagged_chars _)
    · exact untagged_chars _
  · split
    · exact (untagged_element _ _).trans (untagged_chars _)
    · exact untagged_chars _
  · exact untagged_chars _

theorem intercalate_cellValues (cell : Text) :
    links.separator.intercalate (links.cellValues cell) = cell := by
  rw [cellValues]
  split
  · simp
  · rename_i mark more hseparator
    rw [hseparator, Text.intercalate_sections]

theorem untagged_formatCell (type : ColumnType) (cell : Text) :
    untagged ((links.formatCell type cell).flatMap Inline.nodes) = escape cell := by
  rw [formatCell]
  split
  · rename_i hempty
    rw [List.isEmpty_iff.mp hempty]
    rfl
  · have hvalues : (links.cellValues cell).map (fun value =>
        untagged (links.formatValue type value).nodes) = (links.cellValues cell).map escape :=
      List.map_congr_left fun value _ => links.untagged_formatValue type value
    have hseparator : untagged (Inline.text links.separator).nodes = escape links.separator :=
      untagged_chars _
    rw [untagged_flatMap, flatMap_intersperse, List.map_map, Function.comp_def, hvalues, hseparator,
      ← escape_intercalate, intercalate_cellValues]

theorem shownText_formatCell (type : ColumnType) (cell : Text) :
    shownText ((links.formatCell type cell).flatMap Inline.nodes) = cell := by
  rw [shownText, untagged_formatCell, unescape_escape]

theorem formatCell_shows (type : ColumnType) (cell : Text) :
    Shows ((links.formatCell type cell).flatMap Inline.print)
      ((links.formatCell type cell).flatMap Inline.nodes) :=
  shows_flatMap fun inline hinline => Inline.shows (links.formatCell_ok type cell inline hinline).1

/-- An arrow before a link has no text of a link. -/
theorem filterMap_sortArrow (sort : Option SortKey) (key : Text) :
    ((sortArrow sort key).flatMap Inline.nodes).filterMap Node.linkText? = [] := by
  unfold sortArrow
  split <;> rfl

theorem filterMap_headerCell (sort : Option SortKey) (key label : Text) :
    ((links.headerCell sort key label).flatMap Inline.nodes).filterMap Node.linkText? =
      [label] := by
  rw [headerCell, List.flatMap_append, List.filterMap_append, filterMap_sortArrow, List.nil_append]
  have hlabel : shownText ((escape label).map .char) = label := by
    rw [shownText, untagged_chars, unescape_escape]
  simp [Inline.nodes, Node.linkText?, hlabel]

theorem headerRow?_render (view : TableView) :
    headerRow? (links.render view) = some ((links.table view).header.node "th".toList) := by
  rw [headerRow?, parse_of_shows (links.table_shows view), Table.node]

theorem rows?_render (view : TableView) :
    rows? (links.render view) = some ((links.table view).rows.map (Row.node "td".toList)) := by
  rw [rows?, parse_of_shows (links.table_shows view), Table.node]

/-- Each header cell has one link, which shows the header. -/
theorem headerTexts?_render (view : TableView) :
    headerTexts? (links.render view) =
      some ((view.columns.zip view.headers).map fun (_, label) => [label]) := by
  have hcells : ((links.table view).header.node "th".toList).content =
      (view.columns.zip view.headers).map fun (column, label) =>
        cellNode "th".toList (links.headerCell view.sort column.key label) := List.map_map
  rw [headerTexts?, headerRow?_render, Option.map_some, hcells, List.map_map]
  refine congrArg some (List.map_congr_left ?_)
  rintro ⟨column, label⟩ -
  exact links.filterMap_headerCell view.sort column.key label

theorem shownText_formatRow (columns : List Column) (row : List Text) :
    ((links.formatRow columns row).node "td".toList).content.map
      (fun cell => shownText cell.content) = row := by
  simp only [Row.node, Node.content, formatRow, List.map_map, Function.comp_def, cellNode,
    shownText_formatCell]
  exact List.zipIdx_map_fst 0 row

theorem cellTexts?_render (view : TableView) :
    cellTexts? (links.render view) = some view.rows := by
  have hrows : (links.table view).rows = view.rows.map (links.formatRow view.columns) := rfl
  rw [cellTexts?, rows?_render, Option.map_some, hrows, List.map_map, List.map_map]
  simp only [Function.comp_def, shownText_formatRow, List.map_id']

end LinkSettings

/-- A formatted cell shows the text that it was formatted from. In a rendered table each header cell
has one link, which shows the header, and the other cells show the rows of the view. -/
theorem rendered_text_is_recovered (links : LinkSettings) :
    (∀ type cell, (parse ((links.formatCell type cell).flatMap Inline.print)).map shownText =
      some cell) ∧
    ∀ view : TableView,
      headerTexts? (links.render view) =
        some ((view.columns.zip view.headers).map fun (_, label) => [label]) ∧
      cellTexts? (links.render view) = some view.rows := by
  refine ⟨?_, fun view => ⟨links.headerTexts?_render view, links.cellTexts?_render view⟩⟩
  intro type cell
  rw [parse_of_shows (links.formatCell_shows type cell), Option.map_some,
    links.shownText_formatCell]

end WikiPivot.Html
