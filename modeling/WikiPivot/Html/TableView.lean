import WikiPivot.Html.Markup
import WikiPivot.Settings
import WikiPivot.TableSpec
import WikiPivot.Text.Percent

/-! The answer to a directive as a table of markup.
A header is a link that sorts by its column, the other way round if the table is sorted by it. A
cell is cut at the separator again, and each value is shown as the type of its column asks. -/
namespace WikiPivot.Html

structure LinkSettings where
  pageUrl : Text
  wikiBase : Text := "doku.php?id=".toList
  sortParameter : Text
  descendingMarker : Char
  separator : Text
  deriving DecidableEq, Repr

def LinkSettings.ofSettings (settings : Settings) (pageUrl : Text) : LinkSettings :=
  { pageUrl
    sortParameter := settings.directive.sortParameter
    descendingMarker := settings.directive.descendingMarker
    separator := settings.store.separator }

/-- What is shown. `headers` and the cells of a row stand under `columns` place by place. -/
structure TableView where
  classes : Text
  columns : List Column
  headers : List Text
  sort : Option SortKey
  rows : List (List Text)
  deriving DecidableEq, Repr

def TableView.ofSpec (spec : TableSpec) (sort : Option SortKey) (rows : List (List Text)) :
    TableView :=
  ⟨spec.classes, spec.columns, spec.headers, sort, rows⟩

namespace LinkSettings

def sortLink (links : LinkSettings) (parameter : Text) : Text :=
  links.pageUrl ++ (if links.pageUrl.contains '?' then '&' else '?') ::
    Text.percentEncode links.sortParameter ++ '=' :: Text.percentEncode parameter

def offeredSort (sort : Option SortKey) (key : Text) : SortKey :=
  match sort.filter (·.key = key) with
  | some sort => sort.reversed
  | none => ⟨key, .ascending⟩

/-- The column that the table is sorted by has an arrow, up for descending. -/
def sortArrow (sort : Option SortKey) (key : Text) : List Inline :=
  match sort.filter (·.key = key) with
  | some sort => [.arrow (sort.direction = .descending), .text [' ']]
  | none => []

def headerCell (links : LinkSettings) (sort : Option SortKey) (key label : Text) : List Inline :=
  let parameter := (offeredSort sort key).parameter links.descendingMarker
  sortArrow sort key ++
    [.link [⟨"href".toList, links.sortLink parameter⟩,
      ⟨"title".toList, "sort by this column".toList⟩] label]

def urlSchemes : List Text := ["http://".toList, "https://".toList, "ftp://".toList]

/-- A page is a link into the wiki; an address of a known scheme and a mail address are links; any
other value is text. -/
def formatValue (links : LinkSettings) (type : ColumnType) (value : Text) : Inline :=
  match type with
  | .page =>
    .link [⟨"href".toList, links.wikiBase ++ Text.percentEncode value⟩,
      ⟨"class".toList, "wikilink1".toList⟩] value
  | .url =>
    if urlSchemes.any (·.isPrefixOf value) then
      .link [⟨"href".toList, value⟩, ⟨"class".toList, "urlextern".toList⟩,
        ⟨"rel".toList, "nofollow".toList⟩] value
    else .text value
  | .mail =>
    if value.contains '@' then
      .link [⟨"href".toList, "mailto:".toList ++ value⟩, ⟨"class".toList, "mail".toList⟩] value
    else .text value
  | _ => .text value

def cellValues (links : LinkSettings) (cell : Text) : List Text :=
  match links.separator with
  | [] => [cell]
  | mark :: more => Text.sections mark more cell

def formatCell (links : LinkSettings) (type : ColumnType) (cell : Text) : List Inline :=
  if cell.isEmpty then []
  else ((links.cellValues cell).map (links.formatValue type)).intersperse (.text links.separator)

def formatRow (links : LinkSettings) (columns : List Column) (row : List Text) : Row :=
  ⟨row.zipIdx.map fun (cell, place) =>
    links.formatCell ((columns[place]?.map (·.type)).getD .text) cell⟩

def table (links : LinkSettings) (view : TableView) : Table :=
  { classes := "inline dataplugin_table ".toList ++ Text.trim view.classes
    header := ⟨(view.columns.zip view.headers).map fun (column, label) =>
      links.headerCell view.sort column.key label⟩
    rows := view.rows.map (links.formatRow view.columns) }

def render (links : LinkSettings) (view : TableView) : Text := (links.table view).print

end LinkSettings

end WikiPivot.Html
