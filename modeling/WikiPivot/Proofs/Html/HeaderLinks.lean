import WikiPivot.Proofs.Html.Structure
import WikiPivot.Proofs.Text.Percent
import Mathlib.Data.List.DropRight

/-! # The links of headers

The header cells of a rendered table are read for their links, one for each column with a header.
Behind the address of the page each has the name of the sort parameter and a value, both
percent-encoded, and decoding gives both of them back. The value is the sort that the header asks
for.
-/
namespace WikiPivot.Html

def Node.content : Node → List Node
  | .char _ => []
  | .element _ content => content

def Node.address? : Node → Option Text
  | .char _ => none
  | .element tag _ =>
    if tag.name = ['a'] then
      (tag.attributes.find? (·.name = "href".toList)).map (unescape ·.value)
    else none

def headerAddresses (markup : Text) : List (Option Text) :=
  match parse markup with
  | some [.element _ (header :: _)] =>
    header.content.map fun cell => cell.content.findSome? Node.address?
  | _ => []

def lastParameter (address : Text) : Text := Text.percentText (address.rtakeWhile (· ≠ '='))

def headerParameters (markup : Text) : List (Option Text) :=
  (headerAddresses markup).map (·.map lastParameter)

namespace LinkSettings

variable (links : LinkSettings)

/-- An arrow before a link is no link. -/
theorem findSome?_sortArrow (sort : Option SortKey) (key : Text) :
    ((sortArrow sort key).flatMap Inline.nodes).findSome? Node.address? = none := by
  unfold sortArrow
  split <;> rfl

theorem findSome?_headerCell (sort : Option SortKey) (key label : Text) :
    (cellNode "th".toList (links.headerCell sort key label)).content.findSome? Node.address? =
      some (links.sortLink ((offeredSort sort key).parameter links.descendingMarker)) := by
  rw [cellNode, Node.content, headerCell, List.flatMap_append, List.findSome?_append,
    findSome?_sortArrow, Option.none_or]
  exact congrArg some (unescape_escape _)

theorem headerAddresses_render (view : TableView) :
    headerAddresses (links.render view) = (view.columns.zip view.headers).map fun (column, _) =>
      some (links.sortLink
        ((offeredSort view.sort column.key).parameter links.descendingMarker)) := by
  have hparse : parse (links.render view) = some [(links.table view).node] :=
    parse_of_shows (links.table_shows view)
  rw [Table.node] at hparse
  have haddresses : headerAddresses (links.render view) =
      ((links.table view).header.node "th".toList).content.map fun cell =>
        cell.content.findSome? Node.address? := by
    rw [headerAddresses, hparse]
  have hcells : ((links.table view).header.node "th".toList).content =
      (view.columns.zip view.headers).map fun (column, label) =>
        cellNode "th".toList (links.headerCell view.sort column.key label) := List.map_map
  rw [haddresses, hcells, List.map_map]
  apply List.map_congr_left
  intro place _
  exact links.findSome?_headerCell view.sort place.1.key place.2

/-- An address that asks for a sort: behind the address of the page it has a name and a value, both
percent-encoded, and its last equals sign stands between them. -/
structure Asks (parameter address name value : Text) : Prop where
  split : address =
    links.pageUrl ++ (if '?' ∈ links.pageUrl then '&' else '?') :: (name ++ '=' :: value)
  plain : ∀ c ∈ name ++ value, Text.isUnreserved c = true ∨ c = '%'
  last : '=' ∉ value
  name_read : Text.percentRead name = Text.utf8 links.sortParameter
  value_read : Text.percentRead value = Text.utf8 parameter

theorem asks_sortLink (parameter : Text) :
    links.Asks parameter (links.sortLink parameter) (Text.percentEncode links.sortParameter)
      (Text.percentEncode parameter) where
  split := by
    simp only [sortLink, List.contains_iff_mem, List.append_assoc, List.cons_append]
  plain := by
    intro c hc
    rcases List.mem_append.mp hc with hname | hvalue
    · exact Text.unreserved_or_percent_of_mem hname
    · exact Text.unreserved_or_percent_of_mem hvalue
  last := Text.equals_not_mem_percentEncode parameter
  name_read := Text.percentRead_percentEncode links.sortParameter
  value_read := Text.percentRead_percentEncode parameter

theorem Asks.lastParameter_eq {links : LinkSettings} {parameter address name value : Text}
    (h : links.Asks parameter address name value) : lastParameter address = parameter := by
  have hvalue : ∀ c ∈ value.reverse, decide (c ≠ '=') = true := by
    intro c hc
    apply decide_eq_true
    rintro rfl
    exact h.last (List.mem_reverse.mp hc)
  have hend : address.rtakeWhile (· ≠ '=') = value := by
    rw [h.split, List.rtakeWhile, List.reverse_append, List.reverse_cons, List.reverse_append,
      List.reverse_cons, List.append_assoc, List.append_assoc, List.append_assoc,
      List.takeWhile_append_of_pos hvalue]
    simp
  rw [lastParameter, hend, Text.percentText, h.value_read, Text.ofOctets_utf8]

theorem lastParameter_sortLink (parameter : Text) :
    lastParameter (links.sortLink parameter) = parameter :=
  (links.asks_sortLink parameter).lastParameter_eq

theorem headerParameters_render (view : TableView) :
    headerParameters (links.render view) = (view.columns.zip view.headers).map fun (column, _) =>
      some ((offeredSort view.sort column.key).parameter links.descendingMarker) := by
  rw [headerParameters, headerAddresses_render, List.map_map]
  simp only [Function.comp_def, Option.map_some, lastParameter_sortLink]

end LinkSettings

/-- Whatever the address of the page, the name of the sort parameter and the sort are, the link of
each header carries the name and the sort so that decoding gives their octets back. -/
theorem header_links_are_lossless (links : LinkSettings) (view : TableView) :
    List.Forall₂
      (fun column address => ∃ link name value, address = some link ∧
        links.Asks
          ((LinkSettings.offeredSort view.sort column.key).parameter links.descendingMarker)
          link name value)
      ((view.columns.zip view.headers).map Prod.fst) (headerAddresses (links.render view)) := by
  rw [links.headerAddresses_render, List.forall₂_map_left_iff, List.forall₂_map_right_iff,
    List.forall₂_same]
  intro place _
  exact ⟨_, _, _, rfl, links.asks_sortLink _⟩

end WikiPivot.Html
