import WikiPivot.Html.TableView
import WikiPivot.Proofs.Html.Reading
import Mathlib.Data.List.Forall2

/-! # The structure of a rendered table

Whatever the data are, a rendered table is read back as one element with a header row and a row for
each row of the view. Angle brackets and double quotes stand in tags alone, and the links of a cell
lead into the wiki, to a mail address or to an address of a known scheme.
-/
namespace WikiPivot.Html

inductive Node.All (p : Char → Prop) (q : Tag → Prop) : Node → Prop where
  | char {c : Char} (h : p c) : All p q (.char c)
  | element {tag : Tag} {content : List Node} (h : q tag)
    (hcontent : ∀ node ∈ content, All p q node) : All p q (.element tag content)

def Plain (c : Char) : Prop := c ∉ ['<', '>', '"']

def Tag.Among (names : List Text) (tag : Tag) : Prop :=
  tag.name ∈ names ∧ ∀ attr ∈ tag.attributes, ∀ c ∈ attr.value, Plain c

def LinkSettings.Reaches (links : LinkSettings) (address : Text) : Prop :=
  ∃ start ∈
      [links.wikiBase, "mailto:".toList, "http://".toList, "https://".toList, "ftp://".toList],
    start <+: address

def Tag.InCell (allowed : Text → Prop) (tag : Tag) : Prop :=
  tag.Among ["span".toList, ['a']] ∧
    ∀ attr ∈ tag.attributes, attr.name = "href".toList → allowed (unescape attr.value)

theorem Node.All.mono {p : Char → Prop} {q q' : Tag → Prop} {node : Node} (h : node.All p q)
    (hq : ∀ tag, q tag → q' tag) : node.All p q' := by
  induction h with
  | char h => exact .char h
  | element h _ ih => exact .element (hq _ h) ih

theorem Tag.Among.mono {names names' : List Text} {tag : Tag} (h : tag.Among names)
    (hnames : ∀ name ∈ names, name ∈ names') : tag.Among names' :=
  ⟨hnames _ h.1, h.2⟩

theorem all_chars {p : Char → Prop} {q : Tag → Prop} {t : Text} (h : ∀ c ∈ t, p c) :
    ∀ node ∈ t.map Node.char, node.All p q := by
  intro node hnode
  obtain ⟨c, hc, rfl⟩ := List.mem_map.mp hnode
  exact .char (h c hc)

theorem plain_escape (t : Text) : ∀ c ∈ escape t, Plain c :=
  fun _ hc hspecial => special_not_mem_escape hspecial t hc

namespace Inline

def nodes : Inline → List Node
  | text content => (escape content).map .char
  | arrow up =>
    [.element ⟨"span".toList, []⟩
      ((if up then "&uarr;".toList else "&darr;".toList).map .char)]
  | link attributes label =>
    [.element ⟨['a'], attributes.map HtmlAttribute.written⟩ ((escape label).map .char)]

def attributes : Inline → List HtmlAttribute
  | link attributes _ => attributes
  | _ => []

def Named (inline : Inline) : Prop := ∀ attr ∈ inline.attributes, Word attr.name

theorem shows {inline : Inline} (h : inline.Named) : Shows inline.print inline.nodes := by
  cases inline with
  | text content => exact shows_escape content
  | arrow up =>
    have harrow : '<' ∉ (if up then "&uarr;".toList else "&darr;".toList) := by
      cases up <;> decide
    exact Shows.enclosed (by simp [Word]) (by simp) (List.forall_mem_nil _) (shows_chars harrow)
  | link attributes label =>
    exact Shows.enclosed (by simp [Word]) (by simp) h (shows_escape label)

def Leads (allowed : Text → Prop) (inline : Inline) : Prop :=
  ∀ attr ∈ inline.attributes, attr.name = "href".toList → allowed attr.value

theorem all_nodes {allowed : Text → Prop} {inline : Inline} (h : inline.Leads allowed) :
    ∀ node ∈ inline.nodes, node.All Plain (Tag.InCell allowed) := by
  cases inline with
  | text content => exact all_chars (plain_escape content)
  | arrow up =>
    intro node hnode
    rw [List.mem_singleton.mp hnode]
    refine .element ⟨⟨by simp, List.forall_mem_nil _⟩, List.forall_mem_nil _⟩ (all_chars ?_)
    cases up <;> simp [Plain]
  | link attributes label =>
    intro node hnode
    rw [List.mem_singleton.mp hnode]
    refine .element ⟨⟨by simp, ?_⟩, ?_⟩ (all_chars (plain_escape label))
    · intro attr hattr
      obtain ⟨source, _, rfl⟩ := List.mem_map.mp hattr
      exact plain_escape source.value
    · intro attr hattr hname
      obtain ⟨source, hsource, rfl⟩ := List.mem_map.mp hattr
      have := h source hsource hname
      rwa [← unescape_escape source.value] at this

end Inline

def cellNode (cell : Text) (content : List Inline) : Node :=
  .element ⟨cell, []⟩ (content.flatMap Inline.nodes)

def Row.node (cell : Text) (row : Row) : Node :=
  .element ⟨"tr".toList, []⟩ (row.cells.map (cellNode cell))

def Table.node (table : Table) : Node :=
  .element ⟨"table".toList, [⟨"class".toList, escape table.classes⟩]⟩
    (table.header.node "th".toList :: table.rows.map (Row.node "td".toList))

def Row.Forall (p : Inline → Prop) (row : Row) : Prop :=
  ∀ content ∈ row.cells, ∀ inline ∈ content, p inline

theorem Row.shows {cell : Text} (hcell : Word cell) (hne : cell ≠ []) {row : Row}
    (h : row.Forall Inline.Named) : Shows (row.print cell) [row.node cell] := by
  have hcells : Shows (row.cells.flatMap fun content =>
      enclosed cell [] (content.flatMap Inline.print)) (row.cells.map (cellNode cell)) := by
    rw [List.map_eq_flatMap]
    apply shows_flatMap
    intro content hcontent
    apply Shows.enclosed hcell hne (List.forall_mem_nil _)
    apply shows_flatMap
    intro inline hinline
    exact Inline.shows (h content hcontent inline hinline)
  exact Shows.enclosed (by simp [Word]) (by simp) (List.forall_mem_nil _) hcells

theorem Table.shows {table : Table} (hheader : table.header.Forall Inline.Named)
    (hrows : ∀ row ∈ table.rows, row.Forall Inline.Named) : Shows table.print [table.node] := by
  have hbody : Shows (table.rows.flatMap (Row.print "td".toList))
      (table.rows.map (Row.node "td".toList)) := by
    rw [List.map_eq_flatMap]
    apply shows_flatMap
    intro row hrow
    exact Row.shows (by simp [Word]) (by simp) (hrows row hrow)
  have hhead : Shows (table.header.print "th".toList) [table.header.node "th".toList] :=
    Row.shows (by simp [Word]) (by simp) hheader
  exact Shows.enclosed (by simp [Word]) (by simp) (by simp [Word]) (hhead.append hbody)

theorem all_cellNode {allowed : Text → Prop} {content : List Inline}
    (h : ∀ inline ∈ content, inline.Leads allowed) :
    ∀ node ∈ content.flatMap Inline.nodes, node.All Plain (Tag.InCell allowed) := by
  intro node hnode
  obtain ⟨inline, hinline, hnode⟩ := List.mem_flatMap.mp hnode
  exact Inline.all_nodes (h inline hinline) node hnode

def elementNames : List Text :=
  ["table".toList, "tr".toList, "th".toList, "td".toList, "span".toList, ['a']]

theorem Row.all_node {cell : Text} (hcell : cell ∈ elementNames) {row : Row} :
    (row.node cell).All Plain (Tag.Among elementNames) := by
  refine .element ⟨by simp [elementNames], List.forall_mem_nil _⟩ ?_
  intro node hnode
  obtain ⟨content, hcontent, rfl⟩ := List.mem_map.mp hnode
  refine .element ⟨hcell, List.forall_mem_nil _⟩ ?_
  intro node hnode
  have hinside : node.All Plain (Tag.InCell fun _ => True) :=
    all_cellNode (fun _ _ _ _ _ => trivial) node hnode
  refine hinside.mono fun tag htag => htag.1.mono ?_
  intro name hname
  simp only [List.mem_cons, List.not_mem_nil, or_false] at hname
  rcases hname with rfl | rfl <;> simp [elementNames]

theorem Table.all_node (table : Table) : table.node.All Plain (Tag.Among elementNames) := by
  refine .element ⟨by simp [elementNames], ?_⟩ ?_
  · intro attr hattr
    rw [List.mem_singleton.mp hattr]
    exact plain_escape table.classes
  · intro node hnode
    rcases List.mem_cons.mp hnode with rfl | hnode
    · exact Row.all_node (by simp [elementNames])
    · obtain ⟨row, _, rfl⟩ := List.mem_map.mp hnode
      exact Row.all_node (by simp [elementNames])

theorem mem_intersperse {α : Type} {mark x : α} {xs : List α} (h : x ∈ xs.intersperse mark) :
    x = mark ∨ x ∈ xs := by
  induction xs with
  | nil => cases h
  | cons first rest ih =>
    cases rest with
    | nil => exact Or.inr h
    | cons second rest =>
      rw [List.intersperse_cons_cons] at h
      rcases List.mem_cons.mp h with rfl | h
      · exact Or.inr List.mem_cons_self
      rcases List.mem_cons.mp h with rfl | h
      · exact Or.inl rfl
      rcases ih h with hmark | hmem
      · exact Or.inl hmark
      · exact Or.inr (List.mem_cons_of_mem _ hmem)

namespace LinkSettings

variable (links : LinkSettings)

/-- A value is shown by an inline that a reader takes and that leads where it may. -/
theorem formatValue_ok (type : ColumnType) (value : Text) :
    (links.formatValue type value).Named ∧ (links.formatValue type value).Leads links.Reaches := by
  unfold formatValue
  split
  · refine ⟨by simp [Inline.Named, Inline.attributes, Word], ?_⟩
    intro attr hattr hname
    rcases List.mem_pair.mp hattr with rfl | rfl
    · exact ⟨links.wikiBase, by simp, List.prefix_append _ _⟩
    · simp at hname
  · by_cases hscheme : urlSchemes.any (·.isPrefixOf value)
    · rw [if_pos hscheme]
      refine ⟨by simp [Inline.Named, Inline.attributes, Word], ?_⟩
      intro attr hattr hname
      simp only [Inline.attributes, List.mem_cons, List.not_mem_nil, or_false] at hattr
      rcases hattr with rfl | rfl | rfl
      · obtain ⟨scheme, hmem, hstart⟩ := List.any_eq_true.mp hscheme
        refine ⟨scheme, ?_, List.isPrefixOf_iff_prefix.mp hstart⟩
        exact List.mem_cons_of_mem _ (List.mem_cons_of_mem _ hmem)
      · simp at hname
      · simp at hname
    · rw [if_neg hscheme]
      exact ⟨List.forall_mem_nil _, List.forall_mem_nil _⟩
  · by_cases hat : value.contains '@'
    · rw [if_pos hat]
      refine ⟨by simp [Inline.Named, Inline.attributes, Word], ?_⟩
      intro attr hattr hname
      rcases List.mem_pair.mp hattr with rfl | rfl
      · exact ⟨"mailto:".toList, by simp, List.prefix_append _ _⟩
      · simp at hname
    · rw [if_neg hat]
      exact ⟨List.forall_mem_nil _, List.forall_mem_nil _⟩
  · exact ⟨List.forall_mem_nil _, List.forall_mem_nil _⟩

theorem formatCell_ok (type : ColumnType) (cell : Text) :
    ∀ inline ∈ links.formatCell type cell, inline.Named ∧ inline.Leads links.Reaches := by
  intro inline hinline
  unfold formatCell at hinline
  split at hinline
  · cases hinline
  · rcases mem_intersperse hinline with rfl | hvalue
    · exact ⟨List.forall_mem_nil _, List.forall_mem_nil _⟩
    · obtain ⟨value, _, rfl⟩ := List.mem_map.mp hvalue
      exact links.formatValue_ok type value

theorem formatRow_ok (columns : List Column) (row : List Text) :
    (links.formatRow columns row).Forall fun inline =>
      inline.Named ∧ inline.Leads links.Reaches := by
  intro content hcontent
  obtain ⟨⟨cell, place⟩, _, rfl⟩ := List.mem_map.mp hcontent
  exact links.formatCell_ok _ cell

theorem headerCell_named (sort : Option SortKey) (key label : Text) :
    ∀ inline ∈ links.headerCell sort key label, inline.Named := by
  intro inline hinline
  rcases List.mem_append.mp hinline with harrow | hlink
  · unfold sortArrow at harrow
    split at harrow
    · rcases List.mem_pair.mp harrow with rfl | rfl
      · exact List.forall_mem_nil _
      · exact List.forall_mem_nil _
    · cases harrow
  · rw [List.mem_singleton.mp hlink]
    simp [Inline.Named, Inline.attributes, Word]

theorem table_shows (view : TableView) : Shows (links.render view) [(links.table view).node] := by
  apply Table.shows
  · intro content hcontent
    obtain ⟨⟨column, label⟩, _, rfl⟩ := List.mem_map.mp hcontent
    exact links.headerCell_named view.sort column.key label
  · intro row hrow
    obtain ⟨values, _, rfl⟩ := List.mem_map.mp hrow
    intro content hcontent inline hinline
    exact (links.formatRow_ok view.columns values content hcontent inline hinline).1

end LinkSettings

/-- A row of so many cells of one kind, which hold plain text, spans and links to addresses that are
allowed. -/
def Node.IsRow (cell : Text) (allowed : Text → Prop) (n : Nat) (node : Node) : Prop :=
  ∃ cells, node = .element ⟨"tr".toList, []⟩ cells ∧ cells.length = n ∧
    ∀ member ∈ cells, ∃ content, member = .element ⟨cell, []⟩ content ∧
      ∀ node ∈ content, node.All Plain (Tag.InCell allowed)

theorem Row.isRow_node (cell : Text) {allowed : Text → Prop} {row : Row}
    (h : row.Forall (Inline.Leads allowed)) :
    (row.node cell).IsRow cell allowed row.cells.length := by
  refine ⟨row.cells.map (cellNode cell), rfl, List.length_map _, ?_⟩
  intro member hmember
  obtain ⟨content, hcontent, rfl⟩ := List.mem_map.mp hmember
  exact ⟨content.flatMap Inline.nodes, rfl, all_cellNode (h content hcontent)⟩

/-- A rendered table is one element with a header row of as many header cells as there are columns
with headers, and then one row for each row of the view, with one cell for each of its values. -/
theorem render_has_fixed_structure (links : LinkSettings) (view : TableView) :
    ∃ attributes header rows,
      parse (links.render view) =
        some [.element ⟨"table".toList, attributes⟩ (header :: rows)] ∧
      (Node.element ⟨"table".toList, attributes⟩ (header :: rows)).All Plain
        (Tag.Among elementNames) ∧
      header.IsRow "th".toList (fun _ => True) (min view.columns.length view.headers.length) ∧
      List.Forall₂ (fun row values => row.IsRow "td".toList links.Reaches values.length)
        rows view.rows := by
  refine ⟨[⟨"class".toList, escape (links.table view).classes⟩],
    (links.table view).header.node "th".toList,
    (links.table view).rows.map (Row.node "td".toList),
    parse_of_shows (links.table_shows view), (links.table view).all_node, ?_, ?_⟩
  · have hheader : (links.table view).header.cells.length =
        min view.columns.length view.headers.length := by
      rw [← List.length_zip]
      exact List.length_map _
    rw [← hheader]
    apply Row.isRow_node
    intro _ _ _ _ _ _ _
    trivial
  · apply List.forall₂_map_left_iff.mpr
    apply List.forall₂_map_left_iff.mpr
    apply List.forall₂_same.mpr
    intro values _
    have hcells : (links.formatRow view.columns values).cells.length = values.length := by
      simp [LinkSettings.formatRow]
    rw [← hcells]
    apply Row.isRow_node
    intro content hcontent inline hinline
    exact (links.formatRow_ok view.columns values content hcontent inline hinline).2

end WikiPivot.Html
