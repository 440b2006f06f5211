import WikiPivot.Proofs.Column
import WikiPivot.Proofs.Directive.Clauses
import WikiPivot.Proofs.Directive.Reading
import WikiPivot.Proofs.Settings

/-! # Tables written as directives

A table whose texts can stand in a line is written as a selection, its headers, a sort and one line
for each filter. Reading those lines gives the table back and reports nothing.
-/
namespace WikiPivot

open Text Directive

def listed (ts : List Text) : Text := ", ".toList.intercalate ts

structure Column.Writable (sentinel : Text) (column : Column) : Prop where
  key : IsKey column.key
  whole : ',' ∉ column.key
  type : ∃ token, column.type = ColumnType.ofToken token
  name : ',' ∉ column.type.name
  identity : column.key = sentinel → column.type = .page

structure SortKey.Writable (marker : Char) (sort : SortKey) : Prop where
  key : IsKey sort.key
  unmarked : sort.direction = .ascending → sort.key.head? ≠ some marker

structure Filter.Writable (filter : Filter) : Prop where
  key : IsKey filter.key
  free : ∀ entry ∈ Comparator.spellings, ¬ entry.1 <:+: filter.key
  value : ∃ value, trim value = value ∧ filter.value = Literal.ofText value ∧
    (filter.comparator = .like → '*' ∉ value)

structure TableSpec.Writable (settings : DirectiveSettings) (spec : TableSpec) : Prop where
  classes : trim spec.classes = spec.classes
  distinct : (spec.columns.map (·.key)).Nodup
  columns : ∀ column ∈ spec.columns, column.Writable settings.sentinel
  labelled : spec.headers.length = spec.columns.length
  headers : ∀ header ∈ spec.headers, trim header = header ∧ ',' ∉ header
  sort : ∀ sort ∈ spec.sort, sort.Writable settings.descendingMarker
  filters : ∀ filter ∈ spec.filters, filter.Writable

def Column.written (column : Column) : Text := column.key ++ ' ' :: column.type.name

def Logic.written : Logic → Text
  | and => "and".toList
  | or => "or".toList

/-- A line for a filter: any spelling of its comparator and any value that its literal quotes. -/
inductive Filter.Written (filter : Filter) : Text → Prop where
  | mk {token value : Text} : (token, filter.comparator) ∈ Comparator.spellings →
      trim value = value → filter.value = Literal.ofText value →
      (filter.comparator = .like → '*' ∉ value) →
      filter.Written (instructionLine filter.logic.written
        (filter.key ++ ' ' :: (token ++ ' ' :: value)))

/-- The lines of a table; without columns nothing is selected. -/
inductive TableSpec.Written (marker : Char) (spec : TableSpec) : List Text → Prop where
  | mk {filterLines : List Text} : List.Forall₂ Filter.Written spec.filters filterLines →
      spec.Written marker
        ((if spec.columns = [] then [] else
            [instructionLine "select".toList (listed (spec.columns.map Column.written)),
              instructionLine "head".toList (listed spec.headers)]) ++
          spec.sort.toList.map (fun sort =>
            instructionLine "sort".toList (sort.parameter marker)) ++
          filterLines)

def TableSpec.clauses (spec : TableSpec) : List Clause :=
  (if spec.columns = [] then [] else [.select spec.columns, .headers spec.headers]) ++
    spec.sort.toList.map (fun sort => .sort (some sort)) ++ spec.filters.map .filter

theorem map_trim_pieces_listed {ts : List Text} (hne : ts ≠ []) (h : ∀ t ∈ ts, ',' ∉ t) :
    (pieces ',' (listed ts)).map trim = ts.map trim := by
  induction ts with
  | nil => exact absurd rfl hne
  | cons t ts ih =>
    obtain ⟨ht, hts⟩ := List.forall_mem_cons.mp h
    cases ts with
    | nil =>
      have hone : listed [t] = t := by simp [listed]
      rw [hone, pieces_of_not_mem ht]
    | cons u us =>
      have hcons : listed (t :: u :: us) = t ++ ',' :: ([' '] ++ listed (u :: us)) := by
        simp [listed, List.intercalate]
      have hpieces : (pieces ',' ([' '] ++ listed (u :: us))).map trim = (u :: us).map trim := by
        obtain ⟨first, more, hfirst⟩ :=
          List.exists_cons_of_ne_nil (pieces_ne_nil ',' (listed (u :: us)))
        have hblank : trim ([' '] ++ first) = trim first := trim_cons_of_isBlank (by decide) first
        rw [← ih (List.cons_ne_nil _ _) hts, pieces_append_left (by decide), hfirst,
          List.modifyHead_cons, List.map_cons, List.map_cons, hblank]
      rw [hcons, pieces_append_cons ht, List.map_cons, hpieces]
      rfl

section

variable {settings : DirectiveSettings} {spec : TableSpec}

theorem column?_written {sentinel : Text} {column : Column} (h : column.Writable sentinel) :
    (ColumnMention.ofToken sentinel column.written).column? = some column := by
  obtain ⟨token, htype⟩ := h.type
  obtain ⟨htrim, hne, hread⟩ := ColumnType.ofToken_name token
  rw [← htype] at htrim hne hread
  rw [Column.written, ColumnMention.ofToken_typed h.key sentinel htrim hne, hread]
  have hshown : column.key.isEmpty = false := by simpa using h.key.nonempty
  obtain ⟨key, type⟩ := column
  simp only [ColumnMention.column?, hshown, ColumnMention.type, Option.getD_some]
  by_cases hidentity : key = sentinel
  · have hpage : type = .page := h.identity hidentity
    simp [hidentity, hpage]
  · simp [hidentity]

theorem ofInstruction_select (h : spec.Writable settings) (hne : spec.columns ≠ []) :
    Clause.ofInstruction settings (trim (listed (spec.columns.map Column.written))) .select =
      .select spec.columns := by
  have hcommas : ∀ t ∈ spec.columns.map Column.written, ',' ∉ t := by
    intro t ht
    obtain ⟨column, hcolumn, rfl⟩ := List.mem_map.mp ht
    have hwritable := h.columns column hcolumn
    simp [Column.written, hwritable.whole, hwritable.name]
  -- Tokens are trimmed when they are read, so the blanks that a list puts around them do not count.
  have hread : ∀ tokens : List Text,
      tokens.filterMap (fun token => (ColumnMention.ofToken settings.sentinel token).column?) =
        (tokens.map trim).filterMap fun token =>
          (ColumnMention.ofToken settings.sentinel token).column? := by
    intro tokens
    simp only [List.filterMap_map, Function.comp_def, ColumnMention.ofToken_trim]
  have hcolumns : (spec.columns.map Column.written).filterMap
      (fun token => (ColumnMention.ofToken settings.sentinel token).column?) = spec.columns := by
    rw [List.filterMap_map]
    calc spec.columns.filterMap _ = spec.columns.filterMap some :=
          List.filterMap_congr fun column hcolumn => column?_written (h.columns column hcolumn)
      _ = spec.columns := List.filterMap_some
  rw [Clause.ofInstruction, hread, map_trim_pieces_trim (by decide),
    map_trim_pieces_listed (by simpa using hne) hcommas, ← hread, hcolumns]

theorem ofInstruction_headers (h : spec.Writable settings) (hne : spec.columns ≠ []) :
    Clause.ofInstruction settings (trim (listed spec.headers)) .headers =
      .headers spec.headers := by
  have hheaders : spec.headers ≠ [] := by
    rw [← List.length_pos_iff, h.labelled, List.length_pos_iff]
    exact hne
  have htrim : spec.headers.map trim = spec.headers := by
    conv_rhs => rw [← List.map_id spec.headers]
    exact List.map_congr_left fun header hheader => (h.headers header hheader).1
  rw [Clause.ofInstruction, map_trim_pieces_trim (by decide),
    map_trim_pieces_listed hheaders fun header hheader => (h.headers header hheader).2, htrim]

theorem ofInstruction_sort (hmarker : isMarker settings.descendingMarker = true) {sort : SortKey}
    (h : sort.Writable settings.descendingMarker) :
    Clause.ofInstruction settings (trim (sort.parameter settings.descendingMarker)) .sort =
      .sort (some sort) := by
  rw [Clause.ofInstruction, parse?_trim, parse?_parameter h.key hmarker h.unmarked]

theorem ofLine?_filter {filter : Filter} (h : filter.Writable) {line : Text}
    (hline : filter.Written line) : Clause.ofLine? settings line = some (.filter filter) := by
  obtain ⟨htoken, htrim, hvalue, hstar⟩ := hline
  have hname : (filter.logic.written, Instruction.filter filter.logic) ∈ Instruction.aliases := by
    cases filter.logic <;> decide
  rw [ofLine?_instructionLine settings hname, Clause.ofInstruction,
    Clause.ofFilter_written h.key h.free htoken (trim_eq_self_iff.mp htrim) hstar, ← hvalue]

theorem filterMap_ofLine?_filters {filters : List Filter} {lines : List Text}
    (hall : ∀ filter ∈ filters, filter.Writable)
    (hlines : List.Forall₂ Filter.Written filters lines) :
    lines.filterMap (Clause.ofLine? settings) = filters.map .filter := by
  induction hlines with
  | nil => rfl
  | cons hline _ ih =>
    obtain ⟨hfirst, hrest⟩ := List.forall_mem_cons.mp hall
    rw [List.filterMap_cons_some (ofLine?_filter hfirst hline), ih hrest, List.map_cons]

theorem filterMap_ofLine?_written (hmarker : isMarker settings.descendingMarker = true)
    (h : spec.Writable settings) {lines : List Text}
    (hlines : spec.Written settings.descendingMarker lines) :
    lines.filterMap (Clause.ofLine? settings) = spec.clauses := by
  obtain ⟨hfilters⟩ := hlines
  rename_i filterLines
  have hcolumns : ((if spec.columns = [] then [] else
        [instructionLine "select".toList (listed (spec.columns.map Column.written)),
          instructionLine "head".toList (listed spec.headers)]).filterMap
      (Clause.ofLine? settings)) =
      if spec.columns = [] then [] else [.select spec.columns, .headers spec.headers] := by
    split
    · rfl
    · rename_i hne
      simp only [List.filterMap_cons, List.filterMap_nil]
      have hselect : ("select".toList, Instruction.select) ∈ Instruction.aliases := by decide
      have hhead : ("head".toList, Instruction.headers) ∈ Instruction.aliases := by decide
      rw [ofLine?_instructionLine settings hselect, ofLine?_instructionLine settings hhead,
        ofInstruction_select h hne, ofInstruction_headers h hne]
  have hsort : (spec.sort.toList.map (fun sort => instructionLine "sort".toList
        (sort.parameter settings.descendingMarker))).filterMap (Clause.ofLine? settings) =
      spec.sort.toList.map fun sort => .sort (some sort) := by
    cases hspec : spec.sort with
    | none => rfl
    | some sort =>
      simp only [Option.toList_some, List.map_cons, List.map_nil, List.filterMap_cons,
        List.filterMap_nil]
      have halias : ("sort".toList, Instruction.sort) ∈ Instruction.aliases := by decide
      rw [ofLine?_instructionLine settings halias,
        ofInstruction_sort hmarker (h.sort sort hspec)]
  rw [List.filterMap_append, List.filterMap_append, hcolumns, hsort,
    filterMap_ofLine?_filters h.filters hfilters, TableSpec.clauses]

theorem filterMap_clauses {α : Type} (f : Clause → Option α) (spec : TableSpec) :
    spec.clauses.filterMap f =
      (if spec.columns = [] then [] else
        [Clause.select spec.columns, Clause.headers spec.headers].filterMap f) ++
        spec.sort.toList.filterMap (fun sort => f (.sort (some sort))) ++
        spec.filters.filterMap (fun filter => f (.filter filter)) := by
  rw [TableSpec.clauses, List.filterMap_append, List.filterMap_append, List.filterMap_map,
    List.filterMap_map]
  split
  · rfl
  · rfl

theorem columnsOf_clauses (h : spec.Writable settings) : columnsOf spec.clauses = spec.columns := by
  have hselected : spec.clauses.flatMap (·.columns) = spec.columns := by
    have hfilters : (spec.filters.map Clause.filter).flatMap (·.columns) = [] := by
      simp [List.flatMap_map, Clause.columns]
    have hsort : (spec.sort.toList.map (fun sort => Clause.sort (some sort))).flatMap
        (·.columns) = [] := by
      simp [List.flatMap_map, Clause.columns]
    rw [TableSpec.clauses, List.flatMap_append, List.flatMap_append, hfilters, hsort]
    split
    · rename_i hnone
      rw [hnone]
      rfl
    · simp [Clause.columns]
  have hnodup : (([] ++ spec.columns).map Column.key).Nodup := h.distinct
  rw [columnsOf, hselected, Column.foldl_insert_of_nodup hnodup, List.nil_append]

theorem headersFor_clauses (h : spec.Writable settings) :
    headersFor settings spec.columns (spec.clauses.filterMap (·.labels?)) = (spec.headers, []) := by
  rw [filterMap_clauses]
  by_cases hnone : spec.columns = []
  · have hheaders : spec.headers = [] := by
      rw [← List.length_eq_zero_iff, h.labelled, hnone]
      rfl
    rw [if_pos hnone, hnone, hheaders]
    simp [Clause.labels?, headersFor, TableSpec.defaultHeaders]
  · rw [if_neg hnone, headersFor]
    simp [Clause.labels?, h.labelled]

theorem sort_clauses : (spec.clauses.filterMap (·.sort?)).getLast? = spec.sort := by
  rw [filterMap_clauses]
  cases spec.sort <;> simp [Clause.sort?]

theorem filters_clauses : spec.clauses.filterMap (·.filter?) = spec.filters := by
  rw [filterMap_clauses]
  simp [Clause.filter?]

theorem diagnostic?_clauses : ∀ clause ∈ spec.clauses, ∀ line, clause.diagnostic? line = none := by
  intro clause hclause line
  rw [TableSpec.clauses, List.mem_append, List.mem_append] at hclause
  rcases hclause with (hclause | hclause) | hclause
  · split at hclause
    · exact absurd hclause List.not_mem_nil
    · simp only [List.mem_cons, List.not_mem_nil, or_false] at hclause
      rcases hclause with rfl | rfl
      · rfl
      · rfl
  · obtain ⟨sort, -, rfl⟩ := List.mem_map.mp hclause
    rfl
  · obtain ⟨filter, -, rfl⟩ := List.mem_map.mp hclause
    rfl

theorem read_of_clauses (h : spec.Writable settings) {lines : List Text}
    (hlines : lines.filterMap (Clause.ofLine? settings) = spec.clauses) :
    Directive.read settings spec.classes lines = ⟨spec, []⟩ := by
  have hheaders := headersFor_clauses h
  have hspec : (Directive.read settings spec.classes lines).spec = spec := by
    rw [spec_read hlines, specOf, columnsOf_clauses h, hheaders, sort_clauses, filters_clauses,
      h.classes]
  have hdiagnostics : (Directive.read settings spec.classes lines).diagnostics = [] := by
    apply diagnostics_read hlines diagnostic?_clauses
    rw [columnsOf_clauses h, hheaders]
  cases hread : Directive.read settings spec.classes lines with
  | mk readSpec readDiagnostics =>
    rw [hread] at hspec hdiagnostics
    simp only at hspec hdiagnostics
    rw [hspec, hdiagnostics]

theorem Filter.Writable.exists_written {filter : Filter} (h : filter.Writable) :
    ∃ line, filter.Written line := by
  obtain ⟨token, htoken⟩ := Comparator.exists_spelling filter.comparator
  obtain ⟨value, htrim, hvalue, hstar⟩ := h.value
  exact ⟨_, .mk htoken htrim hvalue hstar⟩

theorem exists_written (marker : Char) (h : spec.Writable settings) :
    ∃ lines, spec.Written marker lines := by
  have hfilters : ∀ filters : List Filter, (∀ filter ∈ filters, filter.Writable) →
      ∃ filterLines, List.Forall₂ Filter.Written filters filterLines := by
    intro filters hall
    induction filters with
    | nil => exact ⟨[], .nil⟩
    | cons filter filters ih =>
      obtain ⟨hfirst, hrest⟩ := List.forall_mem_cons.mp hall
      obtain ⟨line, hline⟩ := hfirst.exists_written
      obtain ⟨filterLines, hwritten⟩ := ih hrest
      exact ⟨line :: filterLines, .cons hline hwritten⟩
  obtain ⟨filterLines, hwritten⟩ := hfilters spec.filters h.filters
  exact ⟨_, .mk hwritten⟩

end

/-- Every table whose texts can stand in a line has a written form, and whichever spellings and
values stand in it, reading it gives the table back and reports nothing. -/
theorem read_written {settings : DirectiveSettings} (accepted : settings.Accepted)
    {spec : TableSpec} (writable : spec.Writable settings) :
    (∃ lines, spec.Written settings.descendingMarker lines) ∧
      ∀ lines, spec.Written settings.descendingMarker lines →
        Directive.read settings spec.classes lines = ⟨spec, []⟩ := by
  refine ⟨exists_written _ writable, ?_⟩
  intro lines hlines
  exact read_of_clauses writable (filterMap_ofLine?_written accepted.marker writable hlines)

def markedSpec : TableSpec :=
  { classes := "wiki sortable".toList
    columns := [⟨"a:b\\".toList, .other "Foo #1".toList⟩, ⟨"%pageid%".toList, .page⟩]
    headers := [[], "x: &#39;".toList]
    sort := some ⟨"^n#".toList, .descending⟩
    filters := [⟨"k:".toList, .like, .ofText "\\:&#39; 'q' <= #".toList, .or⟩,
      ⟨"%".toList, .notEqual, .ofText [], .and⟩] }

def markedLines : List Text :=
  ["select: a\\:b\\ Foo \\#1, %pageid% page".toList,
    "head: , x\\: &\\#39;".toList,
    "sort: ^^n\\#".toList,
    "or: k\\: =~ \\\\:&\\#39; 'q' <= \\#".toList,
    "and: % <> ".toList]

theorem markedSpec_writable : markedSpec.Writable {} where
  classes := by decide +kernel
  distinct := by decide +kernel
  columns := by
    have hfirst : Column.Writable "%pageid%".toList ⟨"a:b\\".toList, .other "Foo #1".toList⟩ :=
      ⟨.of_all (by decide) (by decide) (by decide +kernel), by decide,
        ⟨"Foo #1".toList, by decide +kernel⟩, by decide, by decide⟩
    have hsecond : Column.Writable "%pageid%".toList ⟨"%pageid%".toList, .page⟩ :=
      ⟨.of_all (by decide) (by decide) (by decide +kernel), by decide,
        ⟨"PAGE".toList, by decide +kernel⟩, by decide, by decide⟩
    exact List.forall_mem_cons.mpr ⟨hfirst, List.forall_mem_singleton.mpr hsecond⟩
  labelled := rfl
  headers := by decide +kernel
  sort := by
    rintro sort ⟨⟩
    exact ⟨.of_all (by decide) (by decide) (by decide +kernel), by decide⟩
  filters := by
    have hfirst : Filter.Writable
        ⟨"k:".toList, .like, .ofText "\\:&#39; 'q' <= #".toList, .or⟩ :=
      ⟨.of_all (by decide) (by decide) (by decide +kernel), by decide,
        ⟨"\\:&#39; 'q' <= #".toList, by decide +kernel, rfl, by decide⟩⟩
    have hsecond : Filter.Writable ⟨"%".toList, .notEqual, .ofText [], .and⟩ :=
      ⟨.of_all (by decide) (by decide) (by decide +kernel), by decide,
        ⟨[], by decide +kernel, rfl, by decide⟩⟩
    exact List.forall_mem_cons.mpr ⟨hfirst, List.forall_mem_singleton.mpr hsecond⟩

theorem markedLines_written : markedSpec.Written '^' markedLines := by
  have hfilters : List.Forall₂ Filter.Written markedSpec.filters
      [instructionLine "or".toList ("k:".toList ++ ' ' :: ("=~".toList ++ ' ' ::
          "\\:&#39; 'q' <= #".toList)),
        instructionLine "and".toList ("%".toList ++ ' ' :: ("<>".toList ++ ' ' :: []))] :=
    .cons (.mk (by decide +kernel) (by decide +kernel) rfl (by decide +kernel))
      (.cons (.mk (by decide +kernel) (by decide +kernel) rfl (by decide +kernel)) .nil)
  have hwritten : markedSpec.Written '^' _ := .mk hfilters
  convert hwritten using 1
  decide +kernel

theorem markedSpec_read_back :
    Directive.read {} "wiki sortable".toList markedLines = ⟨markedSpec, []⟩ :=
  (read_written ⟨by decide +kernel, by decide +kernel, by decide +kernel⟩ markedSpec_writable).2
    markedLines markedLines_written

end WikiPivot
