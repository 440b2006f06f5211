import WikiPivot.Proofs.Column
import WikiPivot.Proofs.Directive.Clauses
import WikiPivot.Proofs.Directive.Reading
import WikiPivot.Proofs.Directive.Writing

/-! # The table that a directive is read as

Whatever the lines are, their keys are single words that lowercasing keeps, every column has a key
of its own and a header, and the page itself is shown as a page. A column keeps this however often
it is named again, and headers are brought into line once all columns are known.
-/
namespace WikiPivot

open Text Directive

theorem Text.not_mem_of_mem_pieces {mark : Char} {t piece : Text} (h : piece ∈ pieces mark t) :
    mark ∉ piece := by
  induction t generalizing piece with
  | nil =>
    rw [List.mem_singleton.mp h]
    exact List.not_mem_nil
  | cons c t ih =>
    rw [pieces] at h
    split at h
    · rcases List.mem_cons.mp h with rfl | hrest
      · exact List.not_mem_nil
      · exact ih hrest
    · rename_i hc
      obtain ⟨first, more, hpieces⟩ := List.exists_cons_of_ne_nil (pieces_ne_nil mark t)
      rw [hpieces] at ih h
      rcases List.mem_cons.mp h with rfl | hmore
      · rw [List.mem_cons, not_or]
        exact ⟨Ne.symm hc, ih List.mem_cons_self⟩
      · exact ih (List.mem_cons_of_mem _ hmore)

namespace ColumnMention

variable (sentinel token : Text)

/-- A token names a key unless it is blank. -/
theorem isKey_ofToken (h : (ofToken sentinel token).key ≠ []) :
    IsKey (ofToken sentinel token).key where
  nonempty := h
  unblank := by
    apply unblank_lowercase
    intro c hc
    simpa using List.mem_takeWhile_imp hc
  lowercase := lowercase_lowercase _

theorem comma_not_mem_key_ofToken (h : ',' ∉ token) : ',' ∉ (ofToken sentinel token).key := by
  apply comma_not_mem_lowercase
  intro hc
  obtain ⟨pre, post, -, -, htoken⟩ := exists_trim token
  have hword : ',' ∈ trim token := (List.takeWhile_sublist _).mem hc
  rw [htoken] at h
  exact h (List.mem_append_right _ (List.mem_append_left _ hword))

end ColumnMention

theorem IsKey.of_cons {c : Char} {rest : Text} (h : IsKey (c :: rest)) (hrest : rest ≠ []) :
    IsKey rest where
  nonempty := hrest
  unblank := fun d hd => h.unblank d (List.mem_cons_of_mem _ hd)
  lowercase := by
    rw [lowercase_eq_self_iff]
    exact fun d hd => lowercase_eq_self_iff.mp h.lowercase d (List.mem_cons_of_mem _ hd)

/-- A sort that was read can be written: its key is one, and an ascending one has no marker. -/
theorem SortKey.writable_of_parse? {sentinel token : Text} {marker : Char} {sort : SortKey}
    (h : SortKey.parse? sentinel marker token = some sort) : sort.Writable marker := by
  have hkey := ColumnMention.isKey_ofToken sentinel token
  rw [SortKey.parse?] at h
  cases hmention : (ColumnMention.ofToken sentinel token).key with
  | nil =>
    rw [hmention] at h
    exact absurd h (by simp [SortKey.ofKey])
  | cons c rest =>
    rw [hmention] at hkey h
    have hword : IsKey (c :: rest) := hkey (List.cons_ne_nil _ _)
    by_cases hc : c = marker
    · -- the marker is taken off, and a key is left behind it
      rw [SortKey.ofKey, if_pos hc] at h
      simp only [List.isEmpty_iff] at h
      rw [Option.ite_none_left_eq_some, Option.some.injEq] at h
      obtain ⟨hrest, rfl⟩ := h
      exact ⟨hword.of_cons hrest, fun hascending => by cases hascending⟩
    · rw [SortKey.ofKey, if_neg hc] at h
      obtain rfl : (⟨c :: rest, .ascending⟩ : SortKey) = sort := by simpa using h
      exact ⟨hword, fun _ => by simpa using hc⟩

structure Column.Sound (sentinel : Text) (column : Column) : Prop where
  key : IsKey column.key
  whole : ',' ∉ column.key
  identity : column.key = sentinel → column.type = .page

theorem ColumnMention.sound_of_column? {sentinel token : Text} (htoken : ',' ∉ token)
    {column : Column} (h : (ofToken sentinel token).column? = some column) :
    column.Sound sentinel := by
  rw [column?, Option.ite_none_left_eq_some, Option.some.injEq] at h
  obtain ⟨hkey, rfl⟩ := h
  have hne : (ofToken sentinel token).key ≠ [] := by simpa using hkey
  refine ⟨isKey_ofToken sentinel token hne, comma_not_mem_key_ofToken sentinel token htoken, ?_⟩
  intro hidentity
  have hmention : (ofToken sentinel token).isIdentity = true := beq_iff_eq.mpr hidentity
  simp only [type, hmention, if_true]

/-- What reading guarantees of a table: headers and columns go together, and every key is one word
that lowercasing keeps. -/
structure TableSpec.WellFormed (settings : DirectiveSettings) (spec : TableSpec) : Prop where
  labelled : spec.headers.length = spec.columns.length
  distinct : (spec.columns.map (·.key)).Nodup
  columns : ∀ column ∈ spec.columns, column.Sound settings.sentinel
  sort : ∀ sort ∈ spec.sort, sort.Writable settings.descendingMarker
  filters : ∀ filter ∈ spec.filters, IsKey filter.key

namespace Directive

inductive Clause.Sound (settings : DirectiveSettings) : Clause → Prop where
  | select {columns : List Column} (h : ∀ column ∈ columns, column.Sound settings.sentinel) :
    Sound settings (.select columns)
  | headers (labels : List Text) : Sound settings (.headers labels)
  | sort {key : Option SortKey} (h : ∀ sort ∈ key, sort.Writable settings.descendingMarker) :
    Sound settings (.sort key)
  | filter {condition : Filter} (h : IsKey condition.key) : Sound settings (.filter condition)
  | malformed (argument : Text) (problem : FilterProblem) :
    Sound settings (.malformed argument problem)
  | unknown (name : Text) : Sound settings (.unknown name)

namespace Clause

theorem sound_ofFilter (settings : DirectiveSettings) (logic : Logic) (argument : Text) :
    (ofFilter settings.sentinel logic argument).Sound settings := by
  unfold ofFilter
  split
  · exact .malformed _ _
  · split
    · exact .malformed _ _
    · simp only
      split
      · exact .malformed _ _
      · rename_i hkey
        exact .filter (ColumnMention.isKey_ofToken _ _ (by simpa using hkey))

theorem sound_ofInstruction (settings : DirectiveSettings) (argument : Text)
    (instruction : Instruction) : (ofInstruction settings argument instruction).Sound settings := by
  cases instruction with
  | select =>
    refine .select ?_
    intro column hcolumn
    obtain ⟨token, htoken, hread⟩ := List.mem_filterMap.mp hcolumn
    exact ColumnMention.sound_of_column? (not_mem_of_mem_pieces htoken) hread
  | headers => exact .headers _
  | sort => exact .sort fun sort hsort => SortKey.writable_of_parse? hsort
  | filter logic => exact sound_ofFilter settings logic argument

theorem sound_ofLine? {settings : DirectiveSettings} {line : Text} {clause : Clause}
    (h : ofLine? settings line = some clause) : clause.Sound settings := by
  obtain ⟨⟨name, argument⟩, -, rfl⟩ := Option.map_eq_some_iff.mp h
  simp only
  split
  · exact sound_ofInstruction settings argument _
  · exact .unknown name

end Clause

theorem length_headersFor (settings : DirectiveSettings) (columns : List Column)
    (declared : List (List Text)) :
    (headersFor settings columns declared).1.length = columns.length := by
  unfold headersFor
  simp only
  split
  · rename_i hfits
    simp only [Bool.and_eq_true, beq_iff_eq] at hfits
    exact hfits.2
  · simp [TableSpec.defaultHeaders]

/-- Sound clauses make up a well-formed table, in whatever order they stand. -/
theorem wellFormed_specOf {settings : DirectiveSettings} {found : List Clause}
    (h : ∀ clause ∈ found, clause.Sound settings) (classes : Text) :
    (specOf settings classes found).WellFormed settings where
  labelled := length_headersFor settings _ _
  distinct := by
    rw [specOf, columnsOf, Column.map_key_foldl_insert]
    exact nodup_distinct _
  columns := by
    intro column hcolumn
    have hlast := Column.mem_foldl_insert_iff.mp hcolumn
    have hnamed := List.mem_of_mem_filter (List.mem_of_getLast? hlast)
    obtain ⟨clause, hclause, hnamed⟩ := List.mem_flatMap.mp hnamed
    cases h clause hclause with
    | select hcolumns => exact hcolumns column hnamed
    | _ => exact absurd hnamed List.not_mem_nil
  sort := by
    intro sort hsort
    obtain ⟨clause, hclause, hread⟩ := List.mem_filterMap.mp (List.mem_of_getLast? hsort)
    cases h clause hclause with
    | sort hkey => exact hkey sort hread
    | _ => cases hread
  filters := by
    intro filter hfilter
    obtain ⟨clause, hclause, hread⟩ := List.mem_filterMap.mp hfilter
    cases h clause hclause with
    | filter hkey =>
      cases hread
      exact hkey
    | _ => cases hread

theorem wellFormed_read (settings : DirectiveSettings) (classes : Text) (lines : List Text) :
    (read settings classes lines).spec.WellFormed settings := by
  rw [spec_read rfl]
  apply wellFormed_specOf
  intro clause hclause
  obtain ⟨line, -, hread⟩ := List.mem_filterMap.mp hclause
  exact Clause.sound_ofLine? hread

/-- Whatever is read is well formed. Headers that are not declared, or not one for each column, are
the keys of the columns with the label for the page itself; others stand as they are declared. -/
theorem read_is_wellFormed (settings : DirectiveSettings) (classes : Text) (lines : List Text) :
    let spec := (read settings classes lines).spec
    let declared := (lines.filterMap (Clause.ofLine? settings)).filterMap (·.labels?)
    spec.WellFormed settings ∧
      (declared = [] ∨ declared.flatten.length ≠ spec.columns.length →
        spec.headers = spec.columns.map fun column =>
          if column.key = settings.sentinel then settings.pageNameLabel else column.key) ∧
      (declared ≠ [] → declared.flatten.length = spec.columns.length →
        spec.headers = declared.flatten) := by
  intro spec declared
  have hheaders : spec.headers = (headersFor settings spec.columns declared).1 := by
    have hspec : spec = specOf settings classes (lines.filterMap (Clause.ofLine? settings)) :=
      spec_read rfl classes
    rw [hspec]
    rfl
  refine ⟨wellFormed_read settings classes lines, ?_, ?_⟩
  · intro hdefault
    have hmisfit :
        (!declared.isEmpty && declared.flatten.length == spec.columns.length) = false := by
      rcases hdefault with hnone | hcount
      · simp [hnone]
      · rw [beq_eq_false_iff_ne.mpr hcount, Bool.and_false]
    rw [hheaders, headersFor, hmisfit]
    simp only [Bool.false_eq_true, if_false, TableSpec.defaultHeaders, List.map_map]
    rfl
  · intro hdeclared hcount
    have hfits : (!declared.isEmpty && declared.flatten.length == spec.columns.length) = true := by
      simp [hdeclared, hcount]
    rw [hheaders, headersFor, hfits, if_pos rfl]

end Directive

end WikiPivot
