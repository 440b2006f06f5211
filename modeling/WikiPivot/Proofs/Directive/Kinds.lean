import WikiPivot.Proofs.Directive.OnePass

/-! # Lines of different kinds

A line changes one part of the draft, that of its kind, and looks at no other part. So a table stays
the same when lines of different kinds change places, and when lines of no kind come or go. Of the
reports only line numbers and unknown names tell the difference.
-/
namespace WikiPivot

namespace Diagnostic

def malformed? : Diagnostic → Option (Text × FilterProblem)
  | malformedFilter _ argument problem => some (argument, problem)
  | _ => none

def headerCount? : Diagnostic → Option (Nat × Nat)
  | headerCount headers columns => some (headers, columns)
  | _ => none

end Diagnostic

namespace Directive

inductive LineKind where
  | select
  | headers
  | sort
  | filter
  deriving DecidableEq, Repr

def LineKind.ofInstruction : Instruction → LineKind
  | .select => select
  | .headers => headers
  | .sort => sort
  | .filter _ => filter

/-- Comments, lines without a colon and lines with an unknown name are of no kind. -/
def lineKind? (line : Text) : Option LineKind :=
  (instructionText? line).bind fun (name, _) =>
    (Instruction.ofName? name).map LineKind.ofInstruction

def Clause.kind? : Clause → Option LineKind
  | select _ => some .select
  | headers _ => some .headers
  | sort _ => some .sort
  | filter _ => some .filter
  | malformed .. => some .filter
  | unknown _ => none

theorem kind?_ofFilter (sentinel : Text) (logic : Logic) (argument : Text) :
    (Clause.ofFilter sentinel logic argument).kind? = some .filter := by
  unfold Clause.ofFilter
  split
  · rfl
  · split
    · rfl
    · simp only
      split
      · rfl
      · rfl

/-- What a line says is of the kind that its instruction has. -/
theorem kind?_ofLine? (settings : DirectiveSettings) (line : Text) :
    (Clause.ofLine? settings line).bind Clause.kind? = lineKind? line := by
  rw [Clause.ofLine?, lineKind?]
  cases instructionText? line with
  | none => rfl
  | some said =>
    obtain ⟨name, argument⟩ := said
    simp only [Option.map_some, Option.bind_some]
    cases Instruction.ofName? name with
    | none => rfl
    | some instruction =>
      cases instruction with
      | filter logic => exact kind?_ofFilter settings.sentinel logic argument
      | _ => rfl

/-- What lines of one kind make up. Filters are reported here without their line numbers. -/
inductive Part where
  | columns (columns : List Column)
  | labels (labels : List Text) (isLabelled : Bool)
  | sort (key : Option SortKey)
  | filters (filters : List Filter) (malformed : List (Text × FilterProblem))

namespace Draft

def part (draft : Draft) : LineKind → Part
  | .select => .columns draft.columns
  | .headers => .labels draft.labels draft.isLabelled
  | .sort => .sort draft.sort
  | .filter => .filters draft.filters (draft.reports.filterMap (·.malformed?))

/-- A clause of another kind leaves the part as it is. -/
theorem part_add_of_ne {clause : Clause} {kind : LineKind} (h : clause.kind? ≠ some kind)
    (draft : Draft) (number : Nat) : (draft.add number clause).part kind = draft.part kind := by
  cases clause with
  | select columns =>
    cases kind with
    | select => exact absurd rfl h
    | _ => rfl
  | headers labels =>
    cases kind with
    | headers => exact absurd rfl h
    | _ => rfl
  | sort key =>
    cases kind with
    | sort => exact absurd rfl h
    | _ => rfl
  | filter condition =>
    cases kind with
    | filter => exact absurd rfl h
    | _ => rfl
  | malformed argument problem =>
    cases kind with
    | filter => exact absurd rfl h
    | _ => rfl
  | unknown name =>
    cases kind with
    | filter => simp [part, add, Diagnostic.malformed?]
    | _ => rfl

/-- What a clause makes of a part depends on that part alone, and not on its line number. -/
theorem part_add_congr {a b : Draft} {kind : LineKind} (h : a.part kind = b.part kind)
    (clause : Clause) (m n : Nat) :
    (a.add m clause).part kind = (b.add n clause).part kind := by
  by_cases hkind : clause.kind? = some kind
  · cases clause with
    | unknown name => exact absurd hkind (Option.some_ne_none kind).symm
    | select columns =>
      obtain rfl := Option.some.inj hkind
      have hcolumns : a.columns = b.columns := Part.columns.inj h
      simp only [part, add, hcolumns]
    | headers labels =>
      obtain rfl := Option.some.inj hkind
      obtain ⟨hlabels, -⟩ := Part.labels.inj h
      simp only [part, add, hlabels]
    | sort key =>
      obtain rfl := Option.some.inj hkind
      have hsort : a.sort = b.sort := Part.sort.inj h
      simp only [part, add, hsort]
    | filter condition =>
      obtain rfl := Option.some.inj hkind
      obtain ⟨hfilters, hreports⟩ := Part.filters.inj h
      simp only [part, add, hfilters, hreports]
    | malformed argument problem =>
      obtain rfl := Option.some.inj hkind
      obtain ⟨hfilters, hreports⟩ := Part.filters.inj h
      simp only [part, add, hfilters, List.filterMap_append, hreports]
      rfl
  · rw [part_add_of_ne hkind, part_add_of_ne hkind, h]

section

variable (settings : DirectiveSettings) {kind : LineKind} {line : Text}

theorem part_addLine_of_ne (h : lineKind? line ≠ some kind) (draft : Draft) (number : Nat) :
    (draft.addLine settings number line).part kind = draft.part kind := by
  rw [addLine]
  rw [← kind?_ofLine? settings] at h
  cases hclause : Clause.ofLine? settings line with
  | none => rfl
  | some clause =>
    rw [hclause] at h
    exact part_add_of_ne h draft number

theorem part_addLine_congr {a b : Draft} (h : a.part kind = b.part kind) (m n : Nat) :
    (a.addLine settings m line).part kind = (b.addLine settings n line).part kind := by
  rw [addLine, addLine]
  cases Clause.ofLine? settings line with
  | none => exact h
  | some clause => exact part_add_congr h clause m n

/-- A part comes from the lines of its kind, wherever they stand among the others. -/
theorem part_addLines {a b : Draft} (h : a.part kind = b.part kind) (m n : Nat)
    (lines : List Text) :
    (a.addLines settings m lines).part kind =
      (b.addLines settings n (lines.filter (lineKind? · = some kind))).part kind := by
  induction lines generalizing a b m n with
  | nil => exact h
  | cons line lines ih =>
    by_cases hkind : lineKind? line = some kind
    · rw [List.filter_cons_of_pos (by simpa using hkind), addLines, addLines]
      exact ih (part_addLine_congr settings h m n) (m + 1) (n + 1)
    · rw [List.filter_cons_of_neg (by simpa using hkind), addLines]
      exact ih ((part_addLine_of_ne settings hkind a m).trans h) (m + 1) n

/-- Lines are read one by one; the number of headers is no matter of theirs. -/
theorem headerCount?_addLines {draft : Draft} (h : draft.reports.filterMap (·.headerCount?) = [])
    (first : Nat) (lines : List Text) :
    (draft.addLines settings first lines).reports.filterMap (·.headerCount?) = [] := by
  induction lines generalizing draft first with
  | nil => exact h
  | cons line lines ih =>
    rw [addLines, addLine]
    cases Clause.ofLine? settings line with
    | none => exact ih h (first + 1)
    | some clause =>
      refine ih ?_ (first + 1)
      cases clause with
      | malformed argument problem =>
        simp only [add, List.filterMap_append, h]
        rfl
      | unknown name =>
        simp only [add, List.filterMap_append, h]
        rfl
      | _ => exact h

end

/-- Drafts with equal parts lead to one table and one report on its headers. -/
theorem settled_congr (settings : DirectiveSettings) {a b : Draft}
    (h : ∀ kind, a.part kind = b.part kind) : a.settled settings = b.settled settings := by
  have hcolumns : a.columns = b.columns := Part.columns.inj (h .select)
  obtain ⟨hlabels, hlabelled⟩ := Part.labels.inj (h .headers)
  rw [settled, settled, hcolumns, hlabels, hlabelled]

end Draft

/-- Two directives whose lines of each kind are the same, in their order, are read as one table,
with the same filters called malformed and the same report on the headers. -/
theorem line_kinds_are_independent (settings : DirectiveSettings) (classes : Text)
    {lines lines' : List Text}
    (same : ∀ kind, lines.filter (lineKind? · = some kind) =
      lines'.filter (lineKind? · = some kind)) :
    let reading := read settings classes lines
    let reading' := read settings classes lines'
    reading.spec = reading'.spec ∧
      reading.diagnostics.filterMap (·.malformed?) =
        reading'.diagnostics.filterMap (·.malformed?) ∧
      reading.diagnostics.filterMap (·.headerCount?) =
        reading'.diagnostics.filterMap (·.headerCount?) := by
  intro reading reading'
  let draft := Draft.addLines settings {} 1 lines
  let draft' := Draft.addLines settings {} 1 lines'
  have hreading : reading = draft.finish settings classes := read_eq_finish settings classes lines
  have hreading' : reading' = draft'.finish settings classes :=
    read_eq_finish settings classes lines'
  have hparts : ∀ kind, draft.part kind = draft'.part kind := by
    intro kind
    rw [Draft.part_addLines settings rfl 1 1 lines, same kind,
      ← Draft.part_addLines settings rfl 1 1 lines']
  have hcolumns : draft.columns = draft'.columns := Part.columns.inj (hparts .select)
  have hsort : draft.sort = draft'.sort := Part.sort.inj (hparts .sort)
  obtain ⟨hfilters, hmalformed⟩ := Part.filters.inj (hparts .filter)
  have hsettled := Draft.settled_congr settings hparts
  have hnone : ∀ lines, (Draft.addLines settings {} 1 lines).reports.filterMap
      (·.headerCount?) = [] := Draft.headerCount?_addLines settings rfl 1
  rw [hreading, hreading', Draft.finish, Draft.finish, hsettled]
  refine ⟨?_, ?_, ?_⟩
  · simp only [hcolumns, hsort, hfilters]
  · simp only [List.filterMap_append, hmalformed]
  · simp only [List.filterMap_append]
    rw [hnone lines, hnone lines']

/-- Lines in two orders, once among lines of no kind. One label for two columns is reported, and so
is a filter without a comparator. -/
theorem shuffled_lines_read_alike :
    let lines := ["cols: a".toList, "head: A".toList, "sort: b".toList, "or: a".toList,
      "cols: b".toList, "or: a=1".toList]
    let lines' := ["head: A".toList, "# b".toList, "or: a".toList, "cols: a".toList, "x: y".toList,
      "cols: b".toList, "or: a=1".toList, "a".toList, "sort: b".toList]
    (∀ kind, lines.filter (lineKind? · = some kind) = lines'.filter (lineKind? · = some kind)) ∧
      (read {} [] lines).spec = (read {} [] lines').spec ∧
      (read {} [] lines').diagnostics = [.malformedFilter 3 ['a'] .missingComparator,
        .unknownOption 5 ['x'], .headerCount 1 2] ∧
      (read {} [] lines).diagnostics.filterMap (·.malformed?) =
        [(['a'], .missingComparator)] ∧
      (read {} [] lines).diagnostics.filterMap (·.headerCount?) = [(1, 2)] := by
  intro lines lines'
  have same : ∀ kind, lines.filter (lineKind? · = some kind) =
      lines'.filter (lineKind? · = some kind) := by
    have hall : ∀ kind ∈ [LineKind.select, .headers, .sort, .filter],
        lines.filter (lineKind? · = some kind) = lines'.filter (lineKind? · = some kind) := by
      decide +kernel
    intro kind
    exact hall kind (by cases kind <;> decide)
  have hreported : (read {} [] lines').diagnostics = [.malformedFilter 3 ['a'] .missingComparator,
      .unknownOption 5 ['x'], .headerCount 1 2] := by decide +kernel
  obtain ⟨hspec, hmalformed, hheaders⟩ := line_kinds_are_independent {} [] same
  refine ⟨same, hspec, hreported, ?_, ?_⟩
  · rw [hmalformed, hreported]
    rfl
  · rw [hheaders, hreported]
    rfl

end Directive

end WikiPivot
