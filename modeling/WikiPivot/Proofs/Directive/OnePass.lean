import WikiPivot.Proofs.Directive.Reading

/-! # Reading in one pass

A directive can be read line by line. Each line changes a draft of the table, and the headers are
settled when all lines are through. This gives what is read from the clauses together.
-/
namespace WikiPivot.Directive

structure Draft where
  columns : List Column := []
  labels : List Text := []
  isLabelled : Bool := false
  sort : Option SortKey := none
  filters : List Filter := []
  reports : List Diagnostic := []
  deriving DecidableEq, Repr

namespace Draft

def add (draft : Draft) (number : Nat) : Clause → Draft
  | .select columns => { draft with columns := columns.foldl Column.insert draft.columns }
  | .headers labels => { draft with labels := draft.labels ++ labels, isLabelled := true }
  | .sort key => { draft with sort := key.or draft.sort }
  | .filter condition => { draft with filters := draft.filters ++ [condition] }
  | .malformed argument problem =>
    { draft with reports := draft.reports ++ [.malformedFilter number argument problem] }
  | .unknown name => { draft with reports := draft.reports ++ [.unknownOption number name] }

def addLine (settings : DirectiveSettings) (draft : Draft) (number : Nat) (line : Text) : Draft :=
  match Clause.ofLine? settings line with
  | some clause => draft.add number clause
  | none => draft

def addLines (settings : DirectiveSettings) (draft : Draft) (first : Nat) : List Text → Draft
  | [] => draft
  | line :: rest => addLines settings (draft.addLine settings first line) (first + 1) rest

def settled (settings : DirectiveSettings) (draft : Draft) : List Text × List Diagnostic :=
  if draft.isLabelled && draft.labels.length == draft.columns.length then (draft.labels, [])
  else
    (TableSpec.defaultHeaders settings.sentinel settings.pageNameLabel
        (draft.columns.map (·.key)),
      if draft.isLabelled then [.headerCount draft.labels.length draft.columns.length] else [])

def finish (settings : DirectiveSettings) (classes : Text) (draft : Draft) : Reading :=
  let (headers, mismatch) := draft.settled settings
  { spec :=
      { classes := Text.trim classes
        columns := draft.columns
        headers
        sort := draft.sort
        filters := draft.filters }
    diagnostics := draft.reports ++ mismatch }

def ofClauses (numbered : List (Nat × Clause)) : Draft :=
  let found := numbered.map Prod.snd
  { columns := columnsOf found
    labels := (found.filterMap (·.labels?)).flatten
    isLabelled := !(found.filterMap (·.labels?)).isEmpty
    sort := (found.filterMap (·.sort?)).getLast?
    filters := found.filterMap (·.filter?)
    reports := numbered.filterMap fun (line, clause) => clause.diagnostic? line }

/-- One more clause changes the draft as reading on with it does. -/
theorem add_ofClauses (numbered : List (Nat × Clause)) (number : Nat) (clause : Clause) :
    (ofClauses numbered).add number clause = ofClauses (numbered ++ [(number, clause)]) := by
  cases clause with
  | sort key =>
    cases key <;>
      simp [ofClauses, add, columnsOf, Clause.columns, Clause.labels?, Clause.sort?,
        Clause.filter?, Clause.diagnostic?]
  | _ =>
    simp [ofClauses, add, columnsOf, Clause.columns, Clause.labels?, Clause.sort?, Clause.filter?,
      Clause.diagnostic?]

theorem addLines_ofClauses (settings : DirectiveSettings) (numbered : List (Nat × Clause))
    (first : Nat) (lines : List Text) :
    (ofClauses numbered).addLines settings first lines =
      ofClauses (numbered ++ clauses settings first lines) := by
  induction lines generalizing numbered first with
  | nil => rw [addLines, clauses, List.append_nil]
  | cons line lines ih =>
    rw [addLines, addLine, clauses]
    cases Clause.ofLine? settings line with
    | none => exact ih numbered (first + 1)
    | some clause =>
      simp only
      rw [add_ofClauses, ih, List.append_assoc, List.singleton_append]

theorem settled_eq_headersFor (settings : DirectiveSettings) {draft : Draft}
    {declared : List (List Text)} (hlabels : draft.labels = declared.flatten)
    (hlabelled : draft.isLabelled = !declared.isEmpty) :
    draft.settled settings = headersFor settings draft.columns declared := by
  rw [settled, headersFor, hlabels, hlabelled]
  cases declared with
  | nil => rfl
  | cons labels more => rfl

theorem finish_ofClauses (settings : DirectiveSettings) (classes : Text) (lines : List Text) :
    (ofClauses (clauses settings 1 lines)).finish settings classes =
      read settings classes lines := by
  rw [finish, settled_eq_headersFor settings rfl rfl]
  rfl

end Draft

/-- Reading line by line comes to the same table and the same reports. -/
theorem read_eq_finish (settings : DirectiveSettings) (classes : Text) (lines : List Text) :
    read settings classes lines =
      (Draft.addLines settings {} 1 lines).finish settings classes := by
  have hempty : ({} : Draft) = Draft.ofClauses [] := rfl
  rw [hempty, Draft.addLines_ofClauses, List.nil_append, Draft.finish_ofClauses]

end WikiPivot.Directive
