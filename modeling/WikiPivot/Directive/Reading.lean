import WikiPivot.Directive.Diagnostic
import WikiPivot.Directive.Instruction
import WikiPivot.Directive.Line
import WikiPivot.Settings
import WikiPivot.TableSpec

/-! Reading a directive: each line is a clause or nothing, and the clauses of each kind make up
their part of the table in the order they stand.
Reading never fails; what cannot be used is reported. -/
namespace WikiPivot.Directive

inductive Clause where
  | select (columns : List Column)
  | headers (labels : List Text)
  | sort (key : Option SortKey)
  | filter (condition : Filter)
  | malformed (argument : Text) (problem : FilterProblem)
  | unknown (name : Text)
  deriving DecidableEq, Repr

namespace Clause

def ofFilter (sentinel : Text) (logic : Logic) (argument : Text) : Clause :=
  match Comparison.split? argument with
  | none => malformed argument .missingComparator
  | some cut =>
    match Comparator.ofToken? cut.token with
    | none => malformed argument .missingComparator
    | some comparator =>
      let mention := ColumnMention.ofToken sentinel cut.left
      if mention.key.isEmpty then malformed argument .missingKey
      else filter
        { key := mention.key
          comparator
          value := Literal.ofText (comparator.prepare (Text.trim cut.right))
          logic }

def ofInstruction (settings : DirectiveSettings) (argument : Text) : Instruction → Clause
  | .select =>
    select <| (Text.pieces ',' argument).filterMap fun token =>
      (ColumnMention.ofToken settings.sentinel token).column?
  | .headers => headers ((Text.pieces ',' argument).map Text.trim)
  | .sort => sort (SortKey.parse? settings.sentinel settings.descendingMarker argument)
  | .filter logic => ofFilter settings.sentinel logic argument

def ofLine? (settings : DirectiveSettings) (line : Text) : Option Clause :=
  (instructionText? line).map fun (name, argument) =>
    match Instruction.ofName? name with
    | some instruction => ofInstruction settings argument instruction
    | none => unknown name

def columns : Clause → List Column
  | select columns => columns
  | _ => []

def labels? : Clause → Option (List Text)
  | headers labels => some labels
  | _ => none

def sort? : Clause → Option SortKey
  | sort key => key
  | _ => none

def filter? : Clause → Option Filter
  | filter condition => some condition
  | _ => none

def diagnostic? (line : Nat) : Clause → Option Diagnostic
  | malformed argument problem => some (.malformedFilter line argument problem)
  | unknown name => some (.unknownOption line name)
  | _ => none

end Clause

structure Reading where
  spec : TableSpec
  diagnostics : List Diagnostic
  deriving DecidableEq, Repr

def Reading.warnings (reading : Reading) : Nat :=
  reading.diagnostics.countP (·.severity = .warning)

/-- The clauses of the lines with their line numbers, the first line being number `first`. -/
def clauses (settings : DirectiveSettings) (first : Nat) : List Text → List (Nat × Clause)
  | [] => []
  | line :: rest =>
    match Clause.ofLine? settings line with
    | some clause => (first, clause) :: clauses settings (first + 1) rest
    | none => clauses settings (first + 1) rest

/-- The declared labels if there are as many as columns, else the default ones; the report says that
declared labels were dropped. -/
def headersFor (settings : DirectiveSettings) (columns : List Column)
    (declared : List (List Text)) : List Text × List Diagnostic :=
  let labels := declared.flatten
  if !declared.isEmpty && labels.length == columns.length then (labels, [])
  else
    (TableSpec.defaultHeaders settings.sentinel settings.pageNameLabel (columns.map (·.key)),
      if declared.isEmpty then [] else [.headerCount labels.length columns.length])

def read (settings : DirectiveSettings) (classes : Text) (lines : List Text) : Reading :=
  let numbered := clauses settings 1 lines
  let found := numbered.map Prod.snd
  let columns := (found.flatMap (·.columns)).foldl Column.insert []
  let (headers, mismatch) := headersFor settings columns (found.filterMap (·.labels?))
  { spec :=
      { classes := Text.trim classes
        columns
        headers
        sort := (found.filterMap (·.sort?)).getLast?
        filters := found.filterMap (·.filter?) }
    diagnostics := numbered.filterMap (fun (line, clause) => clause.diagnostic? line) ++ mismatch }

end WikiPivot.Directive
