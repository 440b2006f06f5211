import WikiPivot.Query.Joins
import WikiPivot.TableSpec

/-! A query joins every key that its columns, its sort and its filters mention, once each.
Columns come first, then the sort, then the filters. -/
namespace WikiPivot

inductive Operand where
  | entityName
  | joined (slot : Nat)
  deriving DecidableEq, Repr

inductive Term where
  | anchor
  | comparison (operand : Operand) (comparator : Comparator) (literal : Literal)
  deriving DecidableEq, Repr

/-- Without columns a query yields nothing. `terms` are chained by their logic words, of which the
first is not used. `order` is the sort as the query reads it. -/
structure Query where
  columns : List Operand
  joins : Joins
  terms : List (Logic × Term)
  sort : Option SortKey
  order : Option (Operand × Direction)
  deriving DecidableEq, Repr

namespace Query

def nothing : Query := ⟨[], .empty, [], none, none⟩

def yieldsNothing (query : Query) : Bool := query.columns.isEmpty

/-- The sort asked for if its key is not empty, else the directive's own. -/
def effectiveSort (spec : TableSpec) (override : Option SortKey) : Option SortKey :=
  ((override.filter (!·.key.isEmpty)).or spec.sort).filter (!·.key.isEmpty)

def joinedKeys (sentinel : Text) (spec : TableSpec) (sort : Option SortKey) : List Text :=
  (spec.columns.map (·.key) ++ sort.toList.map (·.key) ++ spec.filters.map (·.key)).filter
    (· ≠ sentinel)

def operand (sentinel : Text) (joins : Joins) (key : Text) : Operand :=
  if key = sentinel then .entityName else .joined (joins.slot key)

def ofSpec (sentinel : Text) (spec : TableSpec) (override : Option SortKey) : Query :=
  if spec.columns.isEmpty then nothing
  else
    let sort := effectiveSort spec override
    let joins := Joins.ofKeys (joinedKeys sentinel spec sort)
    let operand := operand sentinel joins
    { columns := spec.columns.map fun column => operand column.key
      joins
      terms :=
        (if joins.keys.isEmpty then [] else [(.and, .anchor)]) ++
          spec.filters.map fun filter =>
            (filter.logic, .comparison (operand filter.key) filter.comparator filter.value)
      sort
      order := sort.map fun sort => (operand sort.key, sort.direction) }

end Query

end WikiPivot
