import WikiPivot.DistinctConcat
import WikiPivot.Query.Basic
import WikiPivot.Sql.Pattern
import WikiPivot.Store.Basic
import WikiPivot.Text.Order

/-! What a query answers on a store.
Every entity is combined with every choice of one attribute for each join, the combinations that
satisfy the terms are grouped by the entity's name, and each group is one row of the answer.

This is an assumed reading of the engine that runs the statement. The orders in it are part of the
assumption: entities are taken by their numbers, the attributes of a key as they were added, the
choices with the last join varying fastest, and rows of equal rank stay in the order of names. The
engine promises none of these orders and does not always follow them. Where it takes matches in
another order, the values of a cell, the value that a group is sorted by and rows of equal rank may
come in another order too. -/
namespace WikiPivot

/-- What a join contributes: an attribute, which may lack a value, or nothing if the entity has no
attribute of that key. -/
inductive Match where
  | unmatched
  | matched (value : Option Text)
  deriving DecidableEq, Repr

def Match.value? : Match → Option Text
  | unmatched => none
  | matched value => value

def Match.isMatched : Match → Bool
  | unmatched => false
  | matched _ => true

structure Combination where
  name : Text
  found : List Match
  deriving DecidableEq, Repr

namespace Combination

def value? (row : Combination) : Operand → Option Text
  | .entityName => some row.name
  | .joined slot => row.found[slot]?.bind Match.value?

end Combination

def Comparator.holds : Comparator → Text → Text → Bool
  | equal, value, bound => value == bound
  | notEqual, value, bound => value != bound
  | less, value, bound => !Text.notAfter bound value
  | lessOrEqual, value, bound => Text.notAfter value bound
  | greater, value, bound => !Text.notAfter value bound
  | greaterOrEqual, value, bound => Text.notAfter bound value
  | like, value, pattern => Sql.like pattern value

/-- A comparison with a missing value does not hold. -/
def Term.holds (row : Combination) : Term → Bool
  | anchor => (row.found.head?.map Match.isMatched).getD false
  | comparison operand comparator literal =>
    match row.value? operand with
    | some value => comparator.holds value literal.value
    | none => false

/-- Terms chained by AND stand in one group: the chain is cut before every OR but a first one. -/
def Term.groups : List (Logic × Term) → List (List Term)
  | [] => [[]]
  | (_, term) :: rest =>
    match rest with
    | (.or, _) :: _ => [term] :: groups rest
    | _ => (groups rest).modifyHead (term :: ·)

def Term.allHold (terms : List (Logic × Term)) (row : Combination) : Bool :=
  (groups terms).any fun group => group.all (·.holds row)

/-- All ways to take one member of each list, the last list varying fastest. -/
def choices {α : Type} : List (List α) → List (List α)
  | [] => [[]]
  | options :: rest => options.flatMap fun x => (choices rest).map (x :: ·)

namespace Store

def matchesOf (store : Store) (entity : Int) (key : Text) : List Match :=
  match store.attributes.filter fun a => a.entity = entity ∧ a.key = (Literal.ofText key).value with
  | [] => [.unmatched]
  | found => found.map fun a => .matched a.value

def combinationsOf (store : Store) (query : Query) (entity : Entity) : List Combination :=
  (choices (query.joins.keys.map (store.matchesOf entity.id))).map (⟨entity.name, ·⟩)

def combinations (store : Store) (query : Query) : List Combination :=
  ((store.entities.mergeSort (·.id ≤ ·.id)).flatMap (store.combinationsOf query)).filter
    (Term.allHold query.terms)

structure AnswerRow where
  cells : List Text
  rank : Option Text
  deriving DecidableEq, Repr

def cell (separator : Text) (name : Text) (group : List Combination) : Operand → Text
  | .entityName => name
  | .joined slot =>
    DistinctConcat.ofRows
      (group.map fun row => (row.value? (.joined slot), some (Literal.ofText separator).value))

/-- A row is sorted by the operand of the order, or by its first cell. -/
def answerRow (separator : Text) (query : Query) (name : Text) (group : List Combination) :
    AnswerRow :=
  let cells := query.columns.map (cell separator name group)
  { cells
    rank := match query.order with
      | some (operand, _) => group.head?.bind (·.value? operand)
      | none => cells.head? }

def groupRows (separator : Text) (store : Store) (query : Query) : List AnswerRow :=
  let rows := store.combinations query
  ((distinct (rows.map (·.name))).mergeSort Text.notAfter).map fun name =>
    answerRow separator query name (rows.filter (·.name = name))

def before (direction : Direction) (a b : AnswerRow) : Bool :=
  match direction with
  | .ascending => Text.missingFirst a.rank b.rank
  | .descending => Text.missingFirst b.rank a.rank

def answer (separator : Text) (store : Store) (query : Query) : List (List Text) :=
  if query.yieldsNothing then []
  else
    let direction := (query.order.map Prod.snd).getD .ascending
    ((store.groupRows separator query).mergeSort (before direction)).map (·.cells)

end Store

end WikiPivot
