import WikiPivot.Distinct
import WikiPivot.Sql.Value

/-! The aggregate of the statements: the distinct values of a group in the order they first occur,
joined with the separator that was given last. -/
namespace WikiPivot

structure DistinctConcat where
  values : List Text := []
  separator : Option Text := none
  deriving DecidableEq, Repr

namespace DistinctConcat

def defaultSeparator : Text := [',']

def empty : DistinctConcat := {}

def add (group : DistinctConcat) (value separator : Text) : DistinctConcat :=
  ⟨group.values ++ [value], some separator⟩

/-- A missing value changes nothing, not even the separator. -/
def step (group : DistinctConcat) (value separator : Option Text) : DistinctConcat :=
  match value with
  | some value => group.add value (separator.getD defaultSeparator)
  | none => group

def text (group : DistinctConcat) : Text :=
  (group.separator.getD defaultSeparator).intercalate (distinct group.values)

def ofRows (rows : List (Option Text × Option Text)) : Text :=
  (rows.foldl (fun group (value, separator) => group.step value separator) empty).text

/-- Takes a row of the statement, a value and a separator; the first row begins the group. -/
def stepRow (group? : Option DistinctConcat) (row : Sql.Value × Sql.Value) :
    Option DistinctConcat :=
  some ((group?.getD empty).step row.1.text? row.2.text?)

def result (group? : Option DistinctConcat) : Text := (group?.map text).getD []

def ofStatementRows (rows : List (Sql.Value × Sql.Value)) : Text := result (rows.foldl stepRow none)

end DistinctConcat

end WikiPivot
