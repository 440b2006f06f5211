import WikiPivot.Sort
import WikiPivot.Filter

/-! What one directive asks for. -/
namespace WikiPivot

/-- `headers` labels `columns` place by place. -/
structure TableSpec where
  classes : Text := []
  columns : List Column := []
  headers : List Text := []
  sort : Option SortKey := none
  filters : List Filter := []
  deriving DecidableEq, Repr

def TableSpec.defaultHeaders (sentinel label : Text) (keys : List Text) : List Text :=
  keys.map fun key => if key = sentinel then label else key

end WikiPivot
