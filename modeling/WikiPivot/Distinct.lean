/-! Lists without repetition, in the order of first occurrence. -/
namespace WikiPivot

def addNew {α : Type} [DecidableEq α] (seen : List α) (x : α) : List α :=
  if x ∈ seen then seen else seen ++ [x]

/-- Each member once, where it occurs first. -/
def distinct {α : Type} [DecidableEq α] (xs : List α) : List α := xs.foldl addNew []

end WikiPivot
