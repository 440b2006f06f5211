import WikiPivot.Column

/-! Sort keys, written as a key with the descending marker before it or without. -/
namespace WikiPivot

inductive Direction where
  | ascending
  | descending
  deriving DecidableEq, Repr

namespace Direction

def reversed : Direction → Direction
  | ascending => descending
  | descending => ascending

def keyword : Direction → Text
  | ascending => "ASC".toList
  | descending => "DESC".toList

end Direction

structure SortKey where
  key : Text
  direction : Direction
  deriving DecidableEq, Repr

namespace SortKey

/-- Takes one marker off the front of a key. -/
def ofKey (marker : Char) : Text → SortKey
  | [] => ⟨[], .ascending⟩
  | c :: rest => if c = marker then ⟨rest, .descending⟩ else ⟨c :: rest, .ascending⟩

/-- Reads a token as a column is read; nothing is sorted by an empty key. -/
def parse? (sentinel : Text) (marker : Char) (token : Text) : Option SortKey :=
  let sort := ofKey marker (ColumnMention.ofToken sentinel token).key
  if sort.key.isEmpty then none else some sort

def parameter (marker : Char) (sort : SortKey) : Text :=
  match sort.direction with
  | .ascending => sort.key
  | .descending => marker :: sort.key

def reversed (sort : SortKey) : SortKey := { sort with direction := sort.direction.reversed }

end SortKey

end WikiPivot
