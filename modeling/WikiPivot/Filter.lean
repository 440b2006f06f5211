import WikiPivot.Sql.Quoting

/-! Filters compare one column with a literal and are chained by their logic words. -/
namespace WikiPivot

inductive Logic where
  | and
  | or
  deriving DecidableEq, Repr

def Logic.keyword : Logic → Text
  | and => "AND".toList
  | or => "OR".toList

inductive Comparator where
  | equal
  | notEqual
  | less
  | lessOrEqual
  | greater
  | greaterOrEqual
  | like
  deriving DecidableEq, Repr

namespace Comparator

/-- The spellings of a directive. One that begins with another stands before it, so that the longest
is found first. -/
def spellings : List (Text × Comparator) :=
  [("<=".toList, lessOrEqual), (">=".toList, greaterOrEqual), ("<>".toList, notEqual),
    ("!=".toList, notEqual), ("=~".toList, like), ("=".toList, equal), ("<".toList, less),
    (">".toList, greater), ("~".toList, like)]

def keyword : Comparator → Text
  | equal => "=".toList
  | notEqual => "!=".toList
  | less => "<".toList
  | lessOrEqual => "<=".toList
  | greater => ">".toList
  | greaterOrEqual => ">=".toList
  | like => "LIKE".toList

def ofToken? (token : Text) : Option Comparator :=
  match spellings.lookup token with
  | some comparator => some comparator
  | none => if Text.asciiLowercase token = "like".toList then some like else none

def prepare (comparator : Comparator) (raw : Text) : Text :=
  match comparator with
  | like => Text.replaceChar '*' ['%'] raw
  | _ => raw

end Comparator

structure Filter where
  key : Text
  comparator : Comparator
  value : Literal
  logic : Logic
  deriving DecidableEq, Repr

structure Comparison where
  left : Text
  token : Text
  right : Text
  deriving DecidableEq, Repr

def Comparator.spellingAt? (t : Text) : Option Text :=
  (spellings.map Prod.fst).find? (·.isPrefixOf t)

/-- Cuts at the leftmost place where a spelling stands. -/
def Comparison.split? : Text → Option Comparison
  | [] => none
  | c :: rest =>
    match Comparator.spellingAt? (c :: rest) with
    | some token => some ⟨[], token, (c :: rest).drop token.length⟩
    | none => (split? rest).map fun cut => { cut with left := c :: cut.left }

end WikiPivot
