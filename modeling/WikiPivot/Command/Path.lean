import WikiPivot.Text.Basic

/-! Paths and the places that they name.
A path begins at the root if a slash stands first, and else in the directory that the program runs
in. Its steps go down by a name, stay or go up. -/
namespace WikiPivot.Command

/-- A place by the names that lead down to it: from the root, or from as many directories above the
one that the program runs in. -/
structure Place where
  above : Option Nat
  names : List Text
  deriving DecidableEq, Repr

namespace Place

def enter (place : Place) (name : Text) : Place := { place with names := place.names ++ [name] }

def leave (place : Place) : Place :=
  if place.names.isEmpty then { place with above := place.above.map (· + 1) }
  else { place with names := place.names.dropLast }

def path (place : Place) : Text :=
  let start := match place.above with
    | none => ['/']
    | some n => (List.replicate n "../".toList).flatten
  start ++ (place.names.intersperse ['/']).flatten

def isWithin (place directory : Place) : Bool :=
  place.above == directory.above && directory.names.isPrefixOf place.names

end Place

inductive PathStep where
  | stay
  | up
  | down (name : Text)
  deriving DecidableEq, Repr

namespace PathStep

def ofText : Text → PathStep
  | ['.'] => stay
  | ['.', '.'] => up
  | name => down name

def go (place : Place) : PathStep → Place
  | stay => place
  | up => place.leave
  | down name => place.enter name

end PathStep

namespace Path

def start (path : Text) : Place := ⟨if path.head? = some '/' then none else some 0, []⟩

def steps (path : Text) : List PathStep :=
  ((Text.pieces '/' path).filter (!·.isEmpty)).map .ofText

/-- The place that a path names, whatever stands on the way. -/
def place (path : Text) : Place := (steps path).foldl PathStep.go (start path)

def leading (path : Text) : List Text :=
  (List.range path.length).filterMap (fun n =>
    if n ≠ 0 ∧ path[n]? = some '/' then some (path.take n) else none) ++ [path]

def longestName : Nat := 255

def longest : Nat := 4095

end Path

end WikiPivot.Command
