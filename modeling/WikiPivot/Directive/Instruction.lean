import WikiPivot.Filter

/-! The instructions of a directive and their spellings. -/
namespace WikiPivot

inductive Instruction where
  | select
  | headers
  | sort
  | filter (logic : Logic)
  deriving DecidableEq, Repr

namespace Instruction

def aliases : List (Text × Instruction) :=
  [("select".toList, select), ("cols".toList, select), ("title".toList, headers),
    ("titles".toList, headers), ("head".toList, headers), ("header".toList, headers),
    ("headers".toList, headers), ("order".toList, sort), ("sort".toList, sort),
    ("where".toList, filter .and), ("filter".toList, filter .and),
    ("filterand".toList, filter .and), ("and".toList, filter .and),
    ("filteror".toList, filter .or), ("or".toList, filter .or)]

def ofName? (name : Text) : Option Instruction := aliases.lookup (Text.asciiLowercase name)

def spellings (instruction : Instruction) : List Text :=
  (aliases.filter (·.2 = instruction)).map Prod.fst

end Instruction

end WikiPivot
