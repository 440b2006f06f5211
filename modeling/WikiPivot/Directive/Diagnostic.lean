import WikiPivot.Text.Basic

/-! What is reported of a directive that is read anyway. Lines are counted from one. -/
namespace WikiPivot

inductive Severity where
  | warning
  | note
  deriving DecidableEq, Repr

def Severity.name : Severity → Text
  | warning => "warning".toList
  | note => "note".toList

inductive FilterProblem where
  | missingComparator
  | missingKey
  deriving DecidableEq, Repr

def FilterProblem.message : FilterProblem → Text
  | missingComparator => "no comparator".toList
  | missingKey => "no column before the comparator".toList

inductive Diagnostic where
  | unknownOption (line : Nat) (option : Text)
  | malformedFilter (line : Nat) (argument : Text) (problem : FilterProblem)
  | headerCount (headers columns : Nat)
  deriving DecidableEq, Repr

namespace Diagnostic

def severity : Diagnostic → Severity
  | unknownOption .. => .warning
  | malformedFilter .. => .note
  | headerCount .. => .warning

def message : Diagnostic → Text
  | unknownOption line option =>
    "unknown option '".toList ++ option ++ "' on line ".toList ++ Text.ofNat line
  | malformedFilter line argument problem =>
    problem.message ++ " in filter '".toList ++ argument ++ "' on line ".toList ++ Text.ofNat line
  | headerCount headers columns =>
    Text.ofNat headers ++ " headers declared for ".toList ++ Text.ofNat columns ++
      " columns, using column names".toList

end Diagnostic

end WikiPivot
