import WikiPivot.Distinct
import WikiPivot.Text.Basic

/-! The joins of one statement. Each key has one join, and the joins are called `T1`, `T2` and so on
in the order in which their keys were first asked for. -/
namespace WikiPivot

structure Joins where
  keys : List Text
  deriving DecidableEq, Repr

namespace Joins

def empty : Joins := ⟨[]⟩

def aliasAt (slot : Nat) : Text := 'T' :: Text.ofNat (slot + 1)

def insert (joins : Joins) (key : Text) : Joins := ⟨addNew joins.keys key⟩

def ofKeys (keys : List Text) : Joins := ⟨distinct keys⟩

def slot (joins : Joins) (key : Text) : Nat := joins.keys.idxOf key

def alias? (joins : Joins) (key : Text) : Option Text :=
  if key ∈ joins.keys then some (aliasAt (joins.slot key)) else none

def request (joins : Joins) (key : Text) : Text × Joins :=
  let joins := joins.insert key
  (aliasAt (joins.slot key), joins)

def aliases (joins : Joins) : List Text := (List.range joins.keys.length).map aliasAt

def entries (joins : Joins) : List (Text × Text) := joins.keys.zip joins.aliases

end Joins

end WikiPivot
