import WikiPivot.Query.Joins

/-! The joins of a statement while it is compiled: a list, with an index from each key to the place
of its join. An alias is looked up through the index, and the place it gives is not checked: where
the list has nothing at that place, the program stops (`none`). -/
namespace WikiPivot

structure Join where
  key : Text
  name : Text
  deriving DecidableEq, Repr

structure JoinRegister where
  joins : List Join
  /-- The last entry made for a key is the one that counts. -/
  index : List (Text × Nat)
  deriving DecidableEq, Repr

namespace JoinRegister

def empty : JoinRegister := ⟨[], []⟩

def slot? (register : JoinRegister) (key : Text) : Option Nat := register.index.lookup key

def nameAt? (register : JoinRegister) (slot : Nat) : Option Text :=
  register.joins[slot]?.map (·.name)

def add (register : JoinRegister) (key : Text) : JoinRegister :=
  let slot := register.joins.length
  { joins := register.joins ++ [⟨key, Joins.aliasAt slot⟩], index := (key, slot) :: register.index }

/-- The place of the join of a key, which is made if the index has none. -/
def allot (register : JoinRegister) (key : Text) : Nat × JoinRegister :=
  match register.slot? key with
  | some slot => (slot, register)
  | none => (register.joins.length, register.add key)

def request (register : JoinRegister) (key : Text) : Option (Text × JoinRegister) :=
  let (slot, register) := register.allot key
  (register.nameAt? slot).map (·, register)

def find (register : JoinRegister) (key : Text) : Option (Option Text) :=
  match register.slot? key with
  | some slot => (register.nameAt? slot).map some
  | none => some none

end JoinRegister

inductive JoinCall where
  | request (key : Text)
  | find (key : Text)
  | first
  | all
  | count
  | isEmpty
  deriving DecidableEq, Repr

inductive JoinAnswer where
  | name (name : Text)
  | found (name : Option Text)
  | first (join : Option Join)
  | all (joins : List Join)
  | count (count : Nat)
  | isEmpty (flag : Bool)
  deriving DecidableEq, Repr

namespace JoinRegister

/-- Only a request can change a register. -/
def call (register : JoinRegister) : JoinCall → Option (JoinAnswer × JoinRegister)
  | .request key => (register.request key).map fun (name, register) => (.name name, register)
  | .find key => (register.find key).map fun name => (.found name, register)
  | .first => some (.first register.joins.head?, register)
  | .all => some (.all register.joins, register)
  | .count => some (.count register.joins.length, register)
  | .isEmpty => some (.isEmpty register.joins.isEmpty, register)

def calls (register : JoinRegister) : List JoinCall → Option (List JoinAnswer × JoinRegister)
  | [] => some ([], register)
  | call :: rest => do
    let (answer, register) ← register.call call
    let (answers, register) ← register.calls rest
    return (answer :: answers, register)

end JoinRegister

end WikiPivot
