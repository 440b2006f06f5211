import WikiPivot.Decimal.Binary64

/-! The values of a TOML document, and how tables grow.
A table is made once, by a header, by the path of another header, by dotted keys or inline, and how
it was made says what may still be put into it. -/
namespace WikiPivot.Toml

inductive Origin where
  | header
  | path
  | dotted
  | inline
  deriving DecidableEq, Repr

/-- A number that is too large for its kind has no value. `tables` are made by repeated headers. -/
inductive Value where
  | string (text : Text)
  | integer (n : Int)
  | float (x : Option Binary64)
  | boolean (b : Bool)
  | moment
  | array (items : List Value)
  | tables (items : List (List (Text × Value)))
  | table (origin : Origin) (entries : List (Text × Value))

abbrev Entries := List (Text × Value)

namespace Entries

def replace (entries : Entries) (key : Text) (value : Value) : Entries :=
  entries.map fun (k, old) => if k = key then (k, value) else (k, old)

/-- Changes the table at the end of a path, making the tables on the way that are missing. Of
repeated tables the last is meant. Nothing is put into an inline table, and dotted keys do not
reach into a table that has a header. A table that only lies on the path of a header becomes one of
dotted keys when they pass it. -/
def change (dotted : Bool) (f : Origin → Entries → Option Entries) :
    List Text → Origin → Entries → Option Entries
  | [], origin, entries => f origin entries
  | key :: rest, _, entries =>
    match entries.lookup key with
    | none =>
      let origin := if dotted then .dotted else .path
      (change dotted f rest origin []).map fun inner => entries ++ [(key, .table origin inner)]
    | some (.table origin inner) =>
      if origin = .inline ∨ (dotted = true ∧ origin = .header) then none
      else
        let origin := if dotted then .dotted else origin
        (change dotted f rest origin inner).map fun inner =>
          entries.replace key (.table origin inner)
    | some (.tables items) =>
      match items.getLast? with
      | some last => (change dotted f rest .header last).map fun last =>
        entries.replace key (.tables (items.dropLast ++ [last]))
      | none => none
    | some _ => none

/-- Gives a value to a dotted key. Dotted keys do not add to one of the tables that repeat
a header. -/
def assign (entries : Entries) (path : List Text) (value : Value) : Option Entries := do
  let key ← path.getLast?
  let parents := path.dropLast
  change true (fun origin entries =>
    if !parents.isEmpty && origin ≠ .dotted || entries.any (·.1 = key) then none
    else some (entries ++ [(key, value)])) parents .header entries

def openTable (entries : Entries) (path : List Text) : Option Entries := do
  let key ← path.getLast?
  change false (fun _ entries =>
    match entries.lookup key with
    | none => some (entries ++ [(key, .table .header [])])
    | some (.table .path inner) => some (entries.replace key (.table .header inner))
    | some _ => none) path.dropLast .header entries

def repeatTable (entries : Entries) (path : List Text) : Option Entries := do
  let key ← path.getLast?
  change false (fun _ entries =>
    match entries.lookup key with
    | none => some (entries ++ [(key, .tables [[]])])
    | some (.tables items) => some (entries.replace key (.tables (items ++ [[]])))
    | some _ => none) path.dropLast .header entries

def assignUnder (entries : Entries) (header path : List Text) (value : Value) : Option Entries :=
  change false (fun _ table => table.assign path value) header .header entries

end Entries

end WikiPivot.Toml
