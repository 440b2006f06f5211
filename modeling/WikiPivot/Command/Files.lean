import WikiPivot.Command.Path
import WikiPivot.Store.Database

/-! The files that a command sees, by their paths. -/
namespace WikiPivot.Command

/-- What stands in a place; `binary` is neither text nor a database. -/
inductive FileContent where
  | text (content : Text)
  | database (content : Database)
  | binary
  | directory
  deriving DecidableEq, Repr

structure Files where
  entries : List (Text × FileContent) := []
  deriving DecidableEq, Repr

inductive FileError where
  | missing
  | notDirectory
  | directory
  | tooLong
  | notText
  deriving DecidableEq, Repr

def FileError.message : FileError → Text
  | missing => "No such file or directory (os error 2)".toList
  | notDirectory => "Not a directory (os error 20)".toList
  | directory => "Is a directory (os error 21)".toList
  | tooLong => "File name too long (os error 36)".toList
  | notText => "stream did not contain valid UTF-8".toList

namespace Files

def standing (input : Text) : Files :=
  ⟨[("/dev/null".toList, .text []), ("/dev/stdin".toList, .text input)] ++
    ["/bin", "/etc", "/home", "/proc", "/root", "/tmp", "/usr", "/var"].map fun path =>
      (path.toList, .directory)⟩

def append (first second : Files) : Files := ⟨first.entries ++ second.entries⟩

instance : Append Files := ⟨append⟩

def content? (files : Files) (place : Place) : Option FileContent :=
  match files.entries.find? fun (path, _) => Path.place path = place with
  | some (_, content) => some content
  | none =>
    if place.names.isEmpty ||
        files.entries.any fun (path, _) => (Path.place path).isWithin place then some .directory
    else none

def walk (files : Files) (place : Place) (step : PathStep) : Except FileError Place :=
  if files.content? place ≠ some .directory then .error .notDirectory
  else match step with
    | .down name =>
      if Path.longestName < Text.octets name then .error .tooLong
      else if (files.content? (place.enter name)).isNone then .error .missing
      else .ok (place.enter name)
    | step => .ok (step.go place)

/-- What a path leads to. A slash at its end asks for a directory. -/
def find (files : Files) (path : Text) : Except FileError FileContent := do
  if Path.longest < Text.octets path then .error .tooLong
  else
    let final := if path.getLast? = some '/' then [PathStep.stay] else []
    let place ← (Path.steps path ++ final).foldlM files.walk (Path.start path)
    match files.content? place with
    | some content => .ok content
    | none => .error .missing

def readText (files : Files) (path : Text) : Except FileError Text := do
  match ← files.find path with
  | .text content => return content
  | .database _ => .error .notText
  | .binary => .error .notText
  | .directory => .error .directory

/-- Takes one step on the way to a database. Only what stands on the way and is no directory, and a
name that is too long for a directory, is in the way; what is missing may be left again. -/
def pass (files : Files) (place : Place) (step : PathStep) : Option Place :=
  match step, files.content? place with
  | .down name, some .directory =>
    if Path.longestName < Text.octets name then none else some (place.enter name)
  | .down name, none => some (place.enter name)
  | .down _, some _ => none
  | step, _ => some (step.go place)

/-- A database file that is missing is made where there is a directory for it, and one without
content has no tables. -/
def storageIn (files : Files) (path : Text) (mayMake : Bool) : Option Storage := do
  let place ← (Path.steps path).foldlM files.pass (Path.start path)
  match files.content? place with
  | some (.database content) => some (.tables content)
  | some (.text []) => some .empty
  | some (.text _) => some .foreign
  | some .binary => some .foreign
  | some .directory => none
  | none =>
    if mayMake ∧ files.content? place.leave = some .directory then some .empty else none

def openStorage (files : Files) (location : Text) : Except StoreError Storage :=
  match Location.ofText location with
  | .error error => .error (.badLocation error)
  | .ok .memory => .ok .empty
  | .ok (.file path mayMake) =>
    match files.storageIn path mayMake with
    | some storage => .ok storage
    | none => .error (.cannotOpen location)

end Files

end WikiPivot.Command
