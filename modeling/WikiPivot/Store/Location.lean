import WikiPivot.Text.Percent

/-! Where a database is to be found.
A text that begins with `file:` is a URI, whose path may be percent-encoded and followed by options
after a question mark; what stands after a number sign is passed over. Any other text is a path. An
empty path stands for a database in memory. -/
namespace WikiPivot

/-- A database in memory is new and empty. One in a file may be made if it is missing, unless the
location forbids it. -/
inductive Location where
  | memory
  | file (path : Text) (mayMake : Bool)
  deriving DecidableEq, Repr

inductive LocationError where
  | authority (name : Text)
  | mode (kind name : Text)
  | notAllowed (name : Text)
  | system (name : Text)
  deriving DecidableEq, Repr

def LocationError.message : LocationError → Text
  | authority name => "invalid uri authority: ".toList ++ name
  | mode kind name => "no such ".toList ++ kind ++ " mode: ".toList ++ name
  | notAllowed name => "access mode not allowed: ".toList ++ name
  | system name => "no such vfs: ".toList ++ name

/-- What may be done with a database. In the order of the constructors each allows more. -/
inductive AccessMode where
  | read
  | write
  | make
  | inMemory
  deriving DecidableEq, Repr

namespace AccessMode

def ofName? (name : Text) : Option AccessMode :=
  if name = "ro".toList then some read
  else if name = "rw".toList then some write
  else if name = "rwc".toList then some make
  else if name = "memory".toList then some inMemory
  else none

def allows (earlier later : AccessMode) : Bool :=
  later = inMemory || later.ctorIdx ≤ earlier.ctorIdx

end AccessMode

structure Access where
  mode : AccessMode := .make
  system : Option Text := none
  deriving DecidableEq, Repr

namespace Access

def systems : List Text :=
  ["unix".toList, "unix-none".toList, "unix-dotfile".toList, "unix-excl".toList, "memdb".toList]

def option (access : Access) (name value : Text) : Except LocationError Access :=
  if name = "vfs".toList then .ok { access with system := some value }
  else if name = "cache".toList then
    if value = "shared".toList ∨ value = "private".toList then .ok access
    else .error (.mode name value)
  else if name = "mode".toList then
    match AccessMode.ofName? value with
    | none => .error (.mode "access".toList value)
    | some mode =>
      if access.mode.allows mode then .ok { access with mode } else .error (.notAllowed value)
  else .ok access

def written (access : Access) (text : Text) : Except LocationError Access :=
  let (name, value) := (Text.cut? '=' text).getD (text, [])
  let name := Text.percentDecode name
  if name.isEmpty then .ok access else access.option name (Text.percentDecode value)

def location (access : Access) (path : Text) : Except LocationError Location :=
  match access.system with
  | some system =>
    if !systems.contains system then .error (.system system)
    else if system = "memdb".toList then .ok .memory
    else .ok (file path)
  | none => .ok (file path)
where
  file (path : Text) : Location :=
    if access.mode = .inMemory ∨ path.isEmpty ∨ path = ":memory:".toList then .memory
    else .file path (access.mode = .make)

end Access

namespace Location

def afterAuthority (uri : Text) : Except LocationError Text :=
  match uri with
  | '/' :: '/' :: rest =>
    let name := rest.takeWhile (· != '/')
    if name.isEmpty ∨ name = "localhost".toList then .ok (rest.drop name.length)
    else .error (.authority name)
  | uri => .ok uri

def ofUri (uri : Text) : Except LocationError Location := do
  let rest := (← afterAuthority uri).takeWhile (· != '#')
  let (path, options) := (Text.cut? '?' rest).getD (rest, [])
  let access ← (Text.pieces '&' options).foldlM Access.written {}
  access.location (Text.percentDecode path)

def ofText (text : Text) : Except LocationError Location :=
  match Text.after? "file:".toList text with
  | some uri => ofUri uri
  | none => Access.location {} text

end Location

end WikiPivot
