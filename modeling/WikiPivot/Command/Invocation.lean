import WikiPivot.Text.Basic

/-! What a command line asks for.
Options are read from left to right. An option's value follows it, or is attached to it; a word that
begins with a dash is never a value that follows. No option may be given twice, and after two dashes
every word is an operand. -/
namespace WikiPivot.Command

inductive OutputFormat where
  | html
  | json
  deriving DecidableEq, Repr

inductive Action where
  | compile (file : Text) (sort : Option Text) (isBody : Bool)
  | spec (file : Text) (isBody : Bool)
  | render (file database : Text) (sort : Option Text) (pageUrl : Text) (format : OutputFormat)
      (isBody : Bool)
  | shell (database : Option Text)
  deriving DecidableEq, Repr

/-- `version` is asked of the program or of one of its commands. -/
inductive Invocation where
  | run (settingsFile : Option Text) (action : Action)
  | version (program : Text)
  | help
  | misuse
  deriving DecidableEq, Repr

structure Variables where
  settingsFile : Option Text := none
  database : Option Text := none
  deriving DecidableEq, Repr

inductive Slot where
  | settingsFile
  | file
  | database
  | sort
  | pageUrl
  | format
  | isBody
  deriving DecidableEq, Repr

def options : List (Slot × Text × Option Char) :=
  [(.settingsFile, "config".toList, some 'c'), (.database, "db".toList, some 'd'),
    (.sort, "sort".toList, some 's'), (.pageUrl, "page-url".toList, none),
    (.format, "format".toList, some 'f'), (.isBody, "body".toList, none)]

def Slot.accepts (slot : Slot) (value : Text) : Bool :=
  match slot with
  | settingsFile => !value.isEmpty
  | file => !value.isEmpty
  | database => !value.isEmpty
  | format => value == "html".toList || value == "json".toList
  | _ => true

inductive CommandName where
  | compile
  | spec
  | render
  | shell
  deriving DecidableEq, Repr

namespace CommandName

def all : List CommandName := [compile, spec, render, shell]

def text : CommandName → Text
  | compile => "compile".toList
  | spec => "spec".toList
  | render => "render".toList
  | shell => "shell".toList

def ofText? (t : Text) : Option CommandName := all.find? (·.text = t)

def slots : CommandName → List Slot
  | compile => [.settingsFile, .file, .sort, .isBody]
  | spec => [.settingsFile, .file, .isBody]
  | render => [.settingsFile, .file, .database, .sort, .pageUrl, .format, .isBody]
  | shell => [.settingsFile, .database]

end CommandName

inductive Stop where
  | version
  | help
  | misuse
  deriving DecidableEq, Repr

/-- The words read at one level. The last option or operand is not taken until the next begins, and
the value of an option may still be missing. -/
structure Level where
  slots : List Slot
  given : List (Slot × Text) := []
  pending : Option (Slot × Option Text) := none
  operandSeen : Bool := false
  operandsOnly : Bool := false
  deriving DecidableEq, Repr

namespace Level

def value? (level : Level) (slot : Slot) : Option Text := level.given.lookup slot

def take (level : Level) (slot : Slot) (value : Text) : Except Stop Level :=
  if slot.accepts value && (level.value? slot).isNone then
    .ok { level with given := level.given ++ [(slot, value)], pending := none }
  else .error .misuse

def settle (level : Level) : Except Stop Level :=
  match level.pending with
  | none => .ok level
  | some (slot, some value) => level.take slot value
  | some (_, none) => .error .misuse

def begin (level : Level) (slot : Slot) (attached : Option Text) : Except Stop Level := do
  let level ← level.settle
  match slot, attached with
  | .isBody, none => level.take .isBody []
  | .isBody, some _ => .error .misuse
  | slot, some value => level.take slot value
  | slot, none => .ok { level with pending := some (slot, none) }

def stop (level : Level) (reason : Stop) : Except Stop Level := do
  let _ ← level.settle
  .error reason

def long (level : Level) (word : Text) : Except Stop Level :=
  let (name, attached) := match Text.cut? '=' word with
    | some (name, value) => (name, some value)
    | none => (word, none)
  match options.find? fun (slot, long, _) => long = name ∧ level.slots.contains slot with
  | some (slot, _) => level.begin slot attached
  | none =>
    if attached.isSome then .error .misuse
    else if name = "version".toList then level.stop .version
    else if name = "help".toList then level.stop .help
    else .error .misuse

/-- An option by its letter. What stands after the letter is its value, with or without `=`. -/
def short (level : Level) (letter : Char) (rest : Text) : Except Stop Level :=
  match options.find? fun (slot, _, short) => short = some letter ∧ level.slots.contains slot with
  | some (slot, _) =>
    level.begin slot <| match rest with
      | [] => none
      | '=' :: value => some value
      | value => some value
  | none =>
    if letter = 'V' then level.stop .version
    else if letter = 'h' then level.stop .help
    else .error .misuse

def operand (level : Level) (word : Text) : Except Stop Level := do
  if level.operandSeen || !level.slots.contains .file then .error .misuse
  else
    let level ← level.settle
    return { level with pending := some (.file, some word), operandSeen := true }

def wantsValue (level : Level) : Bool :=
  match level.pending with
  | some (_, none) => true
  | _ => false

def step (level : Level) (word : Text) : Except Stop Level :=
  if level.operandsOnly then level.operand word
  else
    match word with
    | ['-', '-'] => .ok { level with operandsOnly := true }
    | '-' :: '-' :: name => level.long name
    | '-' :: letter :: rest => level.short letter rest
    | word =>
      match level.pending with
      | some (slot, none) => .ok { level with pending := some (slot, some word) }
      | _ => level.operand word

def orVariable (level : Level) (slot : Slot) (standIn : Option Text) : Except Stop Level :=
  match level.value? slot, standIn with
  | none, some value => level.take slot value
  | _, _ => .ok level

end Level

def helpOn (words : List Text) : Stop :=
  match words with
  | [] => .help
  | [name] => if name = "help".toList ∨ (CommandName.ofText? name).isSome then .help else .misuse
  | _ => .misuse

def upToCommand (level : Level) : List Text → Except Stop (Level × CommandName × List Text)
  | [] => .error .misuse
  | word :: rest =>
    let isName := !level.operandsOnly && !level.wantsValue
    match if isName then CommandName.ofText? word else none with
    | some name => .ok (level, name, rest)
    | none =>
      if isName && word = "help".toList then .error (helpOn rest)
      else do upToCommand (← level.step word) rest

def required (level : Level) (slot : Slot) : Except Stop Text :=
  match level.value? slot with
  | some value => .ok value
  | none => .error .misuse

def CommandName.action (name : CommandName) (level : Level) : Except Stop Action := do
  let isBody := (level.value? .isBody).isSome
  match name with
  | compile => return .compile (← required level .file) (level.value? .sort) isBody
  | spec => return .spec (← required level .file) isBody
  | render =>
    let format := if level.value? .format = some "json".toList then .json else .html
    return .render (← required level .file) (← required level .database) (level.value? .sort)
      ((level.value? .pageUrl).getD []) format isBody
  | shell => return .shell (level.value? .database)

def afterCommand (environment : Variables) (name : CommandName) (words : List Text) :
    Except Stop (Level × Action) := do
  let level ← (← words.foldlM Level.step { slots := name.slots }).settle
  let named := level.given
  let level ← level.orVariable .settingsFile environment.settingsFile
  let level ← if name.slots.contains .database then
      level.orVariable .database environment.database
    else .ok level
  return ({ level with given := named }, ← name.action level)

def programName : Text := "datatable".toList

def Invocation.ofStop (program : Text) : Stop → Invocation
  | .version => version program
  | .help => help
  | .misuse => misuse

/-- The settings file may be named before the command or after it; the command's own goes first. -/
def Invocation.ofWords (environment : Variables) (words : List Text) : Invocation :=
  match upToCommand { slots := [.settingsFile] } words with
  | .error reason => ofStop programName reason
  | .ok (outer, name, rest) =>
    match afterCommand environment name rest with
    | .error reason => ofStop (programName ++ '-' :: name.text) reason
    | .ok (inner, action) =>
      match outer.settle.bind (·.orVariable .settingsFile environment.settingsFile) with
      | .error reason => ofStop programName reason
      | .ok outer =>
        run ((inner.value? .settingsFile).or (outer.value? .settingsFile)) action

end WikiPivot.Command
