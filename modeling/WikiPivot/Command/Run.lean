import WikiPivot.Command.Files
import WikiPivot.Command.Invocation
import WikiPivot.Command.Shell
import WikiPivot.SettingsFile

/-! The commands. The settings are read first, then the directive, and the database last; the first
of them that fails ends the command. The texts shown for help and for a misused command line are
left out, and so is all logging. -/
namespace WikiPivot.Command

structure Outcome where
  code : Nat
  output : Output
  opened : List Text := []
  deriving DecidableEq, Repr

namespace Outcome

def done (output : Output) : Outcome := ⟨0, output, []⟩

def failed (message : Text) : Outcome := ⟨1, Output.failure message, []⟩

def after (before : Output) (outcome : Outcome) : Outcome :=
  { outcome with output := before ++ outcome.output }

end Outcome

def withSettings (files : Files) (settingsFile : Option Text) (next : Settings → Outcome) :
    Outcome :=
  let settings : Except SettingsError Settings := match settingsFile with
    | none => .ok {}
    | some path =>
      match files.readText path with
      | .error error => .error (.unreadable path error.message)
      | .ok document => Settings.ofToml document
  match settings with
  | .error error => .failed (Failure.settings error).message
  | .ok settings => next settings

/-- Goes on with the first directive of a document, or with the whole of it as a directive. -/
def withSpec (settings : Settings) (files : Files) (file : Text) (isBody : Bool)
    (next : TableSpec → Outcome) : Outcome :=
  match files.readText file with
  | .error error =>
    .failed ("failed to read '".toList ++ file ++ "': ".toList ++ error.message)
  | .ok document =>
    let reading? := if isBody then some (settings.read [] (Text.lines document))
      else (Block.find document).head?.map settings.readBlock
    match reading? with
    | none => .failed Failure.noDirective.message
    | some reading => (next reading.spec).after (.diagnostics reading)

def withStorage (files : Files) (path : Text) (next : Storage → Outcome) : Outcome :=
  match files.openStorage path with
  | .error error => .failed (Failure.store error).message
  | .ok storage => { next storage with opened := [path] }

def rendered (settings : Settings) (storage : Storage) (spec : TableSpec) (sort : Option Text)
    (pageUrl : Text) : OutputFormat → Except StoreError Text
  | .html => settings.render (.ofSettings settings pageUrl) storage spec sort
  | .json => answerJson settings storage spec sort

def Action.run (settings : Settings) (files : Files) (input : Text) : Action → Outcome
  | compile file sort isBody => withSpec settings files file isBody fun spec =>
    .done (.line ((settings.query spec sort).sql settings.store))
  | spec file isBody => withSpec settings files file isBody fun spec =>
    .done (.line spec.json.text)
  | render file database sort pageUrl format isBody =>
    withSpec settings files file isBody fun spec =>
      withStorage files database fun storage =>
        match rendered settings storage spec sort pageUrl format with
        | .ok text => .done (.line text)
        | .error error => .failed (Failure.store error).message
  | shell none => .done (Shell.run settings none (Text.lines input))
  | shell (some database) => withStorage files database fun storage =>
    .done (Shell.run settings (some storage) (Text.lines input))

def Invocation.outcome (files : Files) (input : Text) : Invocation → Outcome
  | run settingsFile action =>
    let files := files ++ .standing input
    withSettings files settingsFile fun settings => action.run settings files input
  | version program => .done (.line (program ++ " 0.4.0".toList))
  | help => .done {}
  | misuse => ⟨2, {}, []⟩

def databasePaths (location : Text) : List Text :=
  match Location.ofText location with
  | .ok (.file path _) => [path, (Path.place path).path]
  | _ => []

def Action.paths : Action → List Text
  | compile file .. => [file]
  | spec file _ => [file]
  | render file database .. => file :: databasePaths database
  | shell database => database.toList.flatMap databasePaths

/-- What has to be looked up before an invocation is run: the files and the directories on the
way. -/
def Invocation.paths : Invocation → List Text
  | run settingsFile action => (settingsFile.toList ++ action.paths).flatMap Path.leading
  | _ => []

def Outcome.made (files : Files) (outcome : Outcome) : List Text :=
  ((outcome.opened.flatMap databasePaths).filter fun path =>
    (files.content? (Path.place path)).isNone).map fun path => (Path.place path).path

end WikiPivot.Command
