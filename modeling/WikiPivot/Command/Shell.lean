import WikiPivot.Json.Report
import WikiPivot.Text.Blank

/-! The shell reads directives line by line. A blank line ends a directive, which is compiled and,
if there is a database, answered; lines that no blank line follows are dropped.

A session here is that of an input which is given in whole and then ends. An interrupt from the
terminal, on which the shell drops the lines it holds, says `directive discarded` and reads on, is
left out, and so are the editing of lines, their history and a terminal that fails. -/
namespace WikiPivot.Command

structure Output where
  out : Text := []
  err : Text := []
  deriving DecidableEq, Repr

namespace Output

def append (first second : Output) : Output := ⟨first.out ++ second.out, first.err ++ second.err⟩

instance : Append Output := ⟨append⟩

def line (t : Text) : Output := ⟨t ++ ['\n'], []⟩

def errorLine (t : Text) : Output := ⟨[], t ++ ['\n']⟩

def diagnostics (reading : Directive.Reading) : Output :=
  ⟨[], reading.diagnostics.flatMap fun d => d.severity.name ++ ": ".toList ++ d.message ++ ['\n']⟩

def failure (message : Text) : Output := errorLine ("error: ".toList ++ message)

end Output

def answerJson (settings : Settings) (storage : Storage) (spec : TableSpec) (sort : Option Text) :
    Except StoreError Text :=
  (settings.answer storage spec sort).map fun answer =>
    (answer.json settings.store spec.headers).text

namespace Shell

def banner : Text :=
  "datatable shell v0.4.0\nEnter directive lines; a blank line runs them. Ctrl-D exits.\n".toList

def prompt (buffer : List Text) : Text :=
  if buffer.isEmpty then "datatable> ".toList else "       ... ".toList

def directive (settings : Settings) (storage : Option Storage) (buffer : List Text) : Output :=
  if buffer.isEmpty then {}
  else
    let reading := settings.read [] buffer
    let spec := reading.spec
    let answer := match storage.map fun storage => answerJson settings storage spec none with
      | none => {}
      | some (.ok json) => Output.line json
      | some (.error error) => Output.failure (Failure.store error).message
    Output.diagnostics reading ++ Output.line ((settings.query spec none).sql settings.store) ++
      answer

/-- A prompt stands before every line and before the end. -/
def session (settings : Settings) (storage : Option Storage) (buffer : List Text) :
    List Text → Output
  | [] => ⟨prompt buffer, []⟩
  | line :: rest =>
    let asked : Output := ⟨prompt buffer, []⟩
    if (Text.trim line).isEmpty then
      asked ++ directive settings storage buffer ++ session settings storage [] rest
    else asked ++ session settings storage (buffer ++ [line]) rest

def run (settings : Settings) (storage : Option Storage) (lines : List Text) : Output :=
  ⟨banner, []⟩ ++ session settings storage [] lines

end Shell

end WikiPivot.Command
