import WikiPivot.Command.Run

/-! The program: it looks up the files that its command line names, runs the command on them and
writes what the command leaves.
The commands take the tables of a database as a value. This program does not read the pages of a
database file: a file without content has no tables, and one with content counts as no database. -/
namespace WikiPivot.Command

def look (path : Text) : IO (Option (Text × FileContent)) := do
  try
    let octets ← IO.FS.readBinFile (String.ofList path)
    let content := match String.fromUTF8? octets with
      | some text => FileContent.text text.toList
      | none => .binary
    return some (path, content)
  catch
    | .noFileOrDirectory .. => return none
    | _ => return some (path, .directory)

def readInput (invocation : Invocation) : IO Text := do
  match invocation with
  | .run _ (.shell _) => return (← (← IO.getStdin).readToEnd).toList
  | _ => return []

def makeMissing (path : Text) : IO Unit := IO.FS.writeFile (String.ofList path) ""

def program (words : List String) : IO UInt32 := do
  let environment : Variables :=
    ⟨(← IO.getEnv "DATATABLE_CONFIG").map String.toList,
      (← IO.getEnv "DATATABLE_DB").map String.toList⟩
  let invocation := Invocation.ofWords environment (words.map String.toList)
  let files : Files := ⟨← invocation.paths.filterMapM look⟩
  let outcome := invocation.outcome files (← readInput invocation)
  (outcome.made files).forM makeMissing
  IO.print (String.ofList outcome.output.out)
  IO.eprint (String.ofList outcome.output.err)
  return UInt32.ofNat outcome.code

end WikiPivot.Command

def main (words : List String) : IO UInt32 := WikiPivot.Command.program words
