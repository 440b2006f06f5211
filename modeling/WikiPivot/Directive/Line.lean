import WikiPivot.Text.Blank
import WikiPivot.Text.Lowercase

/-! A line of a directive is `name: argument`, and a `#` begins a comment.
A backslash before `#` or before `:` keeps it as it is; so does, for `#`, an ampersand, since
`&#39;` is an entity. -/
namespace WikiPivot.Directive

/-- Cuts at the first `mark` that does not stand directly after one of the `guards`; `guarded` says
whether the first character does. -/
def cutLive? (mark : Char) (guards : List Char) (guarded : Bool) : Text → Option (Text × Text)
  | [] => none
  | c :: rest =>
    if c = mark ∧ guarded = false then some ([], rest)
    else (cutLive? mark guards (guards.contains c) rest).map fun (left, right) => (c :: left, right)

def uncommented (line : Text) : Text :=
  let kept := match cutLive? '#' ['\\', '&'] false line with
    | some (kept, _) => kept
    | none => line
  Text.unescape '#' kept

def nameAndArgument? (line : Text) : Option (Text × Text) :=
  (cutLive? ':' ['\\'] false line).map fun (name, argument) =>
    (Text.lowercase (Text.trim name), Text.unescape ':' (Text.trim argument))

/-- The name and the argument that a line has without its comment; a line without a colon says
nothing. -/
def instructionText? (line : Text) : Option (Text × Text) :=
  nameAndArgument? (Text.trim (uncommented line))

end WikiPivot.Directive
