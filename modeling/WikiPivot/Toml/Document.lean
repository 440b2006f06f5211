import WikiPivot.Toml.Scalar

/-! Documents read token by token.
The machine knows what may come next, the arrays and inline tables that are open around it, and the
table that the last header opened. -/
namespace WikiPivot.Toml

structure PartialKey where
  parts : List Text
  wantsPart : Bool
  deriving DecidableEq, Repr

namespace PartialKey

def start : PartialKey := ⟨[], true⟩

def add (key : PartialKey) (part : Text) : Option PartialKey :=
  if key.wantsPart then some ⟨key.parts ++ [part], false⟩ else none

def dot (key : PartialKey) : Option PartialKey :=
  if key.wantsPart then none else some { key with wantsPart := true }

def mostParts : Nat := 80

def complete? (key : PartialKey) : Option (List Text) :=
  if key.wantsPart ∨ mostParts < key.parts.length then none else some key.parts

end PartialKey

def isBareKey (t : Text) : Bool :=
  !t.isEmpty && t.all fun c => c.isAlphanum || c == '_' || c == '-'

def Token.keyPart? : Token → Option Text
  | atom text => if isBareKey text then some text else none
  | string false text => some text
  | _ => none

/-- What is open around a value: an array with its items so far, or an inline table with its entries
so far and the key that waits for a value. -/
inductive Frame where
  | array (items : List Value)
  | inline (entries : Entries) (path : List Text)

inductive Expecting where
  | line
  | header
  | headerKey (repeats : Bool) (key : PartialKey)
  | headerEnd (path : List Text)
  | lineEnd
  | key (key : PartialKey)
  | equals (path : List Text)
  | value
  | scalar (text : Text)
  | time (date : Text)
  | element
  | inlineKey
  | after
  deriving DecidableEq, Repr

structure Machine where
  root : Entries := []
  table : List Text := []
  path : List Text := []
  frames : List Frame := []
  expecting : Expecting := .line

namespace Machine

def deepest : Nat := 80

def expect (m : Machine) (expecting : Expecting) : Machine := { m with expecting }

def give (m : Machine) (value : Value) : Option Machine :=
  match m.frames with
  | [] => do
    return { m with root := ← m.root.assignUnder m.table m.path value, expecting := .lineEnd }
  | .array items :: frames =>
    some { m with frames := .array (items ++ [value]) :: frames, expecting := .after }
  | .inline entries path :: frames => do
    return { m with
      frames := .inline (← entries.assign path value) [] :: frames, expecting := .after }

def enter (m : Machine) (frame : Frame) (expecting : Expecting) : Option Machine :=
  if m.frames.length < deepest then
    some { m with frames := frame :: m.frames, expecting }
  else none

def closeArray (m : Machine) : Option Machine :=
  match m.frames with
  | .array items :: frames => { m with frames }.give (.array items)
  | _ => none

def closeInline (m : Machine) : Option Machine :=
  match m.frames with
  | .inline entries _ :: frames => { m with frames }.give (.table .inline entries)
  | _ => none

def nextItem (m : Machine) : Option Machine :=
  match m.frames with
  | .array _ :: _ => some (m.expect .element)
  | .inline .. :: _ => some (m.expect .inlineKey)
  | [] => none

def beginValue (m : Machine) : Token → Option Machine
  | .string _ text => m.give (.string text)
  | .atom text => some (m.expect (.scalar text))
  | .openBracket => m.enter (.array []) .element
  | .openBrace => m.enter (.inline [] []) .inlineKey
  | _ => none

def keyDone (m : Machine) (path : List Text) : Machine :=
  match m.frames with
  | .inline entries _ :: frames =>
    { m with frames := .inline entries path :: frames, expecting := .value }
  | _ => { m with path, expecting := .value }

def openHeader (m : Machine) (repeats : Bool) (path : List Text) : Option Machine := do
  let root ← if repeats then m.root.repeatTable path else m.root.openTable path
  return { m with root, table := path, expecting := .lineEnd }

/-- Within an inline table lines may end after a key and before its value. -/
def endKeyLine (m : Machine) (path : List Text) : Option Machine :=
  if m.frames.isEmpty then none else some (m.expect (.equals path))

def stepKey (key : PartialKey) (wrap : PartialKey → Expecting) (m : Machine) (token : Token) :
    Option Machine :=
  match token with
  | .blank _ => some m
  | .dot => do return m.expect (wrap (← key.dot))
  | token => do return m.expect (wrap (← key.add (← token.keyPart?)))

def stepHeader (repeats : Bool) (key : PartialKey) (m : Machine) (token : Token) :
    Option Machine := do
  if token = .closeBracket then
    let path ← key.complete?
    if repeats then return m.expect (.headerEnd path) else m.openHeader false path
  else stepKey key (.headerKey repeats) m token

def stepPlain (m : Machine) (token : Token) : Option Machine :=
  match m.expecting, token with
  | .line, .blank _ => some m
  | .line, .newline => some m
  | .line, .openBracket => some (m.expect .header)
  | .line, token => stepKey .start .key m token
  | .header, .openBracket => some (m.expect (.headerKey true .start))
  | .header, token => stepHeader false .start (m.expect (.headerKey false .start)) token
  | .headerKey repeats key, token => stepHeader repeats key m token
  | .headerEnd path, .closeBracket => m.openHeader true path
  | .lineEnd, .blank _ => some m
  | .lineEnd, .newline => some (m.expect .line)
  | .key key, .equals => key.complete?.map m.keyDone
  | .key key, .newline => key.complete?.bind m.endKeyLine
  | .key key, token => stepKey key .key m token
  | .equals _, .blank _ => some m
  | .equals _, .newline => some m
  | .equals path, .equals => some (m.keyDone path)
  | .value, .blank _ => some m
  | .value, .newline => if m.frames.isEmpty then none else some m
  | .value, token => m.beginValue token
  | .element, .blank _ => some m
  | .element, .newline => some m
  | .element, .closeBracket => m.closeArray
  | .element, token => m.beginValue token
  | .inlineKey, .blank _ => some m
  | .inlineKey, .newline => some m
  | .inlineKey, .closeBrace => m.closeInline
  | .inlineKey, token => stepKey .start .key m token
  | .after, .blank _ => some m
  | .after, .newline => some m
  | .after, .comma => m.nextItem
  | .after, .closeBracket => m.closeArray
  | .after, .closeBrace => m.closeInline
  | _, _ => none

def settle (m : Machine) : Option Machine :=
  match m.expecting with
  | .scalar text => (Value.ofScalar? text).bind m.give
  | .time date => (Value.ofScalar? date).bind m.give
  | _ => some m

/-- A point goes on with a scalar, an atom after a point or between a date and its time too. -/
def step (m : Machine) (token : Token) : Option Machine :=
  match m.expecting, token with
  | .scalar text, .dot => some (m.expect (.scalar (text ++ ['.'])))
  | .scalar text, .atom more => some (m.expect (.scalar (text ++ more)))
  | .scalar text, .blank ' ' =>
    if isDate text then some (m.expect (.time text)) else m.settle.bind (·.stepPlain token)
  | .time date, .atom (c :: more) =>
    if c.isDigit then some (m.expect (.scalar (date ++ ' ' :: c :: more))) else none
  | .scalar _, _ => m.settle.bind (·.stepPlain token)
  | .time _, _ => m.settle.bind (·.stepPlain token)
  | _, _ => m.stepPlain token

def finish (m : Machine) : Option Entries := do
  let m ← m.settle
  if m.expecting = .line ∨ m.expecting = .lineEnd then return m.root else none

end Machine

def document? (document : Text) : Option Entries := do
  (← (← tokens? document).foldlM Machine.step {}).finish

end WikiPivot.Toml
