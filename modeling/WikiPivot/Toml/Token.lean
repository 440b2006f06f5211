import WikiPivot.Text.Percent

/-! The tokens of a TOML document.
They are found by a machine that reads one character at a time. Comments are dropped, strings are
decoded, and what is none of these is an atom, of which the parser makes a bare key or a scalar. -/
namespace WikiPivot.Toml

inductive Token where
  | equals
  | comma
  | dot
  | openBracket
  | closeBracket
  | openBrace
  | closeBrace
  | newline
  | blank (c : Char)
  | atom (text : Text)
  | string (isBlock : Bool) (text : Text)
  deriving DecidableEq, Repr

inductive Quote where
  | basic
  | literal
  deriving DecidableEq, Repr

def Quote.mark : Quote → Char
  | basic => '"'
  | literal => '\''

/-- What the machine is in the middle of. Text read so far is held in reverse. -/
inductive Mode where
  | between
  | carriage
  | comment
  | commentCarriage
  | atom (read : Text)
  | opened (quote : Quote) (twice : Bool)
  | line (quote : Quote) (read : Text)
  | blockStart (quote : Quote)
  | blockStartCarriage (quote : Quote)
  | block (quote : Quote) (read : Text) (marks : Nat)
  | blockCarriage (quote : Quote) (read : Text)
  | escape (isBlock : Bool) (read : Text)
  | code (isBlock : Bool) (read : Text) (owed value : Nat)
  | joined (read : Text) (crossed : Bool)
  | joinedCarriage (read : Text)
  deriving DecidableEq, Repr

def isPlain (c : Char) : Bool := c == '\t' || (32 ≤ c.toNat && c.toNat != 127)

/-- The tokens that a step completes and what the machine is in after it, if the step is allowed. -/
abbrev Lexed := Option (List Token × Mode)

def stepBetween (c : Char) : Lexed :=
  match c with
  | '=' => some ([.equals], .between)
  | ',' => some ([.comma], .between)
  | '.' => some ([.dot], .between)
  | '[' => some ([.openBracket], .between)
  | ']' => some ([.closeBracket], .between)
  | '\x7b' => some ([.openBrace], .between)
  | '\x7d' => some ([.closeBrace], .between)
  | '\n' => some ([.newline], .between)
  | '\r' => some ([], .carriage)
  | ' ' => some ([.blank ' '], .between)
  | '\t' => some ([.blank '\t'], .between)
  | '#' => some ([], .comment)
  | '"' => some ([], .opened .basic false)
  | '\'' => some ([], .opened .literal false)
  | c => some ([], .atom [c])

def endsAtom (c : Char) : Bool := ".=,[] \t#\r\n\x7b\x7d".toList.contains c

def completed (token : Token) (c : Char) : Lexed :=
  (stepBetween c).map fun (tokens, mode) => (token :: tokens, mode)

def stepLine (quote : Quote) (read : Text) (c : Char) : Lexed :=
  if c = quote.mark then some ([.string false read.reverse], .between)
  else if c = '\\' ∧ quote = .basic then some ([], .escape false read)
  else if isPlain c then some ([], .line quote (c :: read))
  else none

def blockText (quote : Quote) (read : Text) (marks : Nat) : Text :=
  read.reverse ++ List.replicate (marks - 3) quote.mark

/-- Up to two marks may stand before the three that close a block. -/
def stepBlock (quote : Quote) (read : Text) (marks : Nat) (c : Char) : Lexed :=
  if c = quote.mark then
    if marks = 4 then some ([.string true (blockText quote read 5)], .between)
    else some ([], .block quote read (marks + 1))
  else if 3 ≤ marks then completed (.string true (blockText quote read marks)) c
  else
    let read := List.replicate marks quote.mark ++ read
    if c = '\\' ∧ quote = .basic then some ([], .escape true read)
    else if c = '\r' then some ([], .blockCarriage quote read)
    else if c = '\n' ∨ isPlain c then some ([], .block quote (c :: read) 0)
    else none

def resumed (isBlock : Bool) (read : Text) : Mode :=
  if isBlock then .block .basic read 0 else .line .basic read

def escaped? : Char → Option Char
  | 'b' => some '\x08'
  | 't' => some '\t'
  | 'n' => some '\n'
  | 'f' => some '\x0c'
  | 'r' => some '\r'
  | 'e' => some '\x1b'
  | '"' => some '"'
  | '\\' => some '\\'
  | _ => none

def codeLength? : Char → Option Nat
  | 'x' => some 2
  | 'u' => some 4
  | 'U' => some 8
  | _ => none

/-- In a block a backslash at the end of a line joins it with the next that is not blank. -/
def stepEscape (isBlock : Bool) (read : Text) (c : Char) : Lexed :=
  match escaped? c, codeLength? c with
  | some d, _ => some ([], resumed isBlock (d :: read))
  | none, some owed => some ([], .code isBlock read owed 0)
  | none, none =>
    if !isBlock then none
    else if c = ' ' ∨ c = '\t' then some ([], .joined read false)
    else if c = '\n' then some ([], .joined read true)
    else if c = '\r' then some ([], .joinedCarriage read)
    else none

def stepCode (isBlock : Bool) (read : Text) (owed value : Nat) (c : Char) : Lexed := do
  let value := 16 * value + (← Text.hexValue? c)
  if 1 < owed then return ([], .code isBlock read (owed - 1) value)
  else if value.isValidChar then return ([], resumed isBlock (Char.ofNat value :: read))
  else none

def stepJoined (read : Text) (crossed : Bool) (c : Char) : Lexed :=
  if c = ' ' ∨ c = '\t' then some ([], .joined read crossed)
  else if c = '\n' then some ([], .joined read true)
  else if c = '\r' then some ([], .joinedCarriage read)
  else if crossed then stepBlock .basic read 0 c
  else none

def lineFeed (c : Char) (lexed : Lexed) : Lexed := if c = '\n' then lexed else none

def Mode.step : Mode → Char → Lexed
  | between, c => stepBetween c
  | carriage, c => lineFeed c (some ([.newline], between))
  | comment, c =>
    if c = '\n' then some ([.newline], between)
    else if c = '\r' then some ([], commentCarriage)
    else if isPlain c then some ([], comment)
    else none
  | commentCarriage, c => lineFeed c (some ([.newline], between))
  | atom read, c =>
    if endsAtom c then completed (.atom read.reverse) c else some ([], atom (c :: read))
  | opened quote twice, c =>
    if c = quote.mark then some ([], if twice then blockStart quote else opened quote true)
    else if twice then completed (.string false []) c
    else stepLine quote [] c
  | line quote read, c => stepLine quote read c
  | blockStart quote, c =>
    if c = '\n' then some ([], block quote [] 0)
    else if c = '\r' then some ([], blockStartCarriage quote)
    else stepBlock quote [] 0 c
  | blockStartCarriage quote, c => lineFeed c (some ([], block quote [] 0))
  | block quote read marks, c => stepBlock quote read marks c
  | blockCarriage quote read, c => lineFeed c (some ([], block quote ('\n' :: '\r' :: read) 0))
  | escape isBlock read, c => stepEscape isBlock read c
  | code isBlock read owed value, c => stepCode isBlock read owed value c
  | joined read crossed, c => stepJoined read crossed c
  | joinedCarriage read, c => lineFeed c (some ([], joined read true))

def Mode.finish : Mode → Option (List Token)
  | between => some []
  | comment => some []
  | atom read => some [.atom read.reverse]
  | opened _ true => some [.string false []]
  | block quote read marks =>
    if 3 ≤ marks then some [.string true (blockText quote read marks)] else none
  | _ => none

def tokensFrom (mode : Mode) : Text → Option (List Token)
  | [] => mode.finish
  | c :: rest => do
    let (tokens, mode) ← mode.step c
    return tokens ++ (← tokensFrom mode rest)

def tokens? (document : Text) : Option (List Token) :=
  match document with
  | '\ufeff' :: rest => tokensFrom .between rest
  | _ => tokensFrom .between document

end WikiPivot.Toml
