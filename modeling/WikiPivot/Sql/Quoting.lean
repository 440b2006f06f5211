import WikiPivot.Text.Basic

/-! Quoted tokens of a statement: a quote mark inside a token is written twice.
A literal cannot hold the NUL character, so making one drops it. -/
namespace WikiPivot

namespace Sql

def doubled (mark : Char) (t : Text) : Text := Text.replaceChar mark [mark, mark] t

def identifier (name : Text) : Text := '"' :: doubled '"' name ++ ['"']

end Sql

structure Literal where
  value : Text
  deriving DecidableEq, Repr

namespace Literal

def ofText (raw : Text) : Literal := ⟨raw.filter (· != '\x00')⟩

def body (literal : Literal) : Text := Sql.doubled '\'' literal.value

def quoted (literal : Literal) : Text := '\'' :: literal.body ++ ['\'']

end Literal

end WikiPivot
