import WikiPivot.Text.Basic

/-! Tables as markup. Text and attribute values are escaped when they are printed, and nowhere else,
so what they hold is never taken for markup. -/
namespace WikiPivot.Html

def entity? : Char → Option Text
  | '&' => some "&amp;".toList
  | '<' => some "&lt;".toList
  | '>' => some "&gt;".toList
  | '"' => some "&quot;".toList
  | '\'' => some "&#39;".toList
  | _ => none

def escape (t : Text) : Text := t.flatMap fun c => (entity? c).getD [c]

structure HtmlAttribute where
  name : Text
  value : Text
  deriving DecidableEq, Repr

inductive Inline where
  | text (content : Text)
  | arrow (up : Bool)
  | link (attributes : List HtmlAttribute) (label : Text)
  deriving DecidableEq, Repr

structure Row where
  cells : List (List Inline)
  deriving DecidableEq, Repr

structure Table where
  classes : Text
  header : Row
  rows : List Row
  deriving DecidableEq, Repr

def HtmlAttribute.print : HtmlAttribute → Text
  | ⟨name, value⟩ => ' ' :: name ++ "=\"".toList ++ escape value ++ ['"']

def openTag (name : Text) (attributes : List HtmlAttribute) : Text :=
  '<' :: name ++ attributes.flatMap HtmlAttribute.print ++ ['>']

def closeTag (name : Text) : Text := "</".toList ++ name ++ ['>']

def enclosed (name : Text) (attributes : List HtmlAttribute) (content : Text) : Text :=
  openTag name attributes ++ content ++ closeTag name

def Inline.print : Inline → Text
  | text content => escape content
  | arrow up => enclosed "span".toList [] (if up then "&uarr;".toList else "&darr;".toList)
  | link attributes label => enclosed ['a'] attributes (escape label)

def Row.print (cell : Text) (row : Row) : Text :=
  enclosed "tr".toList [] (row.cells.flatMap fun content =>
    enclosed cell [] (content.flatMap Inline.print))

def Table.print (table : Table) : Text :=
  enclosed "table".toList [⟨"class".toList, table.classes⟩]
    (table.header.print "th".toList ++ table.rows.flatMap (Row.print "td".toList))

end WikiPivot.Html
