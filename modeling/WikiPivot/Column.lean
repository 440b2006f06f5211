import WikiPivot.Text.Blank
import WikiPivot.Text.Lowercase

/-! Columns and the words that name them.
A column is named by a key, compared in lowercase, and may declare how its values are shown. -/
namespace WikiPivot

/-- How a value is shown. Types without a rule of their own keep their name. -/
inductive ColumnType where
  | text
  | page
  | url
  | mail
  | other (name : Text)
  deriving DecidableEq, Repr

namespace ColumnType

def known : List (Text × ColumnType) :=
  [([], text), ("text".toList, text), ("page".toList, page), ("url".toList, url),
    ("mail".toList, mail)]

/-- Known types are recognised in any case; another name is kept as it is written. -/
def ofToken (token : Text) : ColumnType :=
  let name := Text.trim token
  (known.lookup (Text.lowercase name)).getD (other name)

def name : ColumnType → Text
  | text => "text".toList
  | page => "page".toList
  | url => "url".toList
  | mail => "mail".toList
  | other name => name

end ColumnType

structure Column where
  key : Text
  type : ColumnType
  deriving DecidableEq, Repr

/-- Puts a column last, or retypes the column of that key where it stands. -/
def Column.insert (columns : List Column) (column : Column) : List Column :=
  if columns.any (·.key = column.key) then
    columns.map fun old => if old.key = column.key then column else old
  else columns ++ [column]

structure ColumnMention where
  key : Text
  declared : Option ColumnType
  isIdentity : Bool
  deriving DecidableEq, Repr

namespace ColumnMention

/-- The first word in lowercase is the key, and what follows it, if anything, the type. -/
def ofToken (sentinel token : Text) : ColumnMention :=
  let (word, rest) := Text.firstWord (Text.trim token)
  let key := Text.lowercase word
  let typeName := Text.trim rest
  { key
    declared := if typeName.isEmpty then none else some (ColumnType.ofToken typeName)
    isIdentity := key == sentinel }

def type (mention : ColumnMention) : ColumnType :=
  if mention.isIdentity then .page else mention.declared.getD .text

def column? (mention : ColumnMention) : Option Column :=
  if mention.key.isEmpty then none else some ⟨mention.key, mention.type⟩

end ColumnMention

end WikiPivot
