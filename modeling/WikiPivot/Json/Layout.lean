import WikiPivot.Text.Percent

/-! JSON laid out over lines: each member of an array or object stands on a line of its own, two
spaces deeper than what it belongs to. Quotes, backslashes and control characters are escaped, and
other characters stand as they are. -/
namespace WikiPivot

inductive JsonValue where
  | null
  | string (text : Text)
  | array (items : List JsonValue)
  | object (members : List (Text × JsonValue))

namespace JsonValue

def hexLower (n : Nat) : Char := (Text.hexDigit n).toLower

def escapeChar (c : Char) : Text :=
  if c = '"' then "\\\"".toList
  else if c = '\\' then "\\\\".toList
  else if c = '\x08' then "\\b".toList
  else if c = '\t' then "\\t".toList
  else if c = '\n' then "\\n".toList
  else if c = '\x0c' then "\\f".toList
  else if c = '\r' then "\\r".toList
  else if c.toNat < 32 then
    "\\u00".toList ++ [hexLower (c.toNat / 16), hexLower (c.toNat % 16)]
  else [c]

def quoted (t : Text) : Text := '"' :: t.flatMap escapeChar ++ ['"']

def margin (depth : Nat) : Text := List.replicate (2 * depth) ' '

def bracketed (depth : Nat) (left right : Char) (members : Text) : Text :=
  if members.isEmpty then [left, right]
  else left :: '\n' :: members ++ '\n' :: margin depth ++ [right]

mutual

def print (depth : Nat) : JsonValue → Text
  | null => "null".toList
  | string text => quoted text
  | array items => bracketed depth '[' ']' (printItems (depth + 1) items)
  | object members => bracketed depth '\x7b' '\x7d' (printMembers (depth + 1) members)

def printItems (depth : Nat) : List JsonValue → Text
  | [] => []
  | [item] => margin depth ++ item.print depth
  | item :: rest => margin depth ++ item.print depth ++ ',' :: '\n' :: printItems depth rest

def printMembers (depth : Nat) : List (Text × JsonValue) → Text
  | [] => []
  | [(name, value)] => margin depth ++ quoted name ++ ": ".toList ++ value.print depth
  | (name, value) :: rest =>
    margin depth ++ quoted name ++ ": ".toList ++ value.print depth ++
      ',' :: '\n' :: printMembers depth rest

end

def text (value : JsonValue) : Text := value.print 0

end JsonValue

end WikiPivot
