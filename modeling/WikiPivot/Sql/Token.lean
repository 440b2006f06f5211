import WikiPivot.Query.Joins
import WikiPivot.Sql.Quoting

/-! Statements as tokens. Names stand between double quotes and values between single ones; words,
which hold no quotes, are the rest, white space included. -/
namespace WikiPivot.Sql

inductive Token where
  | word (text : Text)
  | name (text : Text)
  | joined (slot : Nat)
  | value (literal : Literal)
  deriving DecidableEq, Repr

namespace Token

def text : Token → Text
  | word text => text
  | name text => identifier text
  | joined slot => Joins.aliasAt slot
  | value literal => literal.quoted

end Token

def text (tokens : List Token) : Text := tokens.flatMap Token.text

def parted (mark : Text) : List (List Token) → List Token
  | [] => []
  | [tokens] => tokens
  | tokens :: rest => tokens ++ .word mark :: parted mark rest

def word (s : String) : Token := .word s.toList

structure ColumnUse where
  table : Token
  column : Text
  deriving DecidableEq, Repr

def ColumnUse.tokens (use : ColumnUse) : List Token := [use.table, word ".", .name use.column]

end WikiPivot.Sql
