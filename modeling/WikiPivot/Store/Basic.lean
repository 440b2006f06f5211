import WikiPivot.Text.Basic

/-! A store holds entities and their attributes, both in the order they were added.
An attribute belongs to the entity with its number and may lack a value. -/
namespace WikiPivot

structure Entity where
  id : Int
  name : Text
  deriving DecidableEq, Repr

structure Attribute where
  entity : Int
  key : Text
  value : Option Text
  deriving DecidableEq, Repr

structure Store where
  entities : List Entity := []
  attributes : List Attribute := []
  deriving DecidableEq, Repr

end WikiPivot
