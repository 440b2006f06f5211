import WikiPivot.Settings
import WikiPivot.Store.Basic

/-! The columns of a database. Its two tables have names of their own, and settings may take either
of them for the entities or the attributes, and any column of it for a part of these. -/
namespace WikiPivot

inductive Field where
  | number (n : Int)
  | text (content : Option Text)
  deriving DecidableEq, Repr

namespace Field

def text? : Field → Option Text
  | number n => some (Text.ofInt n)
  | text content => content

/-- Whether two fields name one entity. A missing text names none. -/
def agrees (a b : Field) : Bool := a.text?.isSome && a.text? == b.text?

end Field

abbrev Row := List (Text × Field)

def sameName (a b : Text) : Bool := Text.asciiLowercase a == Text.asciiLowercase b

def Row.field (row : Row) (column : Text) : Field :=
  ((row.find? fun (name, _) => sameName name column).map Prod.snd).getD (.text none)

def Entity.row (schema : StoreSettings) (entity : Entity) : Row :=
  [(schema.entityId, .number entity.id), (schema.entityName, .text entity.name)]

def Attribute.row (schema : StoreSettings) (fact : Attribute) : Row :=
  [(schema.attributeEntity, .number fact.entity), (schema.attributeKey, .text fact.key),
    (schema.attributeValue, .text fact.value)]

def Entity.ofRow (names : StoreSettings) (row : Row) (place : Nat) : Entity :=
  ⟨place, ((row.field names.entityName).text?).getD []⟩

/-- One attribute for every entity that the row names; without a key there is none. -/
def Attribute.ofRow (names : StoreSettings) (entities : List Row) (row : Row) : List Attribute :=
  match (row.field names.attributeKey).text? with
  | none => []
  | some key =>
    let entity := row.field names.attributeEntity
    (entities.zipIdx.filter fun (other, _) => (other.field names.entityId).agrees entity).map
      fun (_, place) => ⟨place, key, (row.field names.attributeValue).text?⟩

structure Database where
  schema : StoreSettings
  store : Store
  deriving DecidableEq, Repr

namespace Database

def columns? (database : Database) (table : Text) : Option (List Text) :=
  let schema := database.schema
  if sameName table schema.entityTable then some [schema.entityId, schema.entityName]
  else if sameName table schema.attributeTable then
    some [schema.attributeEntity, schema.attributeKey, schema.attributeValue]
  else none

def rows (database : Database) (table : Text) : List Row :=
  let schema := database.schema
  if sameName table schema.entityTable then
    (database.store.entities.mergeSort (·.id ≤ ·.id)).map (·.row schema)
  else if sameName table schema.attributeTable then database.store.attributes.map (·.row schema)
  else []

def isNamedBy (database : Database) (names : StoreSettings) : Bool :=
  { database.schema with aggregate := names.aggregate, separator := names.separator } = names

def storeUnder (database : Database) (names : StoreSettings) : Store :=
  if database.isNamedBy names then database.store
  else
    let entities := database.rows names.entityTable
    { entities := entities.zipIdx.map fun (row, place) => .ofRow names row place
      attributes :=
        (database.rows names.attributeTable).flatMap (Attribute.ofRow names entities) }

end Database

end WikiPivot
