import WikiPivot.Query.Basic
import WikiPivot.Settings
import WikiPivot.Sql.Token

/-! The statement of a query. Every name is a name of the settings, and all text of the directive
stands in values, so nothing that a directive says can leave its place in the statement. -/
namespace WikiPivot

open Sql

namespace StoreSettings

def entityNameColumn (store : StoreSettings) : ColumnUse :=
  ⟨.name store.entityTable, store.entityName⟩

def entityIdColumn (store : StoreSettings) : ColumnUse := ⟨.name store.entityTable, store.entityId⟩

def joinEntityColumn (store : StoreSettings) (slot : Nat) : ColumnUse :=
  ⟨.joined slot, store.attributeEntity⟩

def joinKeyColumn (store : StoreSettings) (slot : Nat) : ColumnUse :=
  ⟨.joined slot, store.attributeKey⟩

end StoreSettings

def Operand.column (store : StoreSettings) : Operand → ColumnUse
  | entityName => store.entityNameColumn
  | joined slot => ⟨.joined slot, store.attributeValue⟩

def Operand.tokens (store : StoreSettings) (operand : Operand) : List Token :=
  (operand.column store).tokens

/-- A joined column is aggregated; the entity's name stands as it is. -/
def Operand.selected (store : StoreSettings) : Operand → List Token
  | entityName => entityName.tokens store
  | joined slot =>
    [.name store.aggregate, word "("] ++ (joined slot).tokens store ++
      [word ", ", .value (Literal.ofText store.separator), word ")"]

def Term.tokens (store : StoreSettings) : Term → List Token
  | anchor => store.entityIdColumn.tokens ++ word " = " :: (store.joinEntityColumn 0).tokens
  | comparison operand comparator literal =>
    operand.tokens store ++ [word " ", .word comparator.keyword, word " ", .value literal]

namespace Query

def selectClause (store : StoreSettings) (query : Query) : List Token :=
  word "SELECT " :: parted ", ".toList (query.columns.map (·.selected store))

def fromClause (store : StoreSettings) : List Token := [word "FROM ", .name store.entityTable]

def joinClause (store : StoreSettings) (key : Text) (slot : Nat) : List Token :=
  [word "LEFT JOIN ", .name store.attributeTable, word " AS ", .joined slot, word " ON "] ++
    (store.joinEntityColumn slot).tokens ++ word " = " :: store.entityIdColumn.tokens ++
    word " AND " :: (store.joinKeyColumn slot).tokens ++
    [word " = ", .value (Literal.ofText key)]

def joinClauses (store : StoreSettings) (query : Query) : List (List Token) :=
  query.joins.keys.zipIdx.map fun (key, slot) => joinClause store key slot

def termClauses (store : StoreSettings) (query : Query) : List (List Token) :=
  match query.terms with
  | [] => []
  | (_, term) :: rest =>
    (word "WHERE " :: term.tokens store) ::
      rest.map fun (logic, term) => .word logic.keyword :: word " " :: term.tokens store

def groupClause (store : StoreSettings) : List Token :=
  word "GROUP BY " :: store.entityNameColumn.tokens

def orderClause (store : StoreSettings) (query : Query) : List Token :=
  match query.order with
  | none => [word "ORDER BY 1 ASC"]
  | some (operand, direction) =>
    word "ORDER BY " :: operand.tokens store ++ [word " ", .word direction.keyword]

def clauses (store : StoreSettings) (query : Query) : List (List Token) :=
  query.selectClause store :: fromClause store :: query.joinClauses store ++
    query.termClauses store ++ [groupClause store, query.orderClause store]

def statement (store : StoreSettings) (query : Query) : List Token :=
  if query.yieldsNothing then [word "SELECT NULL WHERE 0"]
  else parted [' '] (query.clauses store)

def sql (store : StoreSettings) (query : Query) : Text := Sql.text (query.statement store)

end Query

end WikiPivot
