import WikiPivot.Query.Printer
import WikiPivot.Store.Answer
import WikiPivot.Store.Columns
import WikiPivot.Store.Location

/-! Running a query on a database.
The statement is refused if its aggregate has too long a name, if it has too many sources or is too
deep, if a table is missing, if a column that it uses is missing or stands in two of its tables of
one name, if it joins too many tables, or if its aggregate hides the comparison with patterns.

What is refused, in which order and in which words, is an assumed reading of the engine, as is the
answer to what is not refused. The engine has limits that are not among these, on the number of
columns of a result, the length of a pattern and the length of a statement. A query beyond one of
them has an answer here which the engine refuses to give. -/
namespace WikiPivot

inductive StoreError where
  | noTable (name : Text)
  | noColumn (table column place : Text)
  | ambiguousColumn (table column place : Text)
  | hiddenPattern (place : Text)
  | longAggregate
  | tooManySources
  | tooDeep
  | tooManyTables
  | notDatabase
  | cannotOpen (location : Text)
  | badLocation (error : LocationError)
  deriving DecidableEq, Repr

def StoreError.message : StoreError → Text
  | noTable name => "no such table: ".toList ++ name
  | noColumn table column place =>
    "no such column: ".toList ++ table ++ '.' :: column ++ place
  | ambiguousColumn table column place =>
    "ambiguous column name: ".toList ++ table ++ '.' :: column ++ place
  | hiddenPattern place => "misuse of aggregate: LIKE()".toList ++ place
  | longAggregate => "bad parameter or other API misuse".toList
  | tooManySources => "too many FROM clause terms, max: 200".toList
  | tooDeep => "Expression tree is too large (maximum depth 1000)".toList
  | tooManyTables => "at most 64 tables in a join".toList
  | notDatabase => "file is not a database".toList
  | cannotOpen location => "unable to open database file: ".toList ++ location
  | badLocation error => error.message

inductive Storage where
  | empty
  | tables (database : Database)
  | foreign
  deriving DecidableEq, Repr

namespace Storage

def extend (storage : Storage) (table : Text) (add : Store → Store) : Except StoreError Storage :=
  match storage with
  | empty => .error (.noTable table)
  | foreign => .error .notDatabase
  | tables database => .ok (tables { database with store := add database.store })

def addEntities (storage : Storage) (names : StoreSettings) (entities : List Entity) :
    Except StoreError Storage :=
  storage.extend names.entityTable fun store =>
    { store with entities := store.entities ++ entities }

def addAttributes (storage : Storage) (names : StoreSettings) (attributes : List Attribute) :
    Except StoreError Storage :=
  storage.extend names.attributeTable fun store =>
    { store with attributes := store.attributes ++ attributes }

end Storage

structure Answer where
  query : Query
  rows : List (List Text)
  deriving DecidableEq, Repr

open Sql

structure Source where
  name : Text
  columns : List Text
  deriving DecidableEq, Repr

namespace Database

def table (database : Database) (name : Text) : Except StoreError (List Text) :=
  match database.columns? name with
  | some columns => .ok columns
  | none => .error (.noTable name)

def sources (store : StoreSettings) (database : Database) (query : Query) :
    Except StoreError (List Source) := do
  let columns ← database.table store.entityTable
  let joined ← query.joins.aliases.mapM fun called => do
    return ⟨called, ← database.table store.attributeTable⟩
  return ⟨store.entityTable, columns⟩ :: joined

end Database

def columnUses (offset : Nat) : List Token → List (Nat × ColumnUse)
  | [] => []
  | token :: rest =>
    let later := columnUses (offset + Text.octets token.text) rest
    match token, rest with
    | .name _, .word ['.'] :: .name column :: _ => (offset, ⟨token, column⟩) :: later
    | .joined _, .word ['.'] :: .name column :: _ => (offset, ⟨token, column⟩) :: later
    | _, _ => later

def wordPlaces (word : Text) (offset : Nat) : List Token → List Nat
  | [] => []
  | token :: rest =>
    let later := wordPlaces word (offset + Text.octets token.text) rest
    if token = .word word then offset :: later else later

def Sql.Token.tableName : Token → Text
  | .name text => text
  | token => token.text

/-- What is wrong with the use of a column, which has to stand in exactly one table of its name. -/
def Sql.ColumnUse.error? (sources : List Source) (place : Text) (use : ColumnUse) :
    Option StoreError :=
  let table := use.table.tableName
  let found := sources.countP fun source =>
    sameName source.name table && source.columns.any (sameName use.column)
  if found = 0 then some (.noColumn table use.column place)
  else if 1 < found then some (.ambiguousColumn table use.column place)
  else none

namespace Query

def placedUses (before : List (List Token)) (clauses : List (List Token)) :
    List (Option Nat × ColumnUse) :=
  let offset := Text.octets (Sql.text (parted [' '] (before ++ [[]])))
  (columnUses offset (parted [' '] clauses)).map fun (offset, use) => (some offset, use)

/-- The uses in the order in which they are looked up: what is selected, the terms, the conditions
of the joins, whose places are not reported, the order and the group. -/
def uses (store : StoreSettings) (query : Query) : List (Option Nat × ColumnUse) :=
  let select := query.selectClause store
  let joins := query.joinClauses store
  let source := select :: fromClause store :: joins
  let terms := query.termClauses store
  let group := groupClause store
  placedUses [] [select] ++ placedUses source terms ++
    (columnUses 0 (parted [' '] joins)).map (fun (_, use) => (none, use)) ++
    placedUses (source ++ terms ++ [group]) [query.orderClause store] ++
    placedUses (source ++ terms) [group]

def placeText (statement : Text) : Option Nat → Text
  | some offset => " in ".toList ++ statement ++ " at offset ".toList ++ Text.ofNat offset
  | none => []

def mostTables : Nat := 64

def mostSources : Nat := 200

def longestFunction : Nat := 255

def mostDepth : Nat := 1000

/-- How deep the tree of the terms is: a comparison has depth three, and every logic word adds one
to the deeper of what stands before and after it. -/
def depth (query : Query) : Nat :=
  match (Term.groups query.terms).map (·.length + 2) with
  | [] => 0
  | first :: rest => rest.foldl (fun before group => max before group + 1) first

def joinedDepth (query : Query) : Nat :=
  -- the condition of a join has depth four
  if query.joins.keys.isEmpty then query.depth else max query.depth 4 + query.joins.keys.length

def unreadable? (query : Query) : Option StoreError :=
  if mostSources ≤ query.joins.keys.length then some .tooManySources
  else if mostDepth < query.depth then some .tooDeep
  else none

/-- Patterns are compared by a function `LIKE`, which an aggregate of that name hides. The last of
the comparisons is reported. -/
def hiddenPattern? (store : StoreSettings) (query : Query) : Option StoreError :=
  if sameName store.aggregate Comparator.like.keyword then
    (wordPlaces Comparator.like.keyword 0 (query.statement store)).getLast?.map fun offset =>
      .hiddenPattern (placeText (query.sql store) (some offset))
  else none

def error? (store : StoreSettings) (sources : List Source) (query : Query) : Option StoreError :=
  let statement := query.sql store
  if mostDepth < query.joinedDepth then some .tooDeep
  else
    let found := (query.uses store).findSome? fun (offset, use) =>
      use.error? sources (placeText statement offset)
    (found.or (if mostTables < sources.length then some .tooManyTables else none)).or
      (query.hiddenPattern? store)

def run (store : StoreSettings) (storage : Storage) (query : Query) : Except StoreError Answer :=
  if longestFunction < Text.octets store.aggregate then .error .longAggregate
  else if query.yieldsNothing then .ok ⟨query, []⟩
  else if let some error := query.unreadable? then .error error
  else
    match storage with
    | .empty => .error (.noTable store.entityTable)
    | .foreign => .error .notDatabase
    | .tables database => do
      let sources ← database.sources store query
      match query.error? store sources with
      | some error => .error error
      | none => .ok ⟨query, (database.storeUnder store).answer store.separator query⟩

end Query

end WikiPivot
