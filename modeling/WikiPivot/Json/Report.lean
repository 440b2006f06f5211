import WikiPivot.Json.Layout
import WikiPivot.Pivot

/-! Directives and their answers as JSON. -/
namespace WikiPivot

namespace JsonValue

def member (name : String) (value : JsonValue) : Text × JsonValue := (name.toList, value)

def texts (items : List Text) : JsonValue := .array (items.map .string)

end JsonValue

open JsonValue

def SortKey.json (sort : SortKey) : JsonValue :=
  .object [member "key" (.string sort.key), member "direction" (.string sort.direction.keyword)]

def sortJson (sort : Option SortKey) : JsonValue := (sort.map SortKey.json).getD .null

def Column.json (column : Column) : JsonValue :=
  .object [member "key" (.string column.key), member "type" (.string column.type.name)]

def Filter.json (filter : Filter) : JsonValue :=
  .object
    [member "key" (.string filter.key), member "comparator" (.string filter.comparator.keyword),
      member "value" (.string filter.value.body), member "logic" (.string filter.logic.keyword)]

def TableSpec.json (spec : TableSpec) : JsonValue :=
  .object
    [member "classes" (.string spec.classes),
      member "columns" (.array (spec.columns.map Column.json)),
      member "headers" (texts spec.headers), member "sort" (sortJson spec.sort),
      member "filters" (.array (spec.filters.map Filter.json))]

def Answer.json (store : StoreSettings) (headers : List Text) (answer : Answer) : JsonValue :=
  .object
    [member "sql" (.string (answer.query.sql store)), member "headers" (texts headers),
      member "sort" (sortJson answer.query.sort), member "rows" (.array (answer.rows.map texts))]

end WikiPivot
