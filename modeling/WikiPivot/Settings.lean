import WikiPivot.Text.Alphanumeric
import WikiPivot.Text.Blank
import WikiPivot.Text.Lowercase

/-! What a wiki may choose: the names of its tables and columns, the aggregate function, the
separator of joined values, and the vocabulary of its directives.
Settings are usable when every name can stand in a statement and the vocabulary can be told apart
from ordinary keys. -/
namespace WikiPivot

structure StoreSettings where
  entityTable : Text := "pages".toList
  entityId : Text := "pid".toList
  entityName : Text := "page".toList
  attributeTable : Text := "data".toList
  attributeEntity : Text := "pid".toList
  attributeKey : Text := "key".toList
  attributeValue : Text := "value".toList
  aggregate : Text := "dedup_concat".toList
  separator : Text := ", ".toList
  deriving DecidableEq, Repr

structure DirectiveSettings where
  sentinel : Text := "%pageid%".toList
  pageNameLabel : Text := "pagename".toList
  descendingMarker : Char := '^'
  sortParameter : Text := "datasrt".toList
  deriving DecidableEq, Repr

structure Settings where
  store : StoreSettings := {}
  directive : DirectiveSettings := {}
  deriving DecidableEq, Repr

/-- The store settings that name something in a statement, in the order they are checked. -/
inductive StoreName where
  | entityTable
  | entityId
  | entityName
  | attributeTable
  | attributeEntity
  | attributeKey
  | attributeValue
  | aggregate
  deriving DecidableEq, Repr

namespace StoreName

def all : List StoreName :=
  [entityTable, entityId, entityName, attributeTable, attributeEntity, attributeKey, attributeValue,
    aggregate]

def field : StoreName → Text
  | entityTable => "store.entity_table".toList
  | entityId => "store.entity_id".toList
  | entityName => "store.entity_name".toList
  | attributeTable => "store.attribute_table".toList
  | attributeEntity => "store.attribute_entity".toList
  | attributeKey => "store.attribute_key".toList
  | attributeValue => "store.attribute_value".toList
  | aggregate => "store.aggregate".toList

end StoreName

def StoreSettings.get (store : StoreSettings) : StoreName → Text
  | .entityTable => store.entityTable
  | .entityId => store.entityId
  | .entityName => store.entityName
  | .attributeTable => store.attributeTable
  | .attributeEntity => store.attributeEntity
  | .attributeKey => store.attributeKey
  | .attributeValue => store.attributeValue
  | .aggregate => store.aggregate

inductive SettingsError where
  | unreadable (path cause : Text)
  | malformed
  | notIdentifier (name : StoreName) (value : Text)
  | badSentinel (sentinel : Text)
  | badMarker (marker : Char)
  | noSortParameter
  deriving DecidableEq, Repr

def SettingsError.message : SettingsError → Text
  | unreadable path cause =>
    "failed to read config '".toList ++ path ++ "': ".toList ++ cause
  | malformed => "failed to parse config".toList
  | notIdentifier name value =>
    name.field ++ " must be a plain SQL identifier, got '".toList ++ value ++ "'".toList
  | badSentinel sentinel =>
    "identity sentinel must be a non-empty lowercase token, got '".toList ++ sentinel ++ "'".toList
  | badMarker marker =>
    "descending marker must be punctuation, got '".toList ++ [marker] ++ "'".toList
  | noSortParameter => "sort parameter name must not be empty".toList

def isIdentifier : Text → Bool
  | [] => false
  | c :: rest => (c.isAlpha || c == '_') && rest.all fun d => d.isAlphanum || d == '_'

/-- A key that lowercasing keeps and that no cut of a directive line can take apart. -/
def isSentinel (key : Text) : Bool :=
  !key.isEmpty && Text.lowercase key == key &&
    key.all fun c => !Text.isBlank c && c != ',' && c != ':' && c != '#'

def isMarker (c : Char) : Bool :=
  !Text.isAlphanumeric c && !Text.isBlank c && c != '_'

/-- The settings themselves if they are usable, else the first thing wrong with them. -/
def Settings.check (settings : Settings) : Except SettingsError Settings :=
  match StoreName.all.find? fun name => !isIdentifier (settings.store.get name) with
  | some name => .error (.notIdentifier name (settings.store.get name))
  | none =>
    let directive := settings.directive
    if !isSentinel directive.sentinel then .error (.badSentinel directive.sentinel)
    else if !isMarker directive.descendingMarker then
      .error (.badMarker directive.descendingMarker)
    else if directive.sortParameter.isEmpty then .error .noSortParameter
    else .ok settings

end WikiPivot
