import WikiPivot.Settings
import WikiPivot.Toml.Document

/-! Settings as a TOML document with a table for the store and one for the directives.
What the document leaves out is as usual, and what the settings do not know is passed over, as long
as its numbers can be read. A table may also be written as an array of its values in their order. -/
namespace WikiPivot

namespace Toml

mutual

def Value.isReadable : Value → Bool
  | .integer (.ofNat n) => n < Nat.pow 2 128
  | .integer (.negSucc n) => n < Nat.pow 2 127
  | .float x => x.isSome
  | .array items => allReadable items
  | .tables items => tablesReadable items
  | .table _ entries => entriesReadable entries
  | _ => true

def allReadable : List Value → Bool
  | [] => true
  | value :: rest => value.isReadable && allReadable rest

def entriesReadable : List (Text × Value) → Bool
  | [] => true
  | (_, value) :: rest => value.isReadable && entriesReadable rest

def tablesReadable : List (List (Text × Value)) → Bool
  | [] => true
  | entries :: rest => entriesReadable entries && tablesReadable rest

end

def Value.text? : Value → Option Text
  | .string text => some text
  | _ => none

/-- The settings of one table: their names in order, and how each is set to a text. -/
abbrev Fields (α : Type) := List (Text × (α → Text → Option α))

namespace Fields

def set {α : Type} (put : α → Text → Option α) (settings : α) (value : Value) : Option α :=
  value.text?.bind (put settings)

def ofEntry {α : Type} (fields : Fields α) (settings : α) (entry : Text × Value) : Option α :=
  match fields.lookup entry.1 with
  | some put => set put settings entry.2
  | none => if entry.2.isReadable then some settings else none

def ofItems {α : Type} : Fields α → α → List Value → Option α
  | (_, put) :: fields, settings, value :: rest => do ofItems fields (← set put settings value) rest
  | _, settings, _ => some settings

/-- A moment counts as a table that says nothing of the settings. -/
def ofValue {α : Type} (fields : Fields α) (settings : α) : Value → Option α
  | .table _ entries => entries.foldlM (ofEntry fields) settings
  | .array items => ofItems fields settings items
  | .tables items => ofItems fields settings (items.map (.table .header))
  | .moment => some settings
  | _ => none

end Fields

end Toml

def StoreSettings.fields : Toml.Fields StoreSettings :=
  [("entity_table".toList, fun s t => some { s with entityTable := t }),
    ("entity_id".toList, fun s t => some { s with entityId := t }),
    ("entity_name".toList, fun s t => some { s with entityName := t }),
    ("attribute_table".toList, fun s t => some { s with attributeTable := t }),
    ("attribute_entity".toList, fun s t => some { s with attributeEntity := t }),
    ("attribute_key".toList, fun s t => some { s with attributeKey := t }),
    ("attribute_value".toList, fun s t => some { s with attributeValue := t }),
    ("aggregate".toList, fun s t => some { s with aggregate := t }),
    ("separator".toList, fun s t => some { s with separator := t })]

def DirectiveSettings.fields : Toml.Fields DirectiveSettings :=
  [("identity_sentinel".toList, fun s t => some { s with sentinel := t }),
    ("page_name_label".toList, fun s t => some { s with pageNameLabel := t }),
    ("descending_marker".toList, fun s t =>
      match t with
      | [marker] => some { s with descendingMarker := marker }
      | _ => none),
    ("sort_param".toList, fun s t => some { s with sortParameter := t })]

namespace Settings

def ofEntry (settings : Settings) (entry : Text × Toml.Value) : Option Settings :=
  if entry.1 = "store".toList then do
    return { settings with store := ← StoreSettings.fields.ofValue settings.store entry.2 }
  else if entry.1 = "directive".toList then do
    return { settings with
      directive := ← DirectiveSettings.fields.ofValue settings.directive entry.2 }
  else if entry.2.isReadable then some settings
  else none

def ofToml (document : Text) : Except SettingsError Settings :=
  match (Toml.document? document).bind (·.foldlM ofEntry {}) with
  | some settings => settings.check
  | none => .error .malformed

end Settings

end WikiPivot
