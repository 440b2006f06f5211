import WikiPivot.Directive.Reading
import WikiPivot.Document.Block
import WikiPivot.Html.TableView
import WikiPivot.Store.Database

/-! What a wiki does with its directives under one set of settings: it reads them, turns them into
statements, runs them and shows the answers. -/
namespace WikiPivot

inductive Failure where
  | settings (error : SettingsError)
  | noDirective
  | store (error : StoreError)
  deriving DecidableEq, Repr

def Failure.message : Failure → Text
  | settings error => "config: ".toList ++ error.message
  | noDirective => "input: no datatable directive found".toList
  | store error => "execution: sqlite error: ".toList ++ error.message

namespace Settings

def read (settings : Settings) (classes : Text) (lines : List Text) : Directive.Reading :=
  Directive.read settings.directive classes lines

def readBlock (settings : Settings) (block : Block) : Directive.Reading :=
  settings.read block.classes block.lines

def requestedSort (settings : Settings) (parameter : Option Text) : Option SortKey :=
  parameter.bind
    (SortKey.parse? settings.directive.sentinel settings.directive.descendingMarker)

def query (settings : Settings) (spec : TableSpec) (parameter : Option Text) : Query :=
  Query.ofSpec settings.directive.sentinel spec (settings.requestedSort parameter)

def answer (settings : Settings) (storage : Storage) (spec : TableSpec)
    (parameter : Option Text) : Except StoreError Answer :=
  (settings.query spec parameter).run settings.store storage

def render (settings : Settings) (links : Html.LinkSettings) (storage : Storage)
    (spec : TableSpec) (parameter : Option Text) : Except StoreError Text :=
  (settings.answer storage spec parameter).map fun answer =>
    links.render (.ofSpec spec answer.query.sort answer.rows)

end Settings

end WikiPivot
