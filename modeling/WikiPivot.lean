import WikiPivot.Main
import WikiPivot.Sql.Value
import WikiPivot.Command.Run
import WikiPivot.Query.JoinRegister
import WikiPivot.Proofs.Query.Injection
import WikiPivot.Proofs.Store.SortIndependence
import WikiPivot.Proofs.Store.PerEntity
import WikiPivot.Proofs.Html.Structure
import WikiPivot.Proofs.Document.Grammar
import WikiPivot.Proofs.Document.Scan
import WikiPivot.Proofs.Text.Expression
import WikiPivot.Proofs.Document.Pattern
import WikiPivot.Proofs.Directive.Escaping
import WikiPivot.Proofs.Text.Lowercase
import WikiPivot.Proofs.Directive.Clauses
import WikiPivot.Proofs.Directive.Writing
import WikiPivot.Proofs.Directive.SortParameter
import WikiPivot.Proofs.Query.Allocation
import WikiPivot.Proofs.Directive.WellFormed
import WikiPivot.Proofs.Store.Conditions
import WikiPivot.Proofs.Store.Shown
import WikiPivot.Proofs.Store.Alternatives
import WikiPivot.Proofs.Store.AppendedFilter
import WikiPivot.Proofs.Text.Percent
import WikiPivot.Proofs.Html.HeaderLinks
import WikiPivot.Proofs.Html.Toggling
import WikiPivot.Proofs.Directive.Kinds
import WikiPivot.Proofs.Directive.Sentinel
import WikiPivot.Proofs.Store.TableNames
import WikiPivot.Proofs.Document.Embedding
import WikiPivot.Proofs.Document.Lines
import WikiPivot.Proofs.Document.Appending
import WikiPivot.Proofs.Document.LineEnds
import WikiPivot.Proofs.Directive.Comparisons
import WikiPivot.Proofs.Directive.LineText
import WikiPivot.Proofs.Directive.Accounts
import WikiPivot.Proofs.Directive.Decoration
import WikiPivot.Proofs.DistinctConcat
import WikiPivot.Proofs.Text.Sections
import WikiPivot.Proofs.Html.ShownText
import WikiPivot.Proofs.Html.CellValues
import WikiPivot.Proofs.Directive.ArgumentText
import WikiPivot.Proofs.Directive.Columns
import WikiPivot.Proofs.Directive.NormalForms
import WikiPivot.Proofs.Directive.KeySources
import WikiPivot.Proofs.Query.StoredKeys
import WikiPivot.Proofs.Directive.Spellings
import WikiPivot.Proofs.Document.Ranges
import WikiPivot.Proofs.Document.Unclosed
import WikiPivot.Proofs.Query.Register
import WikiPivot.Proofs.Command.Shell
