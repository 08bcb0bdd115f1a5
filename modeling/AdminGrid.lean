import AdminGrid.Main
import AdminGrid.Command.Digest
import AdminGrid.Service.Lifecycle
import AdminGrid.Service.Router
import AdminGrid.Service.App
import AdminGrid.Web.Request
import AdminGrid.Registry
import AdminGrid.Cache.Limiter
import AdminGrid.Parity.Run
import AdminGrid.Parity.Parts
import AdminGrid.Cache.Calls
import AdminGrid.Inspector.Summary
import AdminGrid.Inspector.Artifact
import AdminGrid.Json.Read
import AdminGrid.Json.Write
import AdminGrid.Request.Guard
import AdminGrid.Store.Catalog
import AdminGrid.Staged.Compile
import AdminGrid.Store.Typed
import AdminGrid.Direct.Compile
import AdminGrid.Direct.Query
import AdminGrid.Store.Query
import AdminGrid.Store.Pattern
import AdminGrid.Store.Affinity
import AdminGrid.Store.Table
import AdminGrid.Store.ColumnType
import AdminGrid.Parity.Report
import AdminGrid.Answer.Assembly
import AdminGrid.Request.Context
import AdminGrid.Layout.Requested
import AdminGrid.Layout.Resolve
import AdminGrid.Action.Render
import AdminGrid.Action.Resolve
import AdminGrid.Cell.Row
import AdminGrid.Formula.Compute
import AdminGrid.Formula.Grammar
import AdminGrid.Formula.Expression
import AdminGrid.Formula.Token
import AdminGrid.Descriptor.Answer
import AdminGrid.Descriptor.Table
import AdminGrid.Validation.Kinds
import AdminGrid.Value.Same
import AdminGrid.Value
import AdminGrid.Number.Numeral
import AdminGrid.Text.Blank
import AdminGrid.Text.Case
import AdminGrid.Text.Digit
import AdminGrid.Text.NameChar
import AdminGrid.Text.Printable
import AdminGrid.Text.Split
import AdminGrid.Text.Word
import AdminGrid.Proofs.Layout.AliasPlaces
import AdminGrid.Proofs.Layout.Precedence
import AdminGrid.Proofs.Layout.DeclaredOrder
import AdminGrid.Proofs.Layout.Gap
import AdminGrid.Proofs.Layout.FormulaGap
import AdminGrid.Proofs.Outcome
import AdminGrid.Proofs.Parity.Stages
import AdminGrid.Proofs.Store.CellOrder
import AdminGrid.Proofs.Store.RowOrder
import AdminGrid.Proofs.Store.JoinOrder
import AdminGrid.Proofs.Layout.ShownRelations
import AdminGrid.Proofs.Parity.Clauses
import AdminGrid.Proofs.Parity.Columns
import AdminGrid.Proofs.Parity.Names
import AdminGrid.Proofs.Parity.Queries
import AdminGrid.Proofs.Parity.Rows
import AdminGrid.Proofs.Parity.Cells
import AdminGrid.Proofs.Parity.Items
import AdminGrid.Proofs.Parity.RenderedRows
import AdminGrid.Proofs.Parity.Page
import AdminGrid.Proofs.Parity.NullFilters
import AdminGrid.Proofs.Parity.Answers
import AdminGrid.Proofs.Parity.Agreement
import AdminGrid.Proofs.Parity.ChangedColumn
import AdminGrid.Proofs.Parity.AddedRule
import AdminGrid.Proofs.Action.Privileges
import AdminGrid.Proofs.Request.ColumnKeys
import AdminGrid.Proofs.Request.Context
import AdminGrid.Proofs.Store.Sight
import AdminGrid.Proofs.Layout.ShownFields
import AdminGrid.Proofs.Layout.ComingIn
import AdminGrid.Proofs.Secrecy.Unused
import AdminGrid.Proofs.Secrecy.Plan
import AdminGrid.Proofs.Secrecy.Items
import AdminGrid.Proofs.Secrecy.View
import AdminGrid.Proofs.Secrecy.Answer
import AdminGrid.Proofs.Service.Showable
import AdminGrid.Proofs.Service.Statements
import AdminGrid.Proofs.Service.Direct
import AdminGrid.Proofs.Service.Staged
import AdminGrid.Proofs.Service.Documented
import AdminGrid.Proofs.Cache.Windows
import AdminGrid.Proofs.Number.Reading
import AdminGrid.Proofs.Cache.Expiry
import AdminGrid.Proofs.Inspector.Secrets
import AdminGrid.Proofs.Markup
import AdminGrid.Proofs.Store.Arrangement
import AdminGrid.Proofs.Page.Counts
import AdminGrid.Proofs.Page.Order
import AdminGrid.Proofs.Page.Search
import AdminGrid.Proofs.Number.Range
import AdminGrid.Proofs.Formula.Range
import AdminGrid.Proofs.Cell.Range
import AdminGrid.Proofs.Cell.PlacedFormulas
import AdminGrid.Proofs.Request.FlatColumns
import AdminGrid.Proofs.Request.Encodings
import AdminGrid.Proofs.Text.Pattern
import AdminGrid.Proofs.Request.HarmlessText
import AdminGrid.Proofs.Request.HarmlessPage
import AdminGrid.Proofs.Service.TableName
import AdminGrid.Proofs.Parity.Severity
import AdminGrid.Proofs.Command.Gate
import AdminGrid.Proofs.Disk
import AdminGrid.Proofs.Inspector.Retention
import AdminGrid.Proofs.Inspector.Storing
import AdminGrid.Proofs.Inspector.NewestKept
import AdminGrid.Proofs.Parity.Invisible
import AdminGrid.Proofs.Parity.MissingAnswer
import AdminGrid.Proofs.Cache.Fallback
import AdminGrid.Proofs.Json.Parts
import AdminGrid.Proofs.Json.RoundTrip
import AdminGrid.Proofs.Cache.Kept
import AdminGrid.Proofs.Service.KeptCatalog
import AdminGrid.Proofs.Layout.SharedDisplays
import AdminGrid.Proofs.Store.SuggestedRelations
import AdminGrid.Proofs.Layout.RelationsInStep
import AdminGrid.Proofs.Layout.RelationIndexes
import AdminGrid.Proofs.Layout.LeftOut
import AdminGrid.Proofs.Layout.NumericAnchor
import AdminGrid.Proofs.Action.ButtonNames
import AdminGrid.Proofs.Action.Links
import AdminGrid.Proofs.Action.SitePath
import AdminGrid.Proofs.Formula.Chain
import AdminGrid.Proofs.Formula.Spelling
import AdminGrid.Proofs.Formula.Confined
import AdminGrid.Proofs.Number.Whole
import AdminGrid.Proofs.Cell.WholeNumbers
import AdminGrid.Proofs.Answer.RowTokens
import AdminGrid.Proofs.Text.Occurrence
import AdminGrid.Proofs.Request.HarmlessTrees
import AdminGrid.Proofs.Service.BareNames
import AdminGrid.Proofs.Parity.ExclusionChains
import AdminGrid.Proofs.Page.RelationColumns
import AdminGrid.Proofs.Page.Tiles
import AdminGrid.Proofs.Request.PageBounds
import AdminGrid.Proofs.Inspector.SummaryTable
import AdminGrid.Proofs.Page.ShownFilters
