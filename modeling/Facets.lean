import Facets.Collection
import Facets.Text.Casefold
import Facets.Field.Format
import Facets.Filter.Simple
import Facets.Query.Run
import Facets.Reading.Query
import Facets.Reading.Statistics
import Facets.Logging.Session
import Facets.Proofs.Order.ByKeys
import Facets.Proofs.Filter.Built
import Facets.Proofs.Filter.Laws
import Facets.Proofs.Filter.Composition
import Facets.Proofs.Group.Listing
import Facets.Proofs.Statistics.Conservation
import Facets.Proofs.Statistics.Totals
import Facets.Proofs.Filter.Total
import Facets.Proofs.Query.Contract
import Facets.Proofs.Field.Coercion
import Facets.Proofs.Group.Choice
import Facets.Proofs.Filter.Options
import Facets.Proofs.Filter.Cleared
import Facets.Proofs.Query.Agreement
import Facets.Proofs.Filter.Within
import Facets.Proofs.Value.Canonical
import Facets.Proofs.Field.Readable
import Facets.Proofs.Order.Preorder
import Facets.Proofs.Filter.Choices
import Facets.Proofs.Filter.Foreign
import Facets.Proofs.Filter.Search
import Facets.Proofs.Statistics.Shares
import Facets.Proofs.Query.Pages
import Facets.Proofs.Group.Months
import Facets.Proofs.Record.Export
import Facets.Proofs.Number.Reading
import Facets.Proofs.Field.PlainText
import Facets.Proofs.Statistics.Counts
import Facets.Proofs.Filter.Listed
import Facets.Proofs.Group.Order
import Facets.Proofs.Logging.Sizes
import Facets.Proofs.Filter.Dates
import Facets.Proofs.Statistics.Extremes
import Facets.Proofs.Text.Labels
import Facets.Proofs.Field.Grouping
