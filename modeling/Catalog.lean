import Catalog.Main
import Catalog.Proofs.CommaList
import Catalog.Proofs.MarkedNames
import Catalog.Proofs.Parameters
import Catalog.Proofs.Steps
import Catalog.Proofs.Compilation
import Catalog.Proofs.Ranges
import Catalog.Proofs.OrderKeys
import Catalog.Proofs.Projection
import Catalog.Proofs.WellFormedPlan
import Catalog.Proofs.Matching
import Catalog.Proofs.Utf8Order
import Catalog.Proofs.RecordOrder
import Catalog.Proofs.RecordShape
import Catalog.Proofs.StableSort
import Catalog.Proofs.StableListing
import Catalog.Proofs.ListRoutes
import Catalog.Proofs.ReadKeys
import Catalog.Proofs.Decomposition
import Catalog.Proofs.CategoryLookup
import Catalog.Proofs.AddedFilters
import Catalog.Proofs.InsertedProducts
import Catalog.Proofs.Pages
import Catalog.Proofs.InertInput
import Catalog.Proofs.JoinedValues
import Catalog.Proofs.Counting
import Catalog.Proofs.Identifiers
import Catalog.Proofs.SingleRecords
import Catalog.Proofs.FailingSource
import Catalog.Proofs.RangeDecision
import Catalog.Proofs.VerbatimSearch
import Catalog.Proofs.CompileCommand
import Catalog.Proofs.FixedWidth
import Catalog.Proofs.WrittenDates
import Catalog.Proofs.ReachableStores
import Catalog.Proofs.ListedEntities
import Catalog.Proofs.AttachedRelations
import Catalog.Proofs.RedundantKeys
import Catalog.Proofs.Chronology
import Catalog.Proofs.NearestNumber
import Catalog.Proofs.WrittenTerms
import Catalog.Proofs.StockRanges
import Catalog.Proofs.IntegerListing
import Catalog.Proofs.PageNumerals
import Catalog.Proofs.AsciiCase
import Catalog.Proofs.OrderGrammar
import Catalog.Proofs.CaselessSearch
import Catalog.Proofs.ChosenNames
import Catalog.Proofs.CorrectRounding
import Catalog.Proofs.TermGrammar
import Catalog.Proofs.GrantedOrigins
import Catalog.Proofs.RememberedValues
import Catalog.Proofs.JsonReadBack
import Catalog.Proofs.AcceptedSettings
import Catalog.Proofs.BuiltRouters
