import RowQuery.Database.Pool
import RowQuery.Main
import RowQuery.Row.Record
import RowQuery.Service.Service
import RowQuery.Service.Settings
import RowQuery.Proofs.Preview
import RowQuery.Proofs.Parametricity
import RowQuery.Proofs.Grammar
import RowQuery.Proofs.Exchange
import RowQuery.Proofs.Paging
import RowQuery.Proofs.Searching
import RowQuery.Proofs.RowLimits
import RowQuery.Proofs.Insertion
import RowQuery.Proofs.CachedRows
import RowQuery.Proofs.WellFormed
import RowQuery.Proofs.KeyCondition
import RowQuery.Proofs.Pinning
import RowQuery.Proofs.OwnRow
import RowQuery.Proofs.KeyNumbers
import RowQuery.Proofs.ServerUrl
import RowQuery.Proofs.SetupDialog
import RowQuery.Proofs.SearchPreview
import RowQuery.Proofs.CountPreview
import RowQuery.Proofs.Unambiguous
import RowQuery.Proofs.CountPaging
import RowQuery.Proofs.Agreement
import RowQuery.Proofs.Refusals
import RowQuery.Proofs.OpenConnections
import RowQuery.Proofs.QuotedNames
import RowQuery.Proofs.FailedSettings
import RowQuery.Proofs.SettingOrder
import RowQuery.Proofs.RequestFields
import RowQuery.Proofs.FailedCalls
import RowQuery.Proofs.WholeNumbers
import RowQuery.Proofs.SelectList
import RowQuery.Proofs.ColumnLists
import RowQuery.Proofs.ColumnIdentifiers
import RowQuery.Proofs.Clearing
import RowQuery.Proofs.Registration
import RowQuery.Proofs.BlankFields
import RowQuery.Proofs.LiteralTables
import RowQuery.Proofs.Cursors
import RowQuery.Proofs.Plucking
import RowQuery.Proofs.SettingsFile
