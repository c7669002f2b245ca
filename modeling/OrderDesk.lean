import OrderDesk.Catalog
import OrderDesk.Config.Settings
import OrderDesk.Config.LogFilter
import OrderDesk.Decimal
import OrderDesk.Http.ApiDocument
import OrderDesk.Http.Form
import OrderDesk.Http.MediaType
import OrderDesk.Http.Message
import OrderDesk.Http.Router
import OrderDesk.Json.Access
import OrderDesk.Json.Fault
import OrderDesk.Json.Value
import OrderDesk.Json.Read
import OrderDesk.Json.Record
import OrderDesk.Json.Scan
import OrderDesk.Main
import OrderDesk.Order.Body
import OrderDesk.Order.Error
import OrderDesk.Order.Form
import OrderDesk.Order.Request
import OrderDesk.Order.Snapshot
import OrderDesk.Order.Validate
import OrderDesk.Proofs.Validation
import OrderDesk.Proofs.FirstFault
import OrderDesk.Proofs.OrderWrite
import OrderDesk.Proofs.Creation
import OrderDesk.Proofs.ReadBack
import OrderDesk.Proofs.OrderFrame
import OrderDesk.Proofs.OrderRemoval
import OrderDesk.Proofs.StoredOrders
import OrderDesk.Report.Stored
import OrderDesk.Report.Setup
import OrderDesk.Report.Order
import OrderDesk.Service.Error
import OrderDesk.Service.Orders
import OrderDesk.Service.Launch
import OrderDesk.Service.Listen
import OrderDesk.Session.Mask
import OrderDesk.Session.Run
import OrderDesk.Session.Step
import OrderDesk.Store.Address
import OrderDesk.Store.Catalog
import OrderDesk.Store.Db
import OrderDesk.Store.Error
import OrderDesk.Store.Factory
import OrderDesk.Store.FileName
import OrderDesk.Store.Migrations
import OrderDesk.Store.Orders
import OrderDesk.Store.Rows
import OrderDesk.Store.Schema
import OrderDesk.Store.Write
import OrderDesk.Text.Alphanumeric
import OrderDesk.Text.BidiClass
import OrderDesk.Text.Quoted
import OrderDesk.Text.CombiningClass
import OrderDesk.Text.Composition
import OrderDesk.Text.Decomposition
import OrderDesk.Text.JoiningType
import OrderDesk.Text.Mark
import OrderDesk.Text.Normalization
import OrderDesk.Text.Numeral
import OrderDesk.Text.RegexSyntax
import OrderDesk.Text.Timestamp
import OrderDesk.Text.UrlEncoded
import OrderDesk.Text.Utf8
import OrderDesk.Url.Basic
import OrderDesk.Url.Domain
import OrderDesk.Url.DomainStatus
import OrderDesk.Url.Host
import OrderDesk.Url.Punycode
import OrderDesk.Proofs.StrictFetch
import OrderDesk.Proofs.OrderKeys
import OrderDesk.Proofs.Paging
import OrderDesk.Proofs.FetchExact
import OrderDesk.Proofs.Snapshot
import OrderDesk.Proofs.FormCheck
import OrderDesk.Proofs.Hydration
import OrderDesk.Proofs.WriteStages
import OrderDesk.Proofs.OrderChanges
import OrderDesk.Proofs.Tallies
import OrderDesk.Proofs.Settings
import OrderDesk.Proofs.CommaList
