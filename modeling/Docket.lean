import Docket.Config.Basic
import Docket.Config.File
import Docket.Decimal.Basic
import Docket.Decimal.Binary64
import Docket.Decimal.Extended
import Docket.Decimal.Layout
import Docket.Decimal.Scaled
import Docket.Decimal.Shortest
import Docket.Decimal.Written
import Docket.Derivation
import Docket.Digest.Sha224
import Docket.Document
import Docket.DocumentId
import Docket.Error
import Docket.ExistenceCache
import Docket.Filter
import Docket.Identity
import Docket.Json.Basic
import Docket.Json.NumberText
import Docket.Json.Path
import Docket.Json.Printer
import Docket.Json.Reader
import Docket.Locks
import Docket.Message
import Docket.Power
import Docket.Projection.Fill
import Docket.Projection.Queue
import Docket.Projection.RehearsedSink
import Docket.Projection.Sink
import Docket.Proofs.Config.File
import Docket.Proofs.Decimal.Extended
import Docket.Proofs.Decimal.Nearest
import Docket.Proofs.Decimal.Value
import Docket.Proofs.Decimal.Written
import Docket.Proofs.Derivation
import Docket.Proofs.Document
import Docket.Proofs.DocumentId
import Docket.Proofs.ExistenceCache
import Docket.Proofs.ExistenceCache.Recency
import Docket.Proofs.Filter
import Docket.Proofs.Identity
import Docket.Proofs.Json.NumberText
import Docket.Proofs.Json.Path
import Docket.Proofs.Json.Reread
import Docket.Proofs.Locks
import Docket.Proofs.Projection.Accounting
import Docket.Proofs.Projection.Queue
import Docket.Proofs.SearchIndex
import Docket.Proofs.SearchIndex.Coverage
import Docket.Proofs.SearchIndex.Postings
import Docket.Proofs.SearchIndex.Refinement
import Docket.Proofs.Service.Cache
import Docket.Proofs.Service.Confidentiality
import Docket.Proofs.Service.Convergence
import Docket.Proofs.Service.Draining
import Docket.Proofs.Service.Effects
import Docket.Proofs.Service.Enforcement
import Docket.Proofs.Service.Identities
import Docket.Proofs.Service.Interleaving
import Docket.Proofs.Service.Ownership
import Docket.Proofs.Service.Pages
import Docket.Proofs.Service.Queries
import Docket.Proofs.Service.Rebuild
import Docket.Proofs.Service.ReferenceSet
import Docket.Proofs.Service.References
import Docket.Proofs.Service.Reindex
import Docket.Proofs.Service.Repetition
import Docket.Proofs.Service.Requests
import Docket.Proofs.Service.Restart
import Docket.Proofs.Service.Run
import Docket.Proofs.Service.Validated
import Docket.Proofs.Sql.Condition
import Docket.Proofs.Sql.Numbers
import Docket.Proofs.Sql.Placeholders
import Docket.Proofs.Store.Agreement
import Docket.Proofs.Store.Atomicity
import Docket.Proofs.Store.Checks
import Docket.Proofs.Store.Contents
import Docket.Proofs.Store.Deletion
import Docket.Proofs.Store.Determined
import Docket.Proofs.Store.Engine
import Docket.Proofs.Store.InboundKeys
import Docket.Proofs.Store.Integrity
import Docket.Proofs.Store.KeyValue
import Docket.Proofs.Store.Lifecycle
import Docket.Proofs.Store.Locality
import Docket.Proofs.Store.Memory
import Docket.Proofs.Store.Paging
import Docket.Proofs.Store.QuerySources
import Docket.Proofs.Store.ReadBack
import Docket.Proofs.Store.Reading
import Docket.Proofs.Store.Relational
import Docket.Proofs.Store.RelationalAgreement
import Docket.Proofs.Store.Repetition
import Docket.Proofs.Store.Run
import Docket.Proofs.Store.ScanPages
import Docket.Proofs.Store.Window
import Docket.Proofs.Store.WriteEnd
import Docket.Proofs.Table
import Docket.Proofs.TableOfSets
import Docket.Proofs.Text.Order
import Docket.Proofs.Toml.Lines
import Docket.Proofs.Toml.Quoted
import Docket.Proofs.Toml.Scalar
import Docket.Proofs.Wire.Document
import Docket.Proofs.Wire.Message
import Docket.Proofs.Wire.Passage
import Docket.Proofs.Wire.RoundTrip
import Docket.Resource
import Docket.SearchIndex
import Docket.Service.Backends
import Docket.Service.Basic
import Docket.Service.Error
import Docket.Service.Rehearsal
import Docket.Service.Requests
import Docket.Service.Script
import Docket.Sorting
import Docket.Sql.Expr
import Docket.Sql.Query
import Docket.Store.Basic
import Docket.Store.Engine
import Docket.Store.KeyValue
import Docket.Store.Memory
import Docket.Store.Rehearsed
import Docket.Store.Relational
import Docket.Table
import Docket.Text.Blank
import Docket.Text.CaseTable
import Docket.Text.Digits
import Docket.Text.LowerCase
import Docket.Text.Quoted
import Docket.Text.Ranges
import Docket.Text.UnprintableTable
import Docket.Toml.Basic
import Docket.Toml.Draft
import Docket.Toml.Quoted
import Docket.Toml.Reader
import Docket.Toml.Scalar
import Docket.Validation
import Docket.Wire.Basic
import Docket.Wire.Config
import Docket.Wire.Document
import Docket.Wire.Message
