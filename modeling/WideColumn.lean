import WideColumn.Attribute.Basic
import WideColumn.Attribute.Codec
import WideColumn.Attribute.Type
import WideColumn.Binary.Format
import WideColumn.Binary.Shortest
import WideColumn.Collection.Basic
import WideColumn.Collection.Stream
import WideColumn.Collection.Table
import WideColumn.Connection.Config
import WideColumn.Connection.Error
import WideColumn.Connection.Registry
import WideColumn.Criteria.Basic
import WideColumn.Criteria.Error
import WideColumn.Criteria.Reader
import WideColumn.Criteria.Sort
import WideColumn.Fields
import WideColumn.Inet
import WideColumn.Json.Basic
import WideColumn.Json.Printer
import WideColumn.Json.Reader
import WideColumn.Main
import WideColumn.Migration.Description
import WideColumn.Migration.Mode
import WideColumn.Migration.Plan
import WideColumn.Model
import WideColumn.Native.Reading
import WideColumn.Native.Type
import WideColumn.Native.Value
import WideColumn.Native.Writing
import WideColumn.Numeral
import WideColumn.Preview.Basic
import WideColumn.Preview.Printer
import WideColumn.Proofs.Criteria.Reader
import WideColumn.Proofs.Fields
import WideColumn.Proofs.Json.RoundTrip
import WideColumn.Proofs.Native.Reading
import WideColumn.Proofs.Numeral
import WideColumn.Proofs.Query.BareKey
import WideColumn.Proofs.Query.Clause
import WideColumn.Proofs.Query.Filtering
import WideColumn.Proofs.Query.Insertion
import WideColumn.Proofs.Query.Placeholders
import WideColumn.Proofs.Query.Plan
import WideColumn.Proofs.Schema.Coherence
import WideColumn.Proofs.Statement
import WideColumn.Proofs.Success
import WideColumn.Proofs.Time.Calendar
import WideColumn.Proofs.Time.Timestamp
import WideColumn.Query.Clause
import WideColumn.Query.Decode
import WideColumn.Query.Error
import WideColumn.Query.Insert
import WideColumn.Query.Mutation
import WideColumn.Query.Select
import WideColumn.Schema.Basic
import WideColumn.Schema.Compile
import WideColumn.Schema.Definition
import WideColumn.Schema.Error
import WideColumn.Statement
import WideColumn.Store.Dialogue
import WideColumn.Store.Error
import WideColumn.Store.Script
import WideColumn.Text.Blank
import WideColumn.Text.Case
import WideColumn.Text.CaseTable
import WideColumn.Text.Hex
import WideColumn.Time.Date
import WideColumn.Time.Instant
import WideColumn.Uuid
import WideColumn.Proofs.Schema.Validity
import WideColumn.Proofs.Query.CreatedKey
import WideColumn.Proofs.Query.GeneratedKey
import WideColumn.Proofs.Query.Template
import WideColumn.Proofs.Store.Operation
import WideColumn.Proofs.Collection.TwoPhase
import WideColumn.Proofs.Collection.Dispatch
import WideColumn.Proofs.Collection.Paging
import WideColumn.Proofs.Collection.Streaming
import WideColumn.Proofs.Store.Exchange
import WideColumn.Proofs.Connection.Task
import WideColumn.Proofs.Connection.Registration
import WideColumn.Proofs.Connection.Run
import WideColumn.Proofs.Query.Shape
import WideColumn.Proofs.Collection.Migrating
import WideColumn.Proofs.Migration.Convergence
import WideColumn.Proofs.Text
import WideColumn.Proofs.Native.TypeName
import WideColumn.Proofs.Schema.TableText
import WideColumn.Proofs.Inet
import WideColumn.Proofs.Native.RoundTrip
import WideColumn.Proofs.Preview.Agreement
import WideColumn.Proofs.Mention
import WideColumn.Proofs.Query.KeyOrder
import WideColumn.Proofs.Query.DirectChange
import WideColumn.Proofs.Query.Assignment
import WideColumn.Proofs.Query.Acceptance
import WideColumn.Proofs.Query.Bounds
import WideColumn.Proofs.Query.Outcome
import WideColumn.Proofs.Criteria.Conditions
import WideColumn.Proofs.Query.Reading
import WideColumn.Proofs.Native.TypeGrammar
import WideColumn.Proofs.Json.Depth
import WideColumn.Proofs.Native.TimestampRange
import WideColumn.Proofs.Schema.Label
import WideColumn.Proofs.Query.KnownColumns
import WideColumn.Proofs.Migration.Listing
import WideColumn.Proofs.Migration.Execution
import WideColumn.Proofs.Text.Words
import WideColumn.Proofs.Criteria.Sorting
import WideColumn.Proofs.Json.Printable
import WideColumn.Proofs.Query.OneLine
import WideColumn.Proofs.Preview.Comments
