import ZeroPostgres.Lib.Act
import ZeroPostgres.Lib.BigEndian
import ZeroPostgres.Lib.Checked
import ZeroPostgres.Lib.Chunks
import ZeroPostgres.Lib.DecimalDigits
import ZeroPostgres.Lib.Hex
import ZeroPostgres.Lib.PrefixCodec
import ZeroPostgres.Lib.ReadLoop
import ZeroPostgres.Lib.ByteSource
import ZeroPostgres.Error
import ZeroPostgres.Protocol.Codec
import ZeroPostgres.Protocol.Backend
import ZeroPostgres.Protocol.Frontend
import ZeroPostgres.Protocol.Authentication
import ZeroPostgres.Protocol.Rows
import ZeroPostgres.Protocol.RoundTrip
import ZeroPostgres.Conversion.Types
import ZeroPostgres.Conversion.Row
import ZeroPostgres.Conversion.Derive
import ZeroPostgres.Conversion.Bytea
import ZeroPostgres.Conversion.Malformed
import ZeroPostgres.Conversion.RefRow
import ZeroPostgres.Conversion.Crates
import ZeroPostgres.Conversion.ReferenceCrates
import ZeroPostgres.Conversion.Encode
import ZeroPostgres.Conversion.Params
import ZeroPostgres.Server.Values
import ZeroPostgres.Server.Numeric
import ZeroPostgres.Server.Types
import ZeroPostgres.Server.ReferenceTypes
import ZeroPostgres.Conversion.Date
import ZeroPostgres.Conversion.Timestamp
import ZeroPostgres.Conversion.Validity
import ZeroPostgres.Conversion.TimeOfDay
import ZeroPostgres.Conversion.JulianDate
import ZeroPostgres.Conversion.Integers
import ZeroPostgres.Conversion.NumericText
import ZeroPostgres.Conversion.NumericChecked
import ZeroPostgres.Conversion.DecimalBinary
import ZeroPostgres.Protocol.Builder
import ZeroPostgres.Server.Frames
import ZeroPostgres.Server.Session
import ZeroPostgres.Server.Statements
import ZeroPostgres.Handler
import ZeroPostgres.Conn.Channel
import ZeroPostgres.State.Action
import ZeroPostgres.State.Extended
import ZeroPostgres.State.SimpleQuery
import ZeroPostgres.State.Batch
import ZeroPostgres.Conn.Operations
import ZeroPostgres.Conn.Portal
import ZeroPostgres.Server.Replies
import ZeroPostgres.Conn.Talk
import ZeroPostgres.Protocol.ParseErrors
import ZeroPostgres.Protocol.Totality
import ZeroPostgres.State.Run
import ZeroPostgres.Conn.Drive
import ZeroPostgres.Server.Boundary
import ZeroPostgres.State.Steps
import ZeroPostgres.Server.Reference
import ZeroPostgres.Server.Cursor
import ZeroPostgres.Server.Closing
import ZeroPostgres.Server.Requests
import ZeroPostgres.State.Conformance
import ZeroPostgres.State.Refusals
import ZeroPostgres.State.BatchRuns
import ZeroPostgres.State.Prepared
import ZeroPostgres.State.Failures
import ZeroPostgres.Conn.Align
import ZeroPostgres.Conn.Drained
import ZeroPostgres.Conn.Calls
import ZeroPostgres.Conn.Outcome
import ZeroPostgres.State.SimpleConformance
import ZeroPostgres.Conn.Query
import ZeroPostgres.Conn.Sync
import ZeroPostgres.Conn.Transaction
import ZeroPostgres.Lib.Threads
import ZeroPostgres.Conn.SyncAlignment
import ZeroPostgres.Conn.Tokio
import ZeroPostgres.Conn.Chunks
import ZeroPostgres.Conn.Tidy
import ZeroPostgres.Conn.Cancellation
import ZeroPostgres.Conn.Names
import ZeroPostgres.Conn.Handles
import ZeroPostgres.Conn.TransactionStatus
import ZeroPostgres.Conn.AsyncMessages
import ZeroPostgres.Lib.Base64
import ZeroPostgres.Lib.PercentEncoding
import ZeroPostgres.Opts
import ZeroPostgres.Pipeline.Claim
import ZeroPostgres.Pipeline.Sync
import ZeroPostgres.Pipeline.Tokio
import ZeroPostgres.Pipeline.Exec
import ZeroPostgres.Pipeline.Follows
import ZeroPostgres.Pipeline.Reading
import ZeroPostgres.Pipeline.Silent
import ZeroPostgres.Pipeline.Ledger
import ZeroPostgres.Pipeline.Calls
import ZeroPostgres.Pipeline.Alignment
import ZeroPostgres.Pipeline.Program
import ZeroPostgres.Pipeline.Accounts
import ZeroPostgres.Pipeline.InOrder
import ZeroPostgres.Pipeline.Blocking
import ZeroPostgres.Pipeline.Attribution
import ZeroPostgres.Pipeline.Delivery
import ZeroPostgres.Lib.Numbered
import ZeroPostgres.Pipeline.Tickets
import ZeroPostgres.Pipeline.Identity
import ZeroPostgres.Pipeline.TransactionStatus
import ZeroPostgres.Pipeline.AsyncMessages
import ZeroPostgres.Pipeline.Cleanup
import ZeroPostgres.Pipeline.Lifetime
import ZeroPostgres.Pool.Api
import ZeroPostgres.Pool.Compio
import ZeroPostgres.Pool.Reset
import ZeroPostgres.Pool.Returned
import ZeroPostgres.Pool.Tokio
import ZeroPostgres.Pool.Hygiene
import ZeroPostgres.Pool.Sync
import ZeroPostgres.Pool.Isolation
import ZeroPostgres.Startup.Scram
import ZeroPostgres.State.Connection
import ZeroPostgres.Protocol.FrontendRoundTrip
import ZeroPostgres.Protocol.BindPaths
import ZeroPostgres.Protocol.Framing
import ZeroPostgres.Conn.BatchOrder
import ZeroPostgres.Conn.Commit
import ZeroPostgres.Conn.Fatal
import ZeroPostgres.Conn.Fetching
import ZeroPostgres.Conn.Leaks
import ZeroPostgres.Server.Contents
import ZeroPostgres.Conversion.DecimalImage
import ZeroPostgres.Conversion.WireType
import ZeroPostgres.Conversion.Echo
import ZeroPostgres.Conn.Typed
import ZeroPostgres.Conn.Echo
import ZeroPostgres.Conn.Opening
import ZeroPostgres.Conn.Connects
import ZeroPostgres.Diesel
import ZeroPostgres.Startup.Transitions
import ZeroPostgres.Startup.Session
import ZeroPostgres.Startup.ScramServer
import ZeroPostgres.Startup.MutualAuth
import ZeroPostgres.Startup.Secrecy
import ZeroPostgres.Startup.Driver
import ZeroPostgres.Startup.Established
import ZeroPostgres.Startup.Transcript
import ZeroPostgres.Startup.ChannelBinding
import ZeroPostgres.Conversion.ZoneSuffix
import ZeroPostgres.ConnectionUrl
import ZeroPostgres.Compio.Stream
