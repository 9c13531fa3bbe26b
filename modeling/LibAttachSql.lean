import LibAttachSql.Lib.Memory
import LibAttachSql.Lib.Run
import LibAttachSql.Constants
import LibAttachSql.Buffer
import LibAttachSql.Lib.Fifo
import LibAttachSql.BufferRuns
import LibAttachSql.Pack
import LibAttachSql.Lib.Heap
import LibAttachSql.Own
import LibAttachSql.Structs
import LibAttachSql.Send
import LibAttachSql.SendFrame
import LibAttachSql.Receive
import LibAttachSql.Command
import LibAttachSql.Connect
import LibAttachSql.Statement
import LibAttachSql.Query
import LibAttachSql.Poll
import LibAttachSql.Escape
import LibAttachSql.Lib.Path
import LibAttachSql.Control
import LibAttachSql.Outcomes
import LibAttachSql.ControlSend
import LibAttachSql.ControlReceive
import LibAttachSql.ControlCalls
import LibAttachSql.System
import LibAttachSql.IdlePolls
import LibAttachSql.Authentication
import LibAttachSql.CommandErrors
import LibAttachSql.Ownership
import LibAttachSql.FailureSurfacing
import LibAttachSql.SendPaths
import LibAttachSql.TlsTurn
import LibAttachSql.SendFailures
import LibAttachSql.SendAgreement
import LibAttachSql.SequenceCheck
import LibAttachSql.Lib.BinaryProtocol
import LibAttachSql.Lib.Framing
import LibAttachSql.Lib.Reassembly
import LibAttachSql.Packets
import LibAttachSql.RowErrors
import LibAttachSql.SendFraming
import LibAttachSql.CompressedSend
import LibAttachSql.CompressedReceive
import LibAttachSql.Acts
import LibAttachSql.ActFrames
import LibAttachSql.Emissions
import LibAttachSql.Lib.NativeLogin
import LibAttachSql.ServerWords
import LibAttachSql.ClearText
import LibAttachSql.EscapeMode
import LibAttachSql.StatementPresence
import LibAttachSql.ArrayBounds
import LibAttachSql.RowView
import LibAttachSql.Capacities
import LibAttachSql.ParamOwnership
import LibAttachSql.ExecuteRoundTrip
import LibAttachSql.ExecuteBounds
import LibAttachSql.BindHistory
import LibAttachSql.LoginReply
import LibAttachSql.Pool
import LibAttachSql.PoolIsolation
import LibAttachSql.PoolEvents
import LibAttachSql.NullError
import LibAttachSql.Lib.Records
import LibAttachSql.TlsReceive
import LibAttachSql.Negotiation
import LibAttachSql.Definitions
import LibAttachSql.PrepareRun
import LibAttachSql.Handshake
import LibAttachSql.RowAccess
import LibAttachSql.TextRows
import LibAttachSql.Expansion
import LibAttachSql.Reservation
import LibAttachSql.QueryFailure
import LibAttachSql.Quiescence
import LibAttachSql.RowCount
import LibAttachSql.Codecs
import LibAttachSql.BinaryRows
import LibAttachSql.Lib.Floating
import LibAttachSql.Accessors
import LibAttachSql.AccessorValues
import LibAttachSql.CharLength
import LibAttachSql.ColumnMetadata
import LibAttachSql.Lib.Reading
import LibAttachSql.Footprints
import LibAttachSql.PacketBounds
import LibAttachSql.ColumnIsolation
import LibAttachSql.Lib.Blocks
import LibAttachSql.Sha1
import LibAttachSql.ScrambleHash
import LibAttachSql.Lib.Simulation
import LibAttachSql.ResponseRun
import LibAttachSql.Requests
import LibAttachSql.LoginRun
import LibAttachSql.ResultRoundTrip
import LibAttachSql.ResultChains
import LibAttachSql.NetworkRun
