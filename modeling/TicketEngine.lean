import TicketEngine.Controllers.Event
import TicketEngine.Framework.Machine
import TicketEngine.Framework.Outline
import TicketEngine.Framework.Refinement
import TicketEngine.Framework.Pipeline
import TicketEngine.Framework.Lease
import TicketEngine.Framework.Double
import TicketEngine.Framework.ConsumerGroup
import TicketEngine.Framework.Json
import TicketEngine.Framework.JsonRoundTrip
import TicketEngine.Framework.PercentEncoding
import TicketEngine.Framework.SortedSet
import TicketEngine.Framework.Schema
import TicketEngine.Framework.Selection
import TicketEngine.Framework.StreamRelation
import TicketEngine.Framework.RelatedRuns
import TicketEngine.Scripts.Lua
import TicketEngine.Types.Ticket
import TicketEngine.Types.Events
import TicketEngine.Types.SeatingMap
import TicketEngine.Services.RedisLock
import TicketEngine.Services.SeatLease
import TicketEngine.Workers.OrderMessage
import TicketEngine.System.Store
import TicketEngine.System.Frame
import TicketEngine.Services.Ticket
import TicketEngine.Workers.StreamConsumer
import TicketEngine.System.Engine
import TicketEngine.System.Change
import TicketEngine.System.Steps
import TicketEngine.System.Invariant
import TicketEngine.System.Course
import TicketEngine.System.DoubleBooking
import TicketEngine.System.Ledger
import TicketEngine.System.SeatClaim
import TicketEngine.System.OrderStream
import TicketEngine.System.Rejection
import TicketEngine.System.Settlement
import TicketEngine.System.OrderEvents
import TicketEngine.System.EventOrder
import TicketEngine.System.DrainCount
import TicketEngine.Stampede.Service
import TicketEngine.Stampede.Steps
import TicketEngine.Stampede.Mutex
import TicketEngine.Stampede.Shield
import TicketEngine.Stampede.CacheOrder
import TicketEngine.Stampede.Waiting
import TicketEngine.Stampede.Served
import TicketEngine.Stampede.MutexRuns
import TicketEngine.Stampede.CacheProvenance
import TicketEngine.Stampede.Freshness
import TicketEngine.Middlewares.RateLimiter
import TicketEngine.Middlewares.SlidingLog
import TicketEngine.Middlewares.RateWindow
import TicketEngine.Middlewares.RateHeaders
import TicketEngine.System.ScriptLoss
import TicketEngine.System.WorkerProcess
import TicketEngine.System.WorkerThreads
import TicketEngine.System.WorkerShutdown
import TicketEngine.System.MessageBatch
import TicketEngine.System.BatchOrder
import TicketEngine.System.BroadcastOrder
import TicketEngine.Workers.PendingRecovery
import TicketEngine.System.HeldSeat
import TicketEngine.System.Disclosure
import TicketEngine.Websocket.PubSubAdapter
import TicketEngine.Framework.InsertionSet
import TicketEngine.Websocket.SocketServer
import TicketEngine.Websocket.Rooms
import TicketEngine.Websocket.RoomHistory
import TicketEngine.Websocket.SeatEventCodec
import TicketEngine.Websocket.AdapterCalls
import TicketEngine.Framework.UrlHost
import TicketEngine.Framework.UrlParser
import TicketEngine.Framework.UrlAuthority
import TicketEngine.Websocket.UpgradeListener
import TicketEngine.Workers.ConsumerLifecycle
import TicketEngine.Services.HoldExpiry
import TicketEngine.Services.SeatSeparation
import TicketEngine.Services.Geo
import TicketEngine.Services.SeatingMapBenchmark
import TicketEngine.Services.SeatHoldBenchmark
import TicketEngine.Services.GeoSync
import TicketEngine.Services.GeoReply
import TicketEngine.Services.GeoSearch
import TicketEngine.Services.GeoCandidates
import TicketEngine.System.UserBlind
import TicketEngine.System.BlindSteps
import TicketEngine.System.BlindRuns
import TicketEngine.Websocket.SeatEventPrivacy
import TicketEngine.System.BoxOffice
import TicketEngine.System.Acceptance
import TicketEngine.System.LockHistory
import TicketEngine.System.Transactions
import TicketEngine.System.Progress
import TicketEngine.Websocket.Cluster
import TicketEngine.Websocket.Heartbeat
import TicketEngine.System.Evidence
import TicketEngine.System.LiveFeed
import TicketEngine.Controllers.Ticket
import TicketEngine.System.TicketAnswers
