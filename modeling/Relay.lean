import Relay.Lib.Dict
import Relay.Lib.Prog
import Relay.Lib.Run
import Relay.Lib.Window
import Relay.Lib.Ticket
import Relay.Lib.Stages
import Relay.Lib.Codes
import Relay.Lib.Watermark
import Relay.Lib.AsyncEvent
import Relay.Lib.Faults
import Relay.Lib.Gaps
import Relay.Lib.Number
import Relay.Lib.Fifo
import Relay.Lib.Watchdog
import Relay.Frames
import Relay.Connection
import Relay.Sender
import Relay.Window
import Relay.Redis
import Relay.Positions
import Relay.PresenceTracker
import Relay.Publish
import Relay.PublishApi
import Relay.Idempotency
import Relay.Replay
import Relay.Registry
import Relay.Node
import Relay.Handler
import Relay.Effects
import Relay.World
import Relay.Fanout
import Relay.Ordering
import Relay.Agreement
import Relay.Handover
import Relay.Tenancy
import Relay.Isolation
import Relay.SlowConsumer
import Relay.Lifecycle
import Relay.Release
import Relay.Quota
import Relay.Client
import Relay.Processing
import Relay.AckLoop
import Relay.Reconnect
import Relay.Sequential
import Relay.Listeners
import Relay.Heartbeats
import Relay.PresenceUsers
import Relay.SessionClock
import Relay.ListenerTasks
import Relay.SenderTurns
import Relay.Malformed
import Relay.LiveDelivery
import Relay.SessionIsolation
import Relay.Serialized
import Relay.ResumeReport
import Relay.ResumeOrder
import Relay.ResumeCapacity
import Relay.RegistryHistory
import Relay.QueueBounds
import Relay.Delivery
import Relay.Copies
import Relay.CachedAnswers
import Relay.ChannelNames
import Relay.RedisKeyspace
import Relay.CumulativeAcks
import Relay.Wakeups
import Relay.RedisOutage
import Relay.LiveClient
import Relay.GapDetection
import Relay.DedupWindow
import Relay.ResumePoints
import Relay.Console
import Relay.HeartbeatMonitor
import Relay.NodeDirectory
import Relay.Accounts
import Relay.SessionLife
import Relay.Lib.Semaphore
import Relay.HandshakeGate
