import Vigil.AcceptedLanguage
import Vigil.AckedWindow
import Vigil.Alerts
import Vigil.Backoff
import Vigil.BatchClock
import Vigil.Buffers
import Vigil.Checksum
import Vigil.Chunking
import Vigil.CommandLines
import Vigil.ConfigFeeds
import Vigil.CountedPongs
import Vigil.Dashboard
import Vigil.DeadClients
import Vigil.Durations
import Vigil.FailureWindow
import Vigil.FdIndex
import Vigil.FeedIsolation
import Vigil.FileAndFlags
import Vigil.HeartbeatExchange
import Vigil.Integrity
import Vigil.IntervalChanges
import Vigil.Lifecycle
import Vigil.Network
import Vigil.NoFalseAlarm
import Vigil.Outages
import Vigil.PendingReplies
import Vigil.PingPacing
import Vigil.Quiescence
import Vigil.Rebind
import Vigil.ReceiveSafety
import Vigil.RetryTiming
import Vigil.Session
import Vigil.Shutdown
import Vigil.SimulatorDescriptors
import Vigil.SlotStore
import Vigil.StaleEvents
import Vigil.StatsHistory
import Vigil.TimeoutChanges
import Vigil.TrustLevel
import Vigil.Uptime
import Vigil.WriteWakeups
