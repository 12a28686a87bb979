import Pgpool.Watchdog.Basic
import Pgpool.Watchdog.Cluster
import Pgpool.Watchdog.Frames
import Pgpool.Watchdog.FrameStream
import Pgpool.Watchdog.Quorum
import Pgpool.Watchdog.FailoverStore
import Pgpool.Watchdog.Messages
import Pgpool.Watchdog.Leader
import Pgpool.Watchdog.StandbyList
import Pgpool.Watchdog.SetState
import Pgpool.Watchdog.SplitBrain
import Pgpool.Watchdog.Packets
import Pgpool.Watchdog.IpcCommands
import Pgpool.Watchdog.Consensus
import Pgpool.Watchdog.FailoverReads
import Pgpool.Watchdog.Invariant
import Pgpool.Watchdog.Machine
import Pgpool.Watchdog.MachineInvariant
import Pgpool.Watchdog.Recursion
import Pgpool.Watchdog.Ipc
import Pgpool.Watchdog.Loop
import Pgpool.Watchdog.ReplySlots
import Pgpool.Watchdog.Safety
import Pgpool.Watchdog.Admission
import Pgpool.Protocol.StartupPacket
import Pgpool.Protocol.StartupBounds
import Pgpool.Protocol.ConnCounter
import Pgpool.Protocol.LoadBalance
import Pgpool.Protocol.CancelRequest
import Pgpool.Protocol.LifeTimer
import Pgpool.Protocol.PgVersion
import Pgpool.Protocol.PersistentConnection
