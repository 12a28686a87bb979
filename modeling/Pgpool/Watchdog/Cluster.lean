-- The state of one watchdog process: its peer table, its coordinator data,
-- its command and proposal lists, and the small readers of watchdog.c over them.
-- A node is named by its private id: 0 for the local node, i + 1 for remote i.
import Pgpool.Watchdog.Basic
import Mathlib.Data.List.Basic

namespace pgpool.watchdog

/-! ## Records -/

/-- `SocketConnection`. -/
structure SocketConnection where
  sock : Int
  sockState : WDSockState
  addr : String
  tv : Int
  deriving DecidableEq, Repr, Inhabited

/-- `WatchdogNode`, with the fields the watchdog reads. -/
structure WatchdogNode where
  state : Int
  wdPriority : Int
  startupTime : Int
  currentStateTime : Int
  escalated : Bool
  standbyNodesCount : Int
  quorumStatus : Int
  wdPort : Int
  pgpoolPort : Int
  hostname : String
  delegateIp : String
  clientSocket : SocketConnection
  serverSocket : SocketConnection
  lastSentTime : Int
  lastRcvTime : Int
  deriving DecidableEq, Repr, Inhabited

/-- `WDPacketData`. -/
structure WDPacketData where
  type : MsgType
  commandId : UInt32
  len : Int
  data : List UInt8
  deriving DecidableEq, Repr

/-- `WDCommandNodeResult`. Slot `i` of a command belongs to remote node `i`,
as `allocate_resultNodes_in_command` lays them out. -/
structure WDCommandNodeResult where
  cmdState : WDNodeCommandState
  resultType : MsgType
  deriving DecidableEq, Repr

/-- `WDCommandData`. `sendToNode` and `sourceWdNode` are private ids. -/
structure WDCommandData where
  sourcePacket : WDPacketData
  commandPacket : WDPacketData
  nodeResults : List WDCommandNodeResult
  sendToNode : Option Nat
  commandStatus : WDCommandStatus
  commandTimeoutSecs : Nat
  commandTime : Int
  commandSendToCount : UInt32
  commandSendToErrorCount : UInt32
  commandReplyFromCount : UInt32
  commandSource : WDCommandSource
  sourceIPCSocket : Int
  sourceWdNode : Nat
  errorMessage : Option String
  deriving DecidableEq, Repr

/-- `WDFailoverObject`: a failover proposal and its voters (private ids). -/
structure WDFailoverObject where
  reqKind : PoolRequestKind
  reqFlags : UInt8
  nodesCount : Int
  failoverID : UInt32
  nodeList : List Int
  requestingNodes : List Nat
  requestCount : Int
  startTime : Int
  deriving DecidableEq, Repr

/-- `WDClusterMasterInfo`. -/
structure WDClusterMasterInfo where
  masterNode : Option Nat
  standbyNodes : List (Option Nat)
  standbyNodesCount : Int
  holdingVip : Bool
  deriving DecidableEq, Repr

/-- `wd_cluster`, the global `g_cluster`, with the timer globals
`g_timeout_sec` and `g_tm_set_time` beside it. Three fields are not in the C
record: `openFds`, the descriptors the process holds open; `ipcResults`, every
result frame written to an IPC socket, in order; and `exited`, set when an
`ereport(FATAL)` ends the process. -/
structure WdCluster where
  localNode : WatchdogNode
  remoteNodes : List WatchdogNode
  clusterMasterInfo : WDClusterMasterInfo
  quorumStatus : Int
  nextCommandID : UInt32
  escalationPid : Int
  deEscalationPid : Int
  ipcAuthNeeded : Bool
  unidentifiedSocks : List SocketConnection
  notifyClients : List Int
  ipcCommandSocks : List Int
  ipcCommands : List WDCommandData
  clusterCommands : List WDCommandData
  wdCurrentFailovers : List WDFailoverObject
  timeoutSec : Nat
  tmSetTime : Int
  openFds : List Int
  ipcResults : List (Int × WDPacketData)
  exited : Bool
  deriving DecidableEq, Repr

/-- One entry of `wd_remote_nodes` in `pool_config`. -/
structure WdRemoteNodeInfo where
  hostname : String
  wdPort : Int
  pgpoolPort : Int
  deriving DecidableEq, Repr

/-- The settings of `pool_config` the watchdog reads. -/
structure PoolConfig where
  wdPort : Int
  port : Int
  wdHostname : String
  delegateIP : String
  wdRemoteNodes : List WdRemoteNodeInfo
  wdPriority : Int
  failoverWhenQuorumExists : Bool
  failoverRequireConsensus : Bool
  allowMultipleFailoverRequestsFromNode : Bool
  enableConsensusWithHalfVotes : Bool
  wdAuthkey : String
  deriving DecidableEq, Repr

/-- What a beacon message carries, as `parse_beacon_message_json` reads it. -/
structure BeaconInfo where
  state : Int
  secondsSinceNodeStartup : Int
  secondsSinceCurrentState : Int
  quorumStatus : Int
  standbyNodesCount : Int
  escalated : Bool
  deriving DecidableEq, Repr

/-- What `parse_wd_node_function_json` reads from a failover or recovery
request: the function name, the node ids, their count and the flags. -/
structure NodeFunction where
  funcName : String
  nodeIdList : List Int
  nodeCount : Int
  flags : UInt8
  deriving DecidableEq, Repr

/-- What the world answers during one turn of the watchdog's loop: the clock,
the outcomes of writes, connects and forks, the host's addresses, what
shared memory and the main process hold, and the JSON codecs of
wd_json_data.c and json.c, which src/ does not hold. -/
structure Env where
  now : Int
  writeOk : Int → WDPacketData → Bool
  connectResult : Nat → Int × Bool
  escalationPid : Int
  plungingPid : Int
  childExited : Int → Bool
  localIps : List String
  interfaceAvailable : Bool
  primaryNodeId : Int
  quarantinedPrimary : Int → Bool
  failoverRequestOk : Bool
  startRecoveryReply : Option MsgType
  ipcSharedKey : Option UInt32
  wdCalcHash : Int → Int → String
  nodeInfoJson : WatchdogNode → List UInt8
  beaconJson : WatchdogNode → List UInt8
  poolConfigJson : Option (List UInt8)
  backendNodeStatusJson : Option (List UInt8)
  failoverResultJson : WDFailoverCMDResults → UInt32 → List UInt8
  simpleMessageJson : String → List UInt8
  nodeListJson : Int → List UInt8
  valueJson : Bool → Int → List UInt8
  parseNodeInfo : List UInt8 → Option (WatchdogNode × Option String)
  parseBeacon : List UInt8 → Option BeaconInfo
  parseDataRequest : List UInt8 → Option String
  parseNodeFunction : List UInt8 → Option NodeFunction
  parseIpcKeys : List UInt8 → Option (Option UInt32 × Option String)
  parseFailoverFuncState : List UInt8 → Option (Option Int)
  parseNodeStatus : List UInt8 → Option (Int × Int)
  parseNodeListRequest : List UInt8 → Option (Option Int)
  parseVariableName : List UInt8 → Option (Option String)

/-- The fixed context of a watchdog: its configuration, the IPC codes and
the request names. -/
structure Ctx where
  cfg : PoolConfig
  codes : IpcCodes
  names : WdNames

/-! ## Readers -/

namespace WdCluster

variable (c : WdCluster)

def remoteNodeCount : Nat := c.remoteNodes.length

/-- `get_local_node_state`. -/
def getLocalNodeState : Int := c.localNode.state

/-- The local node is in state `s`. -/
def localIs (s : WDStates) : Prop := c.localNode.state = s.toInt

instance (s : WDStates) : Decidable (c.localIs s) := inferInstanceAs (Decidable (_ = _))

/-- Remote node `i`; the callers only pass indices below `remoteNodeCount`. -/
def remote (i : Nat) : WatchdogNode := c.remoteNodes.getD i default

/-- `WD_MASTER_NODE`, that is `getMasterWatchdogNode`. -/
def getMasterWatchdogNode : Option Nat := c.clusterMasterInfo.masterNode

/-- `is_local_node_true_master`. -/
def isLocalNodeTrueMaster : Bool :=
  decide (c.localIs .coordinator) && c.getMasterWatchdogNode == some 0

/-- `get_next_commandID`: the id after the last one handed out. -/
def getNextCommandID : UInt32 × WdCluster :=
  (c.nextCommandID + 1, { c with nextCommandID := c.nextCommandID + 1 })

/-- Apply `f` to remote node `i`. -/
def modifyRemote (i : Nat) (f : WatchdogNode → WatchdogNode) : WdCluster :=
  { c with remoteNodes := c.remoteNodes.modify f i }

/-- `set_cluster_master_node`. -/
def setClusterMasterNode (n : Option Nat) : WdCluster :=
  { c with clusterMasterInfo := { c.clusterMasterInfo with masterNode := n } }

/-- `set_timeout`. -/
def setTimeout (now : Int) (sec : Nat) : WdCluster :=
  { c with timeoutSec := sec, tmSetTime := now }

/-- The assignment of `update_quorum_status`: the cluster's quorum and the
local node's copy of it. -/
def setQuorumStatus (q : Int) : WdCluster :=
  { c with quorumStatus := q, localNode := { c.localNode with quorumStatus := q } }

/-- `ereport(FATAL)`: the process exits. -/
def fatal : WdCluster := { c with exited := true }

/-- `close_socket_connection` on a socket of this process: the record after
the call, and the descriptor gone from `openFds` when `close` runs. -/
def closeSocket (conn : SocketConnection) : SocketConnection × WdCluster :=
  if (0 < conn.sock ∧ conn.sockState = .connected) ∨ conn.sockState = .waitingForConnect then
    ({ conn with sock := -1, sockState := .closed }, { c with openFds := c.openFds.erase conn.sock })
  else (conn, c)

end WdCluster

/-- `is_socket_connection_connected`. -/
def isSocketConnectionConnected (conn : SocketConnection) : Bool :=
  decide (0 < conn.sock) && conn.sockState == .connected

/-- `is_node_reachable`. -/
def isNodeReachable (n : WatchdogNode) : Bool :=
  isSocketConnectionConnected n.clientSocket || isSocketConnectionConnected n.serverSocket

/-- `is_node_active`: not dead, lost or shut down. -/
def isNodeActive (n : WatchdogNode) : Bool :=
  !(n.state == WDStates.dead.toInt || n.state == WDStates.lost.toInt ||
    n.state == WDStates.shutdown.toInt)

/-- `is_node_active_and_reachable`. -/
def isNodeActiveAndReachable (n : WatchdogNode) : Bool :=
  isNodeActive n && isNodeReachable n

/-- `get_cluster_node_count`: the remote nodes that are active. -/
def getClusterNodeCount (c : WdCluster) : Nat :=
  (c.remoteNodes.filter isNodeActive).length

/-! ## The coordinator view -/

/-- What the coordinator invariants read: the local state and escalation
flag, the master, the standby count, the VIP flag, the quorum, the failover
proposals, the number of peers and the exit flag. -/
structure CoreView where
  state : Int
  escalated : Bool
  masterNode : Option Nat
  standbyNodesCount : Int
  holdingVip : Bool
  quorumStatus : Int
  failovers : List WDFailoverObject
  remoteNodeCount : Nat
  exited : Bool
  deriving DecidableEq

/-- The coordinator view of a cluster. -/
def WdCluster.core (c : WdCluster) : CoreView :=
  ⟨c.localNode.state, c.localNode.escalated, c.clusterMasterInfo.masterNode,
   c.clusterMasterInfo.standbyNodesCount, c.clusterMasterInfo.holdingVip, c.quorumStatus,
   c.wdCurrentFailovers, c.remoteNodes.length, c.exited⟩

/-! ## Field lemmas -/

namespace WdCluster

variable (c : WdCluster)

@[simp] theorem setClusterMasterNode_master (n : Option Nat) :
    (c.setClusterMasterNode n).clusterMasterInfo.masterNode = n := rfl
@[simp] theorem setClusterMasterNode_localNode (n : Option Nat) :
    (c.setClusterMasterNode n).localNode = c.localNode := rfl
@[simp] theorem setTimeout_localNode (now : Int) (sec : Nat) :
    (c.setTimeout now sec).localNode = c.localNode := rfl
@[simp] theorem setTimeout_clusterMasterInfo (now : Int) (sec : Nat) :
    (c.setTimeout now sec).clusterMasterInfo = c.clusterMasterInfo := rfl
@[simp] theorem modifyRemote_localNode (i : Nat) (f : WatchdogNode → WatchdogNode) :
    (c.modifyRemote i f).localNode = c.localNode := rfl
@[simp] theorem modifyRemote_clusterMasterInfo (i : Nat) (f : WatchdogNode → WatchdogNode) :
    (c.modifyRemote i f).clusterMasterInfo = c.clusterMasterInfo := rfl
@[simp] theorem modifyRemote_remoteNodeCount (i : Nat) (f : WatchdogNode → WatchdogNode) :
    (c.modifyRemote i f).remoteNodeCount = c.remoteNodeCount := by
  simp [modifyRemote, remoteNodeCount]
@[simp] theorem core_state : c.core.state = c.localNode.state := rfl
@[simp] theorem core_escalated : c.core.escalated = c.localNode.escalated := rfl
@[simp] theorem core_masterNode : c.core.masterNode = c.getMasterWatchdogNode := rfl
@[simp] theorem core_standbyNodesCount :
    c.core.standbyNodesCount = c.clusterMasterInfo.standbyNodesCount := rfl
@[simp] theorem core_holdingVip : c.core.holdingVip = c.clusterMasterInfo.holdingVip := rfl
@[simp] theorem core_quorumStatus : c.core.quorumStatus = c.quorumStatus := rfl
@[simp] theorem core_failovers : c.core.failovers = c.wdCurrentFailovers := rfl
@[simp] theorem core_remoteNodeCount : c.core.remoteNodeCount = c.remoteNodeCount := rfl
@[simp] theorem core_exited : c.core.exited = c.exited := rfl
@[simp] theorem core_modifyRemote (i : Nat) (f : WatchdogNode → WatchdogNode) :
    (c.modifyRemote i f).core = c.core := by
  simp [modifyRemote, core]
@[simp] theorem core_setClusterMasterNode (n : Option Nat) :
    (c.setClusterMasterNode n).core = { c.core with masterNode := n } := rfl
@[simp] theorem core_setQuorumStatus (q : Int) :
    (c.setQuorumStatus q).core = { c.core with quorumStatus := q } := rfl
@[simp] theorem setQuorumStatus_state (q : Int) :
    (c.setQuorumStatus q).localNode.state = c.localNode.state := rfl
@[simp] theorem core_setTimeout (now : Int) (sec : Nat) : (c.setTimeout now sec).core = c.core := rfl
@[simp] theorem core_getNextCommandID : c.getNextCommandID.2.core = c.core := rfl
@[simp] theorem core_closeSocket (conn : SocketConnection) : (c.closeSocket conn).2.core = c.core := by
  unfold closeSocket; split <;> rfl

end WdCluster

end pgpool.watchdog
