-- The IPC interface of the watchdog: the authentication of a frame, the
-- handler of each command, the result frame written back, and the sockets
-- read_sockets keeps for IPC clients and for clients that asked to be told
-- of state changes.
import Pgpool.Watchdog.Machine

namespace pgpool.watchdog

section
variable (ctx : Ctx) (env : Env)

/-! ## Authentication -/

/-- `check_IPC_client_authentication`, on the shared key and the auth key the
frame's JSON carries. A frame whose shared key is compared while shared
memory holds none would crash the C code; here it does not match. -/
def checkIPCClientAuthentication (keys : Option UInt32 × Option String) (internalClientOnly : Bool)
    (c : WdCluster) : Bool :=
  let packetKey := keys.1
  if internalClientOnly then
    match env.ipcSharedKey, packetKey with
    | some k, some p => k = p
    | _, _ => false
  else if c.ipcAuthNeeded = false then true
  else if packetKey.isSome ∧ env.ipcSharedKey = packetKey then true
  else match keys.2 with
    | none => false
    | some a => ctx.cfg.wdAuthkey = a

/-- The classification of `check_and_report_IPC_authentication`: `some true`
for the commands only pgpool's own processes may send, `some false` for the
others it knows, and `none` for any other type, which its switch lets
through. -/
def ipcInternalClientOnly (type : MsgType) : Option Bool :=
  if type = ctx.codes.nodeStatusChangeCommand ∨ type = ctx.codes.registerForNotification ∨
      type = ctx.codes.getNodesListCommand ∨ type = ctx.codes.getRuntimeVariableValue then some false
  else if type = ctx.codes.failoverCommand ∨ type = ctx.codes.onlineRecoveryCommand ∨
      type = ctx.codes.getMasterDataRequest then some true
  else none

/-- `check_and_report_IPC_authentication`: the verdict, and the command with
the error message the client is sent. -/
def checkAndReportIPCAuthentication (cmd : WDCommandData) (c : WdCluster) : Bool × WDCommandData :=
  match ipcInternalClientOnly ctx cmd.sourcePacket.type with
  | none => (true, cmd)
  | some internalClientOnly =>
    if internalClientOnly = false ∧ c.ipcAuthNeeded = false then (true, cmd)
    else if cmd.sourcePacket.len ≤ 0 ∨ cmd.sourcePacket.data = [] then
      (false, { cmd with errorMessage := some "authentication failed: invalid data" })
    else match env.parseIpcKeys cmd.sourcePacket.data with
      | none => (false, { cmd with errorMessage := some "authentication failed: invalid data" })
      | some keys =>
        if checkIPCClientAuthentication ctx env keys internalClientOnly c then (true, cmd)
        else (false, { cmd with errorMessage := some "authentication failed: invalid KEY" })

/-! ## The command handlers -/

/-- `fire_node_status_event`: a lifecheck verdict on node `nodeID` becomes a
node lost or found event; an id no node has is refused. -/
def fireNodeStatusEvent (nodeID nodeStatus : Int) (c : WdCluster) : Bool × WdCluster :=
  let target : Option (Option Nat) :=
    if nodeID = 0 then some none
    else if 0 < nodeID ∧ nodeID ≤ c.remoteNodeCount then some (some (nodeID - 1).toNat)
    else none
  match target with
  | none => (false, c)
  | some wdNode =>
    if nodeStatus = ctx.codes.lifecheckNodeStatusDead then
      (true, watchdogStateMachine ctx env
        (match wdNode with | none => .localNodeLost | some i => .remoteNodeLost i) c)
    else if nodeStatus = ctx.codes.lifecheckNodeStatusAlive then
      (true, watchdogStateMachine ctx env
        (match wdNode with | none => .localNodeFound | some i => .remoteNodeFound i) c)
    else (true, c)

/-- `process_IPC_nodeStatusChange_command`. -/
def processIPCNodeStatusChangeCommand (cmd : WDCommandData) (c : WdCluster) :
    IpcCmdPreocessRes × WDCommandData × WdCluster :=
  if cmd.sourcePacket.len ≤ 0 ∨ cmd.sourcePacket.data = [] then (.error, cmd, c)
  else match env.parseNodeStatus cmd.sourcePacket.data with
    | none => (.error, cmd, c)
    | some (nodeID, nodeStatus) =>
      let r := fireNodeStatusEvent ctx env nodeID nodeStatus c
      (if r.1 then .complete else .error, cmd, r.2)

/-- `process_IPC_nodeList_command`. -/
def processIPCNodeListCommand (cmd : WDCommandData) (c : WdCluster) :
    IpcCmdPreocessRes × WDCommandData × WdCluster :=
  if cmd.sourcePacket.len ≤ 0 ∨ cmd.sourcePacket.data = [] then (.error, cmd, c)
  else match env.parseNodeListRequest cmd.sourcePacket.data with
    | some (some nodeID) =>
      (.complete, cmd,
        (writeIpcCommandWithResultData env cmd ctx.codes.cmdResultOk (env.nodeListJson nodeID) c).2)
    | _ => (.error, cmd, c)

/-- `process_IPC_get_runtime_variable_value_request`: the local state, the
master's quorum, or the escalation flag. -/
def processIPCGetRuntimeVariableValueRequest (cmd : WDCommandData) (c : WdCluster) :
    IpcCmdPreocessRes × WDCommandData × WdCluster :=
  if cmd.sourcePacket.len ≤ 0 ∨ cmd.sourcePacket.data = [] then (.error, cmd, c)
  else match env.parseVariableName cmd.sourcePacket.data with
    | none => (.error, cmd, c)
    | some none => (.error, { cmd with errorMessage := some "requested variable name is null" }, c)
    | some (some name) =>
      let value : Option (Bool × Int) :=
        if strcaseeq ctx.names.runtimeVarWdState name then some (false, c.localNode.state)
        else if strcaseeq ctx.names.runtimeVarQuorumState name then
          some (false, match c.getMasterWatchdogNode with
            | some 0 => c.localNode.quorumStatus
            | some (i + 1) => (c.remote i).quorumStatus
            | none => -2)
        else if strcaseeq ctx.names.runtimeVarEscalationState name then
          some (true, if c.localNode.escalated then 1 else 0)
        else none
      match value with
      | none => (.error, { cmd with errorMessage := some "unknown variable requested" }, c)
      | some (isBool, v) =>
        (.complete, cmd,
          (writeIpcCommandWithResultData env cmd ctx.codes.cmdResultOk (env.valueJson isBool v) c).2)

/-- Forward an IPC command to `sendTo` (a private id, or every peer) under a
fresh command id: `IPC_CMD_PROCESSING` while peers have it, an error when it
went nowhere. -/
def forwardIpcCommand (sendTo : Option Nat) (cmd : WDCommandData) (c : WdCluster) :
    IpcCmdPreocessRes × WDCommandData × WdCluster :=
  let r := c.getNextCommandID
  let cmd := { cmd with commandPacket := { cmd.sourcePacket with commandId := r.1 }, sendToNode := sendTo }
  let s := sendCommandPacketToRemoteNodes ctx env cmd true r.2
  (if s.1 = 0 then .error else .processing, s.2.1, s.2.2)

/-- `process_IPC_failover_command`: decided here on the master, forwarded to
the master from a standby. -/
def processIPCFailoverCommand (cmd : WDCommandData) (c : WdCluster) :
    IpcCmdPreocessRes × WDCommandData × WdCluster :=
  if c.isLocalNodeTrueMaster then
    let r := processFailoverCommandOnCoordinator ctx env cmd c
    (r.1, cmd, r.2)
  else if c.localIs .standby then forwardIpcCommand ctx env c.getMasterWatchdogNode cmd c
  else (.error, cmd, c)

/-- `process_IPC_online_recovery`: forwarded to every peer. -/
def processIPCOnlineRecovery (cmd : WDCommandData) (c : WdCluster) :
    IpcCmdPreocessRes × WDCommandData × WdCluster :=
  if c.localIs .standby ∨ c.localIs .coordinator then
    if getClusterNodeCount c = 0 then (.ok, cmd, c)
    else forwardIpcCommand ctx env none cmd c
  else (.tryAgain, cmd, c)

/-- `process_IPC_data_request_from_master`. -/
def processIPCDataRequestFromMaster (cmd : WDCommandData) (c : WdCluster) :
    IpcCmdPreocessRes × WDCommandData × WdCluster :=
  if c.localIs .standby then forwardIpcCommand ctx env c.getMasterWatchdogNode cmd c
  else if c.isLocalNodeTrueMaster then (.ok, cmd, c)
  else (.tryAgain, cmd, c)

/-! ## The master the forwarding handlers name

After forwarding, the failover command, the online recovery and the data
request log `WD_MASTER_NODE->nodeName`, whether the send went anywhere or
not; through a null master that is a null dereference. The model leaves
logging out; these say when a handler reaches those lines. -/

/-- `process_IPC_failover_command` names the master after forwarding from a
standby. -/
def processIPCFailoverCommandNamesMaster (c : WdCluster) : Bool :=
  !c.isLocalNodeTrueMaster && decide (c.localIs .standby)

/-- `process_IPC_online_recovery` names the master after forwarding from a
standby or the coordinator with peers alive. -/
def processIPCOnlineRecoveryNamesMaster (c : WdCluster) : Bool :=
  decide (c.localIs .standby ∨ c.localIs .coordinator) && getClusterNodeCount c != 0

/-- `process_IPC_data_request_from_master` names the master after forwarding
from a standby. -/
def processIPCDataRequestFromMasterNamesMaster (c : WdCluster) : Bool :=
  decide (c.localIs .standby)

theorem processIPCFailoverCommand_of_namesMaster (cmd : WDCommandData) (c : WdCluster)
    (h : processIPCFailoverCommandNamesMaster c = true) :
    processIPCFailoverCommand ctx env cmd c = forwardIpcCommand ctx env c.getMasterWatchdogNode cmd c := by
  simp only [processIPCFailoverCommandNamesMaster, Bool.and_eq_true, Bool.not_eq_true',
    decide_eq_true_eq] at h
  simp only [processIPCFailoverCommand, h.1, h.2, if_true, Bool.false_eq_true, if_false]

theorem processIPCOnlineRecovery_of_namesMaster (cmd : WDCommandData) (c : WdCluster)
    (h : processIPCOnlineRecoveryNamesMaster c = true) :
    processIPCOnlineRecovery ctx env cmd c = forwardIpcCommand ctx env none cmd c := by
  simp only [processIPCOnlineRecoveryNamesMaster, Bool.and_eq_true, decide_eq_true_eq, bne_iff_ne,
    ne_eq] at h
  simp only [processIPCOnlineRecovery, h.1, h.2, if_true, if_false]

theorem processIPCDataRequestFromMaster_of_namesMaster (cmd : WDCommandData) (c : WdCluster)
    (h : processIPCDataRequestFromMasterNamesMaster c = true) :
    processIPCDataRequestFromMaster ctx env cmd c = forwardIpcCommand ctx env c.getMasterWatchdogNode cmd c := by
  simp only [processIPCDataRequestFromMasterNamesMaster, decide_eq_true_eq] at h
  simp only [processIPCDataRequestFromMaster, h, if_true]

/-- `failover_start_indication` and `failover_end_indication`: the coordinator
tells every peer with a message of type `type`. -/
def failoverIndication (type : MsgType) (c : WdCluster) : WDFailoverCMDResults × WdCluster :=
  if c.localIs .coordinator then (.proceed, (sendMessageOfType ctx env none type none c).2)
  else if c.localIs .standby then (.proceed, c)
  else (.transition, c)

/-- `failover_start_indication`. -/
def failoverStartIndication (c : WdCluster) : WDFailoverCMDResults × WdCluster :=
  failoverIndication ctx env wdFailoverStart c

/-- `failover_end_indication`. -/
def failoverEndIndication (c : WdCluster) : WDFailoverCMDResults × WdCluster :=
  failoverIndication ctx env wdFailoverEnd c

/-- `process_IPC_failover_indication`: on the coordinator, the
`FailoverFuncState` of the frame says start (0) or end. -/
def processIPCFailoverIndication (cmd : WDCommandData) (c : WdCluster) :
    IpcCmdPreocessRes × WDCommandData × WdCluster :=
  let r : WDFailoverCMDResults × WdCluster :=
    if c.localIs .coordinator then
      let failoverState : Int :=
        if cmd.sourcePacket.data = [] ∨ cmd.sourcePacket.len ≤ 0 then -1
        else match env.parseFailoverFuncState cmd.sourcePacket.data with
          | some (some s) => s
          | _ => -1
      if failoverState < 0 then (.invalidFunction, c)
      else if failoverState = 0 then failoverStartIndication ctx env c
      else failoverEndIndication ctx env c
    else (.notAllowed, c)
  (.complete, cmd, replyToFailoveCommand ctx env cmd r.1 0 r.2)

/-- `process_IPC_command`: authenticate, then hand the frame to the handler
of its type. -/
def processIPCCommand (cmd : WDCommandData) (c : WdCluster) :
    IpcCmdPreocessRes × WDCommandData × WdCluster :=
  let a := checkAndReportIPCAuthentication ctx env cmd c
  let cmd := a.2
  if a.1 = false then (.error, cmd, c)
  else
    let t := cmd.sourcePacket.type
    if t = ctx.codes.nodeStatusChangeCommand then processIPCNodeStatusChangeCommand ctx env cmd c
    else if t = ctx.codes.registerForNotification then
      (.complete, cmd, { c with notifyClients := c.notifyClients ++ [cmd.sourceIPCSocket] })
    else if t = ctx.codes.getNodesListCommand then processIPCNodeListCommand ctx env cmd c
    else if t = ctx.codes.failoverCommand then processIPCFailoverCommand ctx env cmd c
    else if t = ctx.codes.onlineRecoveryCommand then processIPCOnlineRecovery ctx env cmd c
    else if t = ctx.codes.failoverIndication then processIPCFailoverIndication ctx env cmd c
    else if t = ctx.codes.getMasterDataRequest then processIPCDataRequestFromMaster ctx env cmd c
    else if t = ctx.codes.getRuntimeVariableValue then
      processIPCGetRuntimeVariableValueRequest ctx env cmd c
    else (.error, { cmd with errorMessage := some "unknown IPC command type" }, c)

/-! ## The IPC sockets -/

/-- The result type `read_ipc_socket_and_process` writes for a verdict other
than processing or complete. -/
def ipcResultType (res : IpcCmdPreocessRes) : MsgType :=
  match res with
  | .tryAgain => ctx.codes.cmdClusterInTran
  | .ok => ctx.codes.cmdResultOk
  | _ => ctx.codes.cmdResultBad

/-- `read_ipc_socket_and_process` on descriptor `sock`, for the frame read
from it (`none` when the read failed): whether the socket is to be removed,
and the state. A command still in processing is kept and keeps its socket. -/
def readIpcSocketAndProcess (sock : Int) (frame : Option (MsgType × List UInt8)) (c : WdCluster) :
    Bool × WdCluster :=
  match frame with
  | none => (true, c)
  | some (type, data) =>
    let cmd := createCommandObject env ⟨type, 0, data.length, data⟩ .ipc 0 sock
    let r := processIPCCommand ctx env cmd c
    match r.1 with
    | .processing => (false, { r.2.2 with ipcCommands := r.2.2.ipcCommands ++ [r.2.1] })
    | .complete => (true, r.2.2)
    | res =>
      let data := match r.2.1.errorMessage with
        | some m => env.simpleMessageJson m
        | none => []
      (true, (writeIpcCommandWithResultData env r.2.1 (ipcResultType ctx res) data r.2.2).2)

/-- The `ipc_command_socks` loop of `read_sockets` for the ready descriptor
`sock`: a socket to remove is closed and dropped, and a command that still
names it forgets it. -/
def ipcCommandSockReady (sock : Int) (frame : Option (MsgType × List UInt8)) (c : WdCluster) :
    WdCluster :=
  let r := readIpcSocketAndProcess ctx env sock frame c
  if r.1 then
    let c := r.2
    let c := match c.ipcCommands.findIdx? (fun cmd => cmd.commandSource == .ipc && cmd.sourceIPCSocket == sock) with
      | some j => { c with ipcCommands := c.ipcCommands.modify (fun cmd => { cmd with sourceIPCSocket := -1 }) j }
      | none => c
    { c with openFds := c.openFds.erase sock, ipcCommandSocks := c.ipcCommandSocks.erase sock }
  else r.2

/-- The `notify_clients` loop of `read_sockets` for the ready descriptor `sock`. -/
def notifySockReady (sock : Int) (frame : Option (MsgType × List UInt8)) (c : WdCluster) : WdCluster :=
  let r := readIpcSocketAndProcess ctx env sock frame c
  if r.1 then { r.2 with openFds := r.2.openFds.erase sock, notifyClients := r.2.notifyClients.erase sock }
  else r.2

end

end pgpool.watchdog
