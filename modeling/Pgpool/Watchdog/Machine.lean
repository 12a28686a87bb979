-- watchdog_state_machine: the handler of every state, the work it does before
-- its switch, the two processors that may take a packet first, and the passes
-- of the main loop that finish, resend and lose: command timeouts, resends to
-- peers that are back, reconnects, and peers that stopped answering.
import Pgpool.Watchdog.Consensus
import Pgpool.Watchdog.Packets

namespace pgpool.watchdog

/-- The arguments of `watchdog_state_machine`: the event, with the remote node
(by index), the packet and the cluster command it comes with. -/
inductive WdEvent
  | wdStateChanged
  | timeout
  | packetRcv (i : Nat) (pkt : WDPacketData)
  | commandFinished (wdNode : Option Nat) (pkt : Option WDPacketData) (cmd : WDCommandData)
  | newOutboundConnection (i : Nat)
  | nwIpIsRemoved | nwIpIsAssigned | nwLinkIsInactive | nwLinkIsActive
  | localNodeLost
  | remoteNodeLost (i : Nat)
  | remoteNodeFound (i : Nat)
  | localNodeFound
  | clusterQuorumChanged

/-- `MIN_SECS_CONNECTION_RETRY`. -/
def minSecsConnectionRetry : Int := 10

/-- The search loop of `watchdog_internal_command_packet_processor` for the
slot of remote node `i`: it clears every slot it passes, the one it finds
included. -/
def clearSlotsThrough : Nat → List WDCommandNodeResult → List WDCommandNodeResult
  | _, [] => []
  | 0, _ :: rs => clearedResult :: rs
  | i + 1, _ :: rs => clearedResult :: clearSlotsThrough i rs

section
variable (ctx : Ctx) (env : Env)

/-! ## The state handlers -/

/-- The reply to the packet `pkt` of remote node `i`. -/
def replyTo (i : Nat) (pkt : WDPacketData) (t : MsgType) (c : WdCluster) : WdCluster :=
  (replyWithMinimalMessage ctx env (some (i + 1)) t (some pkt) c).2

/-- The loading and joining handlers on a stand-for-coordinator message: a
node of lower priority is rejected and the local node stands itself; otherwise
it votes. -/
def answerStandFor (i : Nat) (pkt : WDPacketData) (c : WdCluster) : WdCluster :=
  if c.localNode.wdPriority > (c.remote i).wdPriority then
    setState ctx env .standForCoordinator (replyTo ctx env i pkt wdRejectMessage c)
  else setState ctx env .participateInElection (replyTo ctx env i pkt wdAcceptMessage c)

/-- `watchdog_state_machine_loading`. -/
def watchdogStateMachineLoading (ev : WdEvent) (c : WdCluster) : WdCluster :=
  match ev with
  | .wdStateChanged => loadingEnter ctx env c
  | .timeout => setState ctx env .joining c
  | .packetRcv i pkt =>
    if pkt.type = wdStandForCoordinatorMessage then answerStandFor ctx env i pkt c
    else if pkt.type = wdInfoMessage then
      if c.remoteNodes.all fun n => n.state ≠ WDStates.addMessageSent.toInt then
        setState ctx env .initializing c
      else c
    else if pkt.type = wdRejectMessage then
      if (c.remote i).state = WDStates.addMessageSent.toInt ∨ (c.remote i).state = WDStates.dead.toInt
      then c.fatal else c
    else standardPacketProcessor ctx env i pkt c
  | _ => c

/-- `watchdog_state_machine_joining`. -/
def watchdogStateMachineJoining (ev : WdEvent) (c : WdCluster) : WdCluster :=
  match ev with
  | .wdStateChanged => joiningEnter ctx env c
  | .timeout => setState ctx env .initializing c
  | .commandFinished _ _ cmd =>
    if cmd.commandPacket.type = wdReqInfoMessage then setState ctx env .initializing c else c
  | .packetRcv i pkt =>
    if pkt.type = wdRejectMessage then
      if (c.remote i).state = WDStates.addMessageSent.toInt then c.fatal else c
    else if pkt.type = wdStandForCoordinatorMessage then answerStandFor ctx env i pkt c
    else standardPacketProcessor ctx env i pkt c
  | _ => c

/-- `watchdog_state_machine_initializing`: on its timer, join a known master,
lead when alone, vote when someone stands, and stand otherwise. -/
def watchdogStateMachineInitializing (ev : WdEvent) (c : WdCluster) : WdCluster :=
  match ev with
  | .wdStateChanged => c.setTimeout env.now 1
  | .timeout =>
    if c.getMasterWatchdogNode ≠ none then setState ctx env .standby c
    else if getClusterNodeCount c = 0 then setState ctx env .coordinator c
    else if c.remoteNodes.any fun n => n.state = WDStates.standForCoordinator.toInt then
      setState ctx env .participateInElection c
    else setState ctx env .standForCoordinator c
  | .packetRcv i pkt =>
    if pkt.type = wdRejectMessage then
      if (c.remote i).state = WDStates.addMessageSent.toInt then c.fatal else c
    else standardPacketProcessor ctx env i pkt c
  | _ => c

/-- `watchdog_state_machine_standForCord`. -/
def watchdogStateMachineStandForCord (ev : WdEvent) (c : WdCluster) : WdCluster :=
  match ev with
  | .wdStateChanged => enterArm ctx env .standForCoordinator c
  | .commandFinished _ pkt cmd =>
    if cmd.commandPacket.type = wdStandForCoordinatorMessage then
      if cmd.commandStatus = .finishedAllReplied ∨ cmd.commandStatus = .finishedTimeout then
        setState ctx env .coordinator c
      else match pkt with
        | some p =>
          if p.type = wdErrorMessage then setState ctx env .joining c
          else if p.type = wdRejectMessage then setState ctx env .participateInElection c
          else c
        | none => setState ctx env .joining c
    else c
  | .timeout => setState ctx env .coordinator c
  | .packetRcv i pkt =>
    let n := c.remote i
    if pkt.type = wdStandForCoordinatorMessage then
      if c.localNode.wdPriority > n.wdPriority then replyTo ctx env i pkt wdRejectMessage c
      else if c.localNode.wdPriority = n.wdPriority ∧ c.localNode.startupTime ≤ n.startupTime then
        replyTo ctx env i pkt wdRejectMessage c
      else setState ctx env .participateInElection (replyTo ctx env i pkt wdAcceptMessage c)
    else if pkt.type = wdDeclareCoordinatorMessage then
      if c.localNode.wdPriority > n.wdPriority then replyTo ctx env i pkt wdRejectMessage c
      else setState ctx env .joining (replyTo ctx env i pkt wdAcceptMessage c)
    else standardPacketProcessor ctx env i pkt c
  | _ => c

/-- The coordinator's `WD_EVENT_COMMAND_FINISHED` for its accepted
declaration: count the quorum, become master, and escalate when the quorum
holds. -/
def declareAccepted (c : WdCluster) : WdCluster :=
  let c := (updateQuorumStatus ctx env c).setClusterMasterNode (some 0)
  if c.quorumStatus = -1 then c else startEscalatedNode env c

/-- `watchdog_state_machine_coordinator`. Re-acquiring a lost VIP
(`wd_IP_up`) happens outside this file and changes nothing here. -/
def watchdogStateMachineCoordinator (ev : WdEvent) (c : WdCluster) : WdCluster :=
  match ev with
  | .wdStateChanged => coordinatorEnter ctx env c
  | .commandFinished wdNode _ cmd =>
    if cmd.commandPacket.type = wdDeclareCoordinatorMessage then
      if cmd.commandStatus = .finishedAllReplied ∨ cmd.commandStatus = .finishedTimeout then
        declareAccepted ctx env c
      else setState ctx env .joining c
    else if cmd.commandPacket.type = wdIamCoordinatorMessage ∧
        cmd.commandStatus = .finishedNodeRejected then
      match wdNode with
      | some i => standbyNodeLeftCluster i c
      | none => c
    else c
  | .clusterQuorumChanged => quorumChangedArm ctx env c
  | .nwIpIsRemoved => if env.localIps = [] then setState ctx env .inNwTrouble c else c
  | .timeout =>
    (sendClusterCommand ctx env none wdIamCoordinatorMessage 5 c).2.setTimeout env.now
      beaconMessageIntervalSeconds.toNat
  | .remoteNodeLost i => standbyNodeLeftCluster i c
  | .packetRcv i pkt =>
    if pkt.type = wdStandForCoordinatorMessage then replyTo ctx env i pkt wdRejectMessage c
    else if pkt.type = wdDeclareCoordinatorMessage then replyTo ctx env i pkt wdErrorMessage c
    else if pkt.type = wdIamCoordinatorMessage then
      let r := beaconMessageReceivedFromNode env i pkt c
      if r.1 then handleSplitBrain ctx env i pkt r.2
      else setState ctx env .joining
        (sendClusterServiceMessage ctx env (some (i + 1)) (some pkt) clusterNeedsElection r.2).2
    else if pkt.type = wdJoinCoordinatorMessage then
      let c := replyTo ctx env i pkt wdAcceptMessage c
      standbyNodeJoinCluster i (sendMessageOfType ctx env (some (i + 1)) wdAskForPoolConfig none c).2
    else standardPacketProcessor ctx env i pkt c
  | _ => c

/-- `watchdog_state_machine_voting`. -/
def watchdogStateMachineVoting (ev : WdEvent) (c : WdCluster) : WdCluster :=
  match ev with
  | .wdStateChanged => c.setTimeout env.now maxSecsWaitForReplyFromNode
  | .timeout => setState ctx env .joining c
  | .packetRcv i pkt =>
    let n := c.remote i
    if pkt.type = wdStandForCoordinatorMessage then
      if n.wdPriority ≥ c.localNode.wdPriority then replyTo ctx env i pkt wdAcceptMessage c
      else setState ctx env .standForCoordinator (replyTo ctx env i pkt wdRejectMessage c)
    else if pkt.type = wdIamCoordinatorMessage then setState ctx env .joining c
    else if pkt.type = wdDeclareCoordinatorMessage then
      if n.wdPriority ≥ c.localNode.wdPriority then
        setState ctx env .initializing (replyTo ctx env i pkt wdAcceptMessage c)
      else setState ctx env .standForCoordinator (replyTo ctx env i pkt wdRejectMessage c)
    else standardPacketProcessor ctx env i pkt c
  | _ => c

/-! ## The answers to a candidacy

Four handlers answer `WD_STAND_FOR_COORDINATOR_MESSAGE`, each with its own
test. Loading, joining and voting compare priorities only; a node standing
itself also compares startup times, and rejects on a tie. -/

/-- On equal priorities, loading, joining and voting accept the candidate
whatever the startup times, while a node standing itself rejects a candidate
that did not start before it. -/
theorem standFor_answers_on_equal_priority (i : Nat) (pkt : WDPacketData) (c : WdCluster)
    (ht : pkt.type = wdStandForCoordinatorMessage)
    (hp : c.localNode.wdPriority = (c.remote i).wdPriority) :
    watchdogStateMachineLoading ctx env (.packetRcv i pkt) c =
      setState ctx env .participateInElection (replyTo ctx env i pkt wdAcceptMessage c) ∧
    watchdogStateMachineJoining ctx env (.packetRcv i pkt) c =
      setState ctx env .participateInElection (replyTo ctx env i pkt wdAcceptMessage c) ∧
    watchdogStateMachineVoting ctx env (.packetRcv i pkt) c = replyTo ctx env i pkt wdAcceptMessage c ∧
    (c.localNode.startupTime ≤ (c.remote i).startupTime →
      watchdogStateMachineStandForCord ctx env (.packetRcv i pkt) c =
        replyTo ctx env i pkt wdRejectMessage c) := by
  have ha : answerStandFor ctx env i pkt c =
      setState ctx env .participateInElection (replyTo ctx env i pkt wdAcceptMessage c) :=
    if_neg (by rw [hp]; exact lt_irrefl _)
  have hr : wdStandForCoordinatorMessage ≠ wdRejectMessage := by decide
  refine ⟨?_, ?_, ?_, fun ho => ?_⟩
  · simp only [watchdogStateMachineLoading, ht, if_true, ha]
  · simp only [watchdogStateMachineJoining, ht, hr, if_true, if_false, ha]
  · simp only [watchdogStateMachineVoting, ht, hp, if_true, ge_iff_le, le_refl]
  · simp only [watchdogStateMachineStandForCord, ht, if_true, hp, lt_irrefl, if_false, ho, and_self]

/-- The sample node and remote node 0, both on priority 1: the node started
at second 100, the peer at second 150. -/
def equalPriorityCluster : WdCluster :=
  sampleCluster.modifyRemote 0 fun n => { n with wdPriority := 1, startupTime := 150 }

/-- Remote node 0's candidacy, command 7. -/
def standForPacket : WDPacketData := ⟨wdStandForCoordinatorMessage, 7, 0, []⟩

/-- The node started first, yet loading, joining and voting accept the peer's
candidacy; standing itself, it rejects it. -/
theorem older_node_answers_on_equal_priority :
    equalPriorityCluster.localNode.startupTime < (equalPriorityCluster.remote 0).startupTime ∧
    (watchdogStateMachineLoading sampleCtx (quietEnv 112) (.packetRcv 0 standForPacket)
        equalPriorityCluster =
      setState sampleCtx (quietEnv 112) .participateInElection
        (replyTo sampleCtx (quietEnv 112) 0 standForPacket wdAcceptMessage equalPriorityCluster) ∧
    watchdogStateMachineJoining sampleCtx (quietEnv 112) (.packetRcv 0 standForPacket)
        equalPriorityCluster =
      setState sampleCtx (quietEnv 112) .participateInElection
        (replyTo sampleCtx (quietEnv 112) 0 standForPacket wdAcceptMessage equalPriorityCluster) ∧
    watchdogStateMachineVoting sampleCtx (quietEnv 112) (.packetRcv 0 standForPacket)
        equalPriorityCluster =
      replyTo sampleCtx (quietEnv 112) 0 standForPacket wdAcceptMessage equalPriorityCluster ∧
    (equalPriorityCluster.localNode.startupTime ≤ (equalPriorityCluster.remote 0).startupTime →
      watchdogStateMachineStandForCord sampleCtx (quietEnv 112) (.packetRcv 0 standForPacket)
          equalPriorityCluster =
        replyTo sampleCtx (quietEnv 112) 0 standForPacket wdRejectMessage equalPriorityCluster)) :=
  ⟨by decide,
    standFor_answers_on_equal_priority sampleCtx (quietEnv 112) 0 standForPacket equalPriorityCluster
      rfl (by decide)⟩

/-- The switch of `watchdog_state_machine_standby`, before the master check
that ends it. -/
def standbyArm (ev : WdEvent) (c : WdCluster) : WdCluster :=
  match ev with
  | .wdStateChanged => standbyJoin ctx env c
  | .timeout => c.setTimeout env.now 5
  | .commandFinished _ _ cmd =>
    if cmd.commandPacket.type = wdJoinCoordinatorMessage ∧
        ¬ (cmd.commandStatus = .finishedAllReplied ∨ cmd.commandStatus = .finishedTimeout) then
      setState ctx env .joining c
    else c
  | .remoteNodeLost _ =>
    if c.getMasterWatchdogNode = none then setState ctx env .joining c else c
  | .packetRcv i pkt =>
    if pkt.type = wdFailoverEnd then c
    else if pkt.type = wdStandForCoordinatorMessage then
      if c.getMasterWatchdogNode = none then
        setState ctx env .participateInElection (replyTo ctx env i pkt wdAcceptMessage c)
      else setState ctx env .joining (replyTo ctx env i pkt wdErrorMessage c)
    else if pkt.type = wdDeclareCoordinatorMessage then
      if c.getMasterWatchdogNode ≠ some (i + 1) then replyTo ctx env i pkt wdErrorMessage c
      else setState ctx env .joining c
    else if pkt.type = wdIamCoordinatorMessage then
      if c.getMasterWatchdogNode ≠ some (i + 1) then
        (sendClusterServiceMessage ctx env none (some pkt) clusterInSplitBrain c).2
      else
        (beaconMessageReceivedFromNode env i pkt
          (sendMessageOfType ctx env (some (i + 1)) wdInfoMessage (some pkt) c).2).2
    else standardPacketProcessor ctx env i pkt c
  | _ => c

/-- `watchdog_state_machine_standby`. -/
def watchdogStateMachineStandby (ev : WdEvent) (c : WdCluster) : WdCluster :=
  standbyMasterCheck ctx env (setState ctx env .joining) (standbyArm ctx env ev c)

/-- `watchdog_state_machine_nw_error`: entering is fatal; the other arms
restart from loading once the host has an address again. -/
def watchdogStateMachineNwError (ev : WdEvent) (c : WdCluster) : WdCluster :=
  let recover (c : WdCluster) : WdCluster :=
    if env.localIps = [] then c
    else
      let m := getMinimumMessage wdIamInNwTroubleMessage none c
      let c := (sendMessage ctx env none m.1 m.2).2
      let c := tryConnectingWithAllUnreachableNodes env (newOutboundConnection ctx env)
        (List.range c.remoteNodeCount) c
      setState ctx env .loading c
  match ev with
  | .wdStateChanged => c.fatal
  | .packetRcv _ _ | .timeout | .nwIpIsAssigned => recover c
  | _ => c

/-- The handler of state `s`; the states without one never reach it. -/
def stateHandler (ev : WdEvent) : WDStates → WdCluster → WdCluster
  | .loading => watchdogStateMachineLoading ctx env ev
  | .joining => watchdogStateMachineJoining ctx env ev
  | .initializing => watchdogStateMachineInitializing ctx env ev
  | .coordinator => watchdogStateMachineCoordinator ctx env ev
  | .participateInElection => watchdogStateMachineVoting ctx env ev
  | .standForCoordinator => watchdogStateMachineStandForCord ctx env ev
  | .standby => watchdogStateMachineStandby ctx env ev
  | .lost | .inNwTrouble => watchdogStateMachineNwError ctx env ev
  | .dead | .shutdown | .addMessageSent => id

/-- The handlers read two things of a finished command: its type and its
status. -/
theorem stateHandler_commandFinished_congr (w : Option Nat) (p : Option WDPacketData)
    {cmd cmd' : WDCommandData} (ht : cmd.commandPacket.type = cmd'.commandPacket.type)
    (hs : cmd.commandStatus = cmd'.commandStatus) :
    stateHandler ctx env (.commandFinished w p cmd) = stateHandler ctx env (.commandFinished w p cmd') := by
  funext s c
  cases s <;> simp only [stateHandler, watchdogStateMachineLoading, watchdogStateMachineJoining,
    watchdogStateMachineInitializing, watchdogStateMachineStandForCord, watchdogStateMachineCoordinator,
    watchdogStateMachineVoting, watchdogStateMachineStandby, standbyArm, watchdogStateMachineNwError, ht, hs]

/-! ## watchdog_state_machine -/

/-- What `watchdog_state_machine` does on `WD_EVENT_REMOTE_NODE_LOST` before its
switch: close both connections, mark the node lost unless it is shutting
down, forget it as master, and settle the IPC commands waiting on it. -/
def remoteNodeLostPreamble (i : Nat) (c : WdCluster) : WdCluster :=
  let n := c.remote i
  let r1 := c.closeSocket n.clientSocket
  let r2 := r1.2.closeSocket n.serverSocket
  let c := r2.2.modifyRemote i fun m =>
    { m with clientSocket := r1.1, serverSocket := r2.1, lastSentTime := 0,
             state := if m.state = WDStates.shutdown.toInt then m.state else WDStates.lost.toInt }
  let c := if c.getMasterWatchdogNode = some (i + 1) then c.setClusterMasterNode none else c
  nodeLostWhileIpcCommand ctx env i c

/-- What `watchdog_state_machine` does on `WD_EVENT_NW_IP_IS_REMOVED` and
`WD_EVENT_NW_LINK_IS_INACTIVE` before its switch. -/
def networkTroublePreamble (c : WdCluster) : WdCluster :=
  let c := if env.interfaceAvailable = false then setState ctx env .inNwTrouble c else c
  if env.localIps = [] then setState ctx env .inNwTrouble c else c

/-- `watchdog_state_machine` for an event other than `WD_EVENT_PACKET_RCV`,
which `wd_commands_packet_processor` never takes. -/
def watchdogStateMachineCore (ev : WdEvent) (c : WdCluster) : WdCluster :=
  let c := match ev with
    | .remoteNodeLost i => remoteNodeLostPreamble ctx env i c
    | .newOutboundConnection i => sendAddNode ctx env i c
    | .nwIpIsRemoved | .nwLinkIsInactive => networkTroublePreamble ctx env c
    | .localNodeLost => setState ctx env .lost c
    | _ => c
  onState ctx env (stateHandler ctx env ev) c

/-- The end of a cluster command in
`watchdog_internal_command_packet_processor`: command `k` takes its final
status, the state machine hears of it, and the command leaves the list. -/
def finishClusterCommand (i : Nat) (pkt : WDPacketData) (k : Nat) (cmd : WDCommandData)
    (status : WDCommandStatus) (c : WdCluster) : WdCluster :=
  let cmd := { cmd with commandStatus := status }
  let c := watchdogStateMachineCore ctx env (.commandFinished (some i) (some pkt) cmd)
    { c with clusterCommands := c.clusterCommands.set k cmd }
  { c with clusterCommands := c.clusterCommands.eraseIdx k }

/-- `watchdog_internal_command_packet_processor` for a packet from remote node
`i`: whether it took the packet, and the state. The reply is counted and its
slot marked replied whatever state the slot was in, and the search for the
slot clears every slot before it. -/
def watchdogInternalCommandPacketProcessor (i : Nat) (pkt : WDPacketData) (c : WdCluster) :
    Bool × WdCluster :=
  match getWdCommandFromReply c.clusterCommands pkt with
  | none => (false, c)
  | some k =>
    let cmd := c.clusterCommands.getD k default
    if cmd.commandStatus ≠ .inProgress then (false, c)
    else if pkt.type ≠ wdErrorMessage ∧ pkt.type ≠ wdAcceptMessage ∧ pkt.type ≠ wdRejectMessage ∧
        pkt.type ≠ wdInfoMessage then (false, c)
    else
      let c := if pkt.type = wdInfoMessage then standardPacketProcessor ctx env i pkt c else c
      if i < c.remoteNodeCount then
        let cmd : WDCommandData := { cmd with
          nodeResults := (clearSlotsThrough i cmd.nodeResults).set i ⟨.replied, pkt.type⟩,
          commandReplyFromCount := cmd.commandReplyFromCount + 1 }
        let rejected := pkt.type = wdRejectMessage ∨ pkt.type = wdErrorMessage
        if cmd.commandReplyFromCount ≥ cmd.commandSendToCount then
          (true, finishClusterCommand ctx env i pkt k cmd
            (if rejected then .finishedNodeRejected else .finishedAllReplied) c)
        else if rejected then (true, finishClusterCommand ctx env i pkt k cmd .finishedNodeRejected c)
        else (true, { c with clusterCommands := c.clusterCommands.set k cmd })
      else (true, c)

/-- `wd_commands_packet_processor` for a packet from remote node `i`: whether
it took the packet, and the state. A data reply (`WD_DATA_MESSAGE` or
`WD_CMD_REPLY_IN_DATA`) is written to the IPC client and retires its command;
an accept, reject or error to a forwarded failover is written to the client
and leaves the command in place. -/
def wdCommandsPacketProcessor (i : Nat) (pkt : WDPacketData) (c : WdCluster) : Bool × WdCluster :=
  if pkt.type = ctx.codes.failoverLockingRequest ∨ pkt.type = wdRemoteFailoverRequest then
    (true, (sendClusterServiceMessage ctx env (some (i + 1)) (some pkt) clusterNodeInvalidVersion c).2)
  else if pkt.type = ctx.codes.failoverCommand then
    (true, processRemoteFailoverCommandOnCoordinator ctx env i pkt c)
  else if pkt.type = ctx.codes.onlineRecoveryCommand then
    (true, processRemoteOnlineRecoveryCommand ctx env i pkt c)
  else if pkt.type = wdDataMessage ∨ pkt.type = wdCmdReplyInData then
    match getWdCommandFromReply c.ipcCommands pkt with
    | some k =>
      let c := (writeIpcCommandWithResultData env (c.ipcCommands.getD k default)
        ctx.codes.cmdResultOk pkt.data c).2
      (true, cleanUpIPCCommand k c)
    | none => (false, c)
  else if pkt.type = wdAcceptMessage ∨ pkt.type = wdRejectMessage ∨ pkt.type = wdErrorMessage then
    match getWdCommandFromReply c.ipcCommands pkt with
    | some k =>
      let cmd := c.ipcCommands.getD k default
      if cmd.commandPacket.type = ctx.codes.failoverCommand then
        (true, replyToFailoveCommand ctx env cmd
          (if pkt.type = wdAcceptMessage then .proceed else .masterRejected) 0 c)
      else if cmd.commandPacket.type = ctx.codes.onlineRecoveryCommand then
        replyIsReceivedForPgpoolReplicateCommand ctx env i pkt k c
      else (false, c)
    | none => (false, c)
  else (false, c)

/-- `watchdog_state_machine(WD_EVENT_PACKET_RCV)` for a packet from remote
node `i`: an info message updates the node first, a going-down notice loses
the node, and the two processors may take the packet before the switch. -/
def packetRcv (i : Nat) (pkt : WDPacketData) (c : WdCluster) : WdCluster :=
  let c := c.modifyRemote i fun m => { m with lastRcvTime := env.now }
  let c := if pkt.type = wdInfoMessage then standardPacketProcessor ctx env i pkt c else c
  if pkt.type = wdInformIAmGoingDown then
    watchdogStateMachineCore ctx env (.remoteNodeLost i)
      (c.modifyRemote i fun m => { m with state := WDStates.shutdown.toInt })
  else
    let r := watchdogInternalCommandPacketProcessor ctx env i pkt c
    if r.1 then r.2
    else
      let r := wdCommandsPacketProcessor ctx env i pkt r.2
      if r.1 then r.2 else onState ctx env (stateHandler ctx env (.packetRcv i pkt)) r.2

/-- `watchdog_state_machine`. -/
def watchdogStateMachine : WdEvent → WdCluster → WdCluster
  | .packetRcv i pkt, c => packetRcv ctx env i pkt c
  | ev, c => watchdogStateMachineCore ctx env ev c

/-- A finished command moves the state machine by its type and status alone:
two commands that agree on those, whichever round issued them, lead to the
same state. -/
theorem commandFinished_decided_by_type_and_status (w : Option Nat) (p : Option WDPacketData)
    (cmd cmd' : WDCommandData) (c : WdCluster) (ht : cmd.commandPacket.type = cmd'.commandPacket.type)
    (hs : cmd.commandStatus = cmd'.commandStatus) :
    watchdogStateMachine ctx env (.commandFinished w p cmd) c =
      watchdogStateMachine ctx env (.commandFinished w p cmd') c := by
  simp only [watchdogStateMachine, watchdogStateMachineCore, stateHandler_commandFinished_congr ctx env w p ht hs]

/-! ## The passes of the main loop -/

/-- The first loop of `check_for_current_command_timeout`, over the commands
as they stood: the finished ones are collected, and those past their timeout
finish with `COMMAND_FINISHED_TIMEOUT`. A command the handlers add during the
pass was issued now with a timeout of four or five seconds, so the pass would
leave it alone. -/
def commandTimeoutPass : List Nat → WdCluster × List Nat → WdCluster × List Nat
  | [], acc => acc
  | k :: ks, acc =>
    let cmd := acc.1.clusterCommands.getD k default
    if cmd.commandStatus ≠ .inProgress then commandTimeoutPass ks (acc.1, acc.2 ++ [k])
    else if wdTimeDiffSec env.now cmd.commandTime ≥ cmd.commandTimeoutSecs then
      let cmd := { cmd with commandStatus := .finishedTimeout }
      let c := { acc.1 with clusterCommands := acc.1.clusterCommands.set k cmd }
      commandTimeoutPass ks (watchdogStateMachineCore ctx env (.commandFinished none none cmd) c,
        acc.2 ++ [k])
    else commandTimeoutPass ks acc

/-- `check_for_current_command_timeout`. -/
def checkForCurrentCommandTimeout (c : WdCluster) : WdCluster :=
  let r := commandTimeoutPass ctx env (List.range c.clusterCommands.length) (c, [])
  { r.1 with clusterCommands := withoutPositions r.2 r.1.clusterCommands 0 }

/-- The inner loop of `service_internal_command` for one command: resend to
each peer whose send failed and that is back. -/
def resendClusterSlots : List Nat → WDCommandData × WdCluster → WDCommandData × WdCluster
  | [], acc => acc
  | i :: is, acc =>
    let cmd := acc.1
    if (cmd.nodeResults[i]?.map (·.cmdState)) = some .sendError ∧
        isNodeActiveAndReachable (acc.2.remote i) = true then
      let r := sendMessageToNode ctx env i cmd.commandPacket acc.2
      if r.1 then
        resendClusterSlots is ({ cmd.setSlot i .sent with
          commandSendToCount := cmd.commandSendToCount + 1 }, r.2)
      else resendClusterSlots is (cmd, r.2)
    else resendClusterSlots is acc

/-- `service_internal_command`: resend the commands in progress, and drop the
finished ones. -/
def serviceInternalCommand (c : WdCluster) : WdCluster :=
  let r := (List.range c.clusterCommands.length).foldl (fun (acc : WdCluster × List Nat) k =>
    let cmd := acc.1.clusterCommands.getD k default
    if cmd.commandStatus ≠ .inProgress then (acc.1, acc.2 ++ [k])
    else
      let s := resendClusterSlots ctx env (List.range acc.1.remoteNodeCount) (cmd, acc.1)
      ({ s.2 with clusterCommands := s.2.clusterCommands.set k s.1 }, acc.2)) (c, [])
  { r.1 with clusterCommands := withoutPositions r.2 r.1.clusterCommands 0 }

/-- The loop of `service_lost_connections`: reconnect to each live peer whose
outbound connection is down and last tried long enough ago; whether one came
back. -/
def serviceLostConnectionsLoop : List Nat → Bool × WdCluster → Bool × WdCluster
  | [], acc => acc
  | i :: is, acc =>
    let n := acc.2.remote i
    if n.state = WDStates.shutdown.toInt ∨ n.state = WDStates.dead.toInt then
      serviceLostConnectionsLoop is acc
    else if isSocketConnectionConnected n.clientSocket = false ∧
        wdTimeDiffSec env.now n.clientSocket.tv > minSecsConnectionRetry ∧
        n.clientSocket.sockState ≠ .waitingForConnect then
      let c := (connectToNode env i acc.2).2
      if (c.remote i).clientSocket.sockState = .connected then
        serviceLostConnectionsLoop is
          (true, watchdogStateMachineCore ctx env (.newOutboundConnection i) c)
      else serviceLostConnectionsLoop is (acc.1, c)
    else serviceLostConnectionsLoop is acc

/-- `service_lost_connections`. -/
def serviceLostConnections (c : WdCluster) : Bool × WdCluster :=
  serviceLostConnectionsLoop ctx env (List.range c.remoteNodeCount) (false, c)

/-- The loop of `service_unreachable_nodes`: a live peer is lost when both its
connections are down, or when it has not answered a request in time. -/
def serviceUnreachableNodesLoop : List Nat → WdCluster → WdCluster
  | [], c => c
  | i :: is, c =>
    let n := c.remote i
    let c :=
      if isNodeActive n = false then c
      else if isNodeReachable n ∨ n.clientSocket.sockState = .waitingForConnect then
        if n.lastSentTime > 0 ∧ wdTimeDiffSec env.now n.lastSentTime ≥ maxSecsWaitForReplyFromNode then
          watchdogStateMachineCore ctx env (.remoteNodeLost i) c
        else c
      else watchdogStateMachineCore ctx env (.remoteNodeLost i) c
    serviceUnreachableNodesLoop is c

/-- `service_unreachable_nodes`. -/
def serviceUnreachableNodes (c : WdCluster) : WdCluster :=
  serviceUnreachableNodesLoop ctx env (List.range c.remoteNodeCount) c

end

end pgpool.watchdog
