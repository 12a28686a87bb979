-- Sending: the message builders, send_message and its variants, and
-- issue_watchdog_internal_command, which opens a cluster command with one
-- result slot per peer. Sending changes only sockets, command ids and the
-- command list, never the coordinator data or a node's recorded state.
import Pgpool.Watchdog.Cluster

namespace pgpool.watchdog

section
variable (ctx : Ctx) (env : Env)

/-! ## The pure model -/

/-- `get_empty_packet`. -/
def emptyPacket : WDPacketData := ⟨wdNoMessage, 0, 0, []⟩

/-- The command id of a message: the one it replies to, or a fresh one. -/
def commandIdFor (replyFor : Option WDPacketData) (c : WdCluster) : UInt32 × WdCluster :=
  match replyFor with
  | some r => (r.commandId, c)
  | none => c.getNextCommandID

/-- `get_minimum_message`. -/
def getMinimumMessage (type : MsgType) (replyFor : Option WDPacketData) (c : WdCluster) :
    WDPacketData × WdCluster :=
  let r := commandIdFor replyFor c
  (⟨type, r.1, 0, []⟩, r.2)

/-- A message carrying `data`, as `set_message_data` fills it. -/
def dataMessage (type : MsgType) (data : List UInt8) (replyFor : Option WDPacketData)
    (c : WdCluster) : WDPacketData × WdCluster :=
  let r := commandIdFor replyFor c
  (⟨type, r.1, data.length, data⟩, r.2)

/-- `get_mynode_info_message`. -/
def getMynodeInfoMessage (replyFor : Option WDPacketData) (c : WdCluster) :
    WDPacketData × WdCluster :=
  dataMessage wdInfoMessage (env.nodeInfoJson c.localNode) replyFor c

/-- `get_addnode_message`. -/
def getAddnodeMessage (c : WdCluster) : WDPacketData × WdCluster :=
  dataMessage wdAddNodeMessage (env.nodeInfoJson c.localNode) none c

/-- `get_beacon_message`. -/
def getBeaconMessage (type : MsgType) (replyFor : Option WDPacketData) (c : WdCluster) :
    WDPacketData × WdCluster :=
  dataMessage type (env.beaconJson c.localNode) replyFor c

/-- The types `get_message_of_type` builds as minimal messages. -/
def minimalTypes : List MsgType :=
  [wdFailoverStart, wdFailoverEnd, wdReqInfoMessage, wdStandForCoordinatorMessage,
   wdDeclareCoordinatorMessage, wdJoinCoordinatorMessage, wdQuorumIsLost,
   wdInformIAmGoingDown, wdAskForPoolConfig, wdFailoverWaitingForConsensus]

/-- `get_message_of_type`. -/
def getMessageOfType (type : MsgType) (replyFor : Option WDPacketData) (c : WdCluster) :
    Option WDPacketData × WdCluster :=
  let built :=
    if type = wdInfoMessage then some (getMynodeInfoMessage env replyFor c)
    else if type = wdAddNodeMessage then some (getAddnodeMessage env c)
    else if type = wdIamCoordinatorMessage then some (getBeaconMessage env type replyFor c)
    else if type ∈ minimalTypes then some (getMinimumMessage type replyFor c)
    else none
  match built with
  | some r => (some r.1, r.2)
  | none => (none, c)

/-- `send_message_to_connection`: a failed write closes the connection. -/
def sendMessageToConnection (conn : SocketConnection) (pkt : WDPacketData) (c : WdCluster) :
    Bool × SocketConnection × WdCluster :=
  if 0 < conn.sock ∧ conn.sockState = .connected then
    if env.writeOk conn.sock pkt then (true, conn, c)
    else (false, c.closeSocket conn)
  else (false, conn, c)

/-- Messages after which `send_message_to_node` starts the reply timer. -/
def expectsReply (pkt : WDPacketData) : Bool :=
  pkt.type == wdRemoteFailoverRequest || pkt.type == ctx.codes.failoverCommand

/-- `send_message_to_node` for remote node `i`: the outbound connection first,
then the inbound one. -/
def sendMessageToNode (i : Nat) (pkt : WDPacketData) (c : WdCluster) : Bool × WdCluster :=
  match c.remoteNodes[i]? with
  | none => (false, c)
  | some n =>
    let r1 := sendMessageToConnection env n.clientSocket pkt c
    let r2 := if r1.1 then (true, n.serverSocket, r1.2.2)
      else sendMessageToConnection env n.serverSocket pkt r1.2.2
    (r2.1, r2.2.2.modifyRemote i fun m =>
      { m with clientSocket := r1.2.1, serverSocket := r2.2.1,
               lastSentTime := if r2.1 && expectsReply ctx pkt && decide (m.lastSentTime ≤ 0)
                 then env.now else m.lastSentTime })

/-- The loop of `send_message` with no target: every reachable remote node. -/
def sendToAll (pkt : WDPacketData) : List Nat → Nat × WdCluster → Nat × WdCluster
  | [], acc => acc
  | i :: is, (count, c) =>
    let acc := match c.remoteNodes[i]? with
      | some n =>
        if isNodeReachable n then
          let r := sendMessageToNode ctx env i pkt c
          (if r.1 then count + 1 else count, r.2)
        else (count, c)
      | none => (count, c)
    sendToAll pkt is acc

/-- `send_message`: to the node with private id `wdNode`, or to all. The
local node as target counts as sent. -/
def sendMessage (wdNode : Option Nat) (pkt : WDPacketData) (c : WdCluster) : Nat × WdCluster :=
  match wdNode with
  | some 0 => (1, c)
  | some (i + 1) =>
    let r := sendMessageToNode ctx env i pkt c
    (if r.1 then 1 else 0, r.2)
  | none => sendToAll ctx env pkt (List.range c.remoteNodeCount) (0, c)

/-- `send_message_of_type`: -1 when the type has no builder. -/
def sendMessageOfType (wdNode : Option Nat) (type : MsgType) (replyFor : Option WDPacketData)
    (c : WdCluster) : Int × WdCluster :=
  let b := getMessageOfType env type replyFor c
  match b.1 with
  | some pkt => let r := sendMessage ctx env wdNode pkt b.2; (r.1, r.2)
  | none => (-1, b.2)

/-- `reply_with_minimal_message`. -/
def replyWithMinimalMessage (wdNode : Option Nat) (type : MsgType) (replyFor : Option WDPacketData)
    (c : WdCluster) : Bool × WdCluster :=
  let m := getMinimumMessage type replyFor c
  let r := sendMessage ctx env wdNode m.1 m.2
  (r.1 ≠ 0, r.2)

/-- `reply_with_message`. -/
def replyWithMessage (wdNode : Option Nat) (type : MsgType) (data : List UInt8)
    (replyFor : Option WDPacketData) (c : WdCluster) : Bool × WdCluster :=
  let m := dataMessage type data replyFor c
  let r := sendMessage ctx env wdNode m.1 m.2
  (r.1 ≠ 0, r.2)

/-- `send_cluster_service_message`. -/
def sendClusterServiceMessage (wdNode : Option Nat) (replyFor : Option WDPacketData)
    (message : UInt8) (c : WdCluster) : Bool × WdCluster :=
  replyWithMessage ctx env wdNode wdClusterServiceMessage [message] replyFor c

/-! ## Cluster commands -/

/-- A zeroed result slot, as `palloc0` and `clear_command_node_result` leave it. -/
def clearedResult : WDCommandNodeResult := ⟨.init, wdNoMessage⟩

/-- Set the state of slot `i`. -/
def WDCommandData.setSlot (cmd : WDCommandData) (i : Nat) (s : WDNodeCommandState) :
    WDCommandData :=
  { cmd with nodeResults := cmd.nodeResults.modify (fun r => { r with cmdState := s }) i }

/-- The command `issue_watchdog_internal_command` creates, before sending. -/
def newClusterCommand (wdNode : Option Nat) (pkt : WDPacketData) (timeoutSec : Nat)
    (c : WdCluster) : WDCommandData :=
  { sourcePacket := emptyPacket, commandPacket := { pkt with len := 0, data := [] },
    nodeResults := List.replicate c.remoteNodeCount clearedResult, sendToNode := wdNode,
    commandStatus := .inProgress, commandTimeoutSecs := timeoutSec, commandTime := env.now,
    commandSendToCount := 0, commandSendToErrorCount := 0, commandReplyFromCount := 0,
    commandSource := .local, sourceIPCSocket := 0, sourceWdNode := 0, errorMessage := none }

/-- Send to slot `i` of a command: `Sent` and counted, or `SendError` and the
packet kept for a resend. -/
def sendToSlot (pkt : WDPacketData) (i : Nat) (acc : WDCommandData × Bool × WdCluster) :
    WDCommandData × Bool × WdCluster :=
  let cmd := acc.1
  let r := sendMessageToNode ctx env i pkt acc.2.2
  if r.1 then
    ({ cmd.setSlot i .sent with commandSendToCount := cmd.commandSendToCount + 1 }, acc.2.1, r.2)
  else (cmd.setSlot i .sendError, true, r.2)

/-- The broadcast loop of `issue_watchdog_internal_command`: inactive peers
are marked `DoNotSend`. -/
def issueToAll (pkt : WDPacketData) : List Nat → WDCommandData × Bool × WdCluster →
    WDCommandData × Bool × WdCluster
  | [], acc => acc
  | i :: is, (cmd, save, c) =>
    let acc := match c.remoteNodes[i]? with
      | some n =>
        if isNodeActive n then sendToSlot ctx env pkt i (cmd, save, c)
        else (cmd.setSlot i .doNotSend, save, c)
      | none => (cmd, save, c)
    issueToAll pkt is acc

/-- The tail of `issue_watchdog_internal_command`: keep the payload when a send
failed, and add the command to the list. -/
def issueFinish (pkt : WDPacketData) (acc : WDCommandData × Bool × WdCluster) : Int × WdCluster :=
  let cmd := if acc.2.1 ∧ 0 < pkt.len then
    { acc.1 with commandPacket := { acc.1.commandPacket with data := pkt.data, len := pkt.len } }
    else acc.1
  (cmd.commandSendToCount.toNat, { acc.2.2 with clusterCommands := acc.2.2.clusterCommands ++ [cmd] })

/-- `issue_watchdog_internal_command`: to all active peers, or to one remote
node; for any other target (the local node) it gives up with -1. -/
def issueWatchdogInternalCommand (wdNode : Option Nat) (pkt : WDPacketData) (timeoutSec : Nat)
    (c : WdCluster) : Int × WdCluster :=
  let cmd := newClusterCommand env wdNode pkt timeoutSec c
  match wdNode with
  | none => issueFinish pkt (issueToAll ctx env pkt (List.range c.remoteNodeCount) (cmd, false, c))
  | some 0 => (-1, c)
  | some (i + 1) =>
    if i < c.remoteNodeCount then issueFinish pkt (sendToSlot ctx env pkt i (cmd, false, c))
    else (-1, c)

/-- `send_cluster_command`. -/
def sendClusterCommand (wdNode : Option Nat) (type : MsgType) (timeoutSec : Nat)
    (c : WdCluster) : Int × WdCluster :=
  let b := getMessageOfType env type none c
  match b.1 with
  | some pkt => issueWatchdogInternalCommand ctx env wdNode pkt timeoutSec b.2
  | none => (-1, b.2)

/-! ## Connecting -/

/-- `connect_to_node` for remote node `i`. -/
def connectToNode (i : Nat) (c : WdCluster) : Bool × WdCluster :=
  let fd := (env.connectResult i).1
  let st : WDSockState := if fd ≤ 0 then .error else if (env.connectResult i).2 then .connected
    else .waitingForConnect
  let c' := if 0 < fd then { c with openFds := fd :: c.openFds } else c
  (st ≠ .error, c'.modifyRemote i fun m =>
    { m with clientSocket := { m.clientSocket with sock := fd, sockState := st, tv := env.now } })

/-- Neither connection of a node is up or being set up. -/
def bothSocketsDown (n : WatchdogNode) : Bool :=
  n.clientSocket.sockState != .waitingForConnect && n.clientSocket.sockState != .connected &&
  n.serverSocket.sockState != .waitingForConnect && n.serverSocket.sockState != .connected

/-- `try_connecting_with_all_unreachable_nodes`, with `onConnected` the
`WD_EVENT_NEW_OUTBOUND_CONNECTION` dispatch for a node whose connect
succeeded at once. -/
def tryConnectingWithAllUnreachableNodes (onConnected : Nat → WdCluster → WdCluster) :
    List Nat → WdCluster → WdCluster
  | [], c => c
  | i :: is, c =>
    let c := match c.remoteNodes[i]? with
      | some n =>
        if bothSocketsDown n ∧ n.state ≠ WDStates.shutdown.toInt then
          let c := (connectToNode env i c).2
          if (c.remoteNodes[i]?.map (·.clientSocket.sockState)) = some .connected then
            onConnected i c
          else c
        else c
      | none => c
    tryConnectingWithAllUnreachableNodes onConnected is c

end

end pgpool.watchdog

namespace pgpool.watchdog

/-! ## What sending leaves alone -/

/-- A node record without its links: the connections and the reply timer. -/
def WatchdogNode.withoutLinks (n : WatchdogNode) : WatchdogNode :=
  { n with clientSocket := ⟨0, .uninitialized, "", 0⟩, serverSocket := ⟨0, .uninitialized, "", 0⟩,
           lastSentTime := 0 }

/-- The state with what sending may change blanked out: the peers' links,
the command ids, the cluster commands and the descriptors. -/
def WdCluster.sendView (c : WdCluster) : WdCluster :=
  { c with remoteNodes := c.remoteNodes.map WatchdogNode.withoutLinks, nextCommandID := 0,
           clusterCommands := [], openFds := [] }

/-- `c'` comes from `c` by sending: it agrees with `c` outside `sendView`, and
its cluster commands extend those of `c`. -/
structure SendsOnly (c c' : WdCluster) : Prop where
  view : c'.sendView = c.sendView
  commands : c.clusterCommands <+: c'.clusterCommands

namespace SendsOnly

variable {c c' c'' : WdCluster}

@[refl] theorem refl (c : WdCluster) : SendsOnly c c := ⟨rfl, List.prefix_refl _⟩

@[trans] theorem trans (h : SendsOnly c c') (h' : SendsOnly c' c'') : SendsOnly c c'' :=
  ⟨h'.view.trans h.view, h.commands.trans h'.commands⟩

theorem localNode (h : SendsOnly c c') : c'.localNode = c.localNode := by
  have := congrArg WdCluster.localNode h.view; exact this
theorem clusterMasterInfo (h : SendsOnly c c') : c'.clusterMasterInfo = c.clusterMasterInfo := by
  have := congrArg WdCluster.clusterMasterInfo h.view; exact this
theorem quorumStatus (h : SendsOnly c c') : c'.quorumStatus = c.quorumStatus := by
  have := congrArg WdCluster.quorumStatus h.view; exact this
theorem failovers (h : SendsOnly c c') : c'.wdCurrentFailovers = c.wdCurrentFailovers := by
  have := congrArg WdCluster.wdCurrentFailovers h.view; exact this
theorem exited (h : SendsOnly c c') : c'.exited = c.exited := by
  have := congrArg WdCluster.exited h.view; exact this
theorem peers (h : SendsOnly c c') :
    c'.remoteNodes.map WatchdogNode.withoutLinks = c.remoteNodes.map WatchdogNode.withoutLinks := by
  have := congrArg WdCluster.remoteNodes h.view; exact this

/-- Sending leaves the coordinator view alone. -/
theorem core (h : SendsOnly c c') : c'.core = c.core := by
  have hl : c'.remoteNodes.length = c.remoteNodes.length := by
    simpa using congrArg List.length h.peers
  simp [WdCluster.core, h.localNode, h.clusterMasterInfo, h.quorumStatus, h.failovers, h.exited, hl]

theorem keepsLocalIs (h : SendsOnly c c') {s : WDStates} (hc : c.localIs s) : c'.localIs s := by
  unfold WdCluster.localIs
  rw [h.localNode]
  exact hc

end SendsOnly

theorem map_modify_of_forall {α β : Type} (g : α → β) (f : α → α) (hf : ∀ x, g (f x) = g x) :
    ∀ (i : Nat) (l : List α), (l.modify f i).map g = l.map g
  | _, [] => by simp
  | 0, x :: l => by simp [List.modify, List.modifyHead, hf]
  | i + 1, x :: l => by
    simpa [List.modify, List.modifyTailIdx] using map_modify_of_forall g f hf i l

theorem sendsOnly_modifyRemote (c : WdCluster) (i : Nat) (f : WatchdogNode → WatchdogNode)
    (hf : ∀ m, (f m).withoutLinks = m.withoutLinks) : SendsOnly c (c.modifyRemote i f) := by
  refine ⟨?_, List.prefix_refl _⟩
  simp only [WdCluster.sendView, WdCluster.modifyRemote, map_modify_of_forall _ _ hf]

theorem sendsOnly_closeSocket (c : WdCluster) (conn : SocketConnection) :
    SendsOnly c (c.closeSocket conn).2 := by
  unfold WdCluster.closeSocket; split
  · exact ⟨rfl, List.prefix_refl _⟩
  · rfl

theorem sendsOnly_commandIdFor (r : Option WDPacketData) (c : WdCluster) :
    SendsOnly c (commandIdFor r c).2 := by
  cases r <;> exact ⟨rfl, List.prefix_refl _⟩

section
variable (ctx : Ctx) (env : Env)

theorem sendsOnly_getMinimumMessage (t : MsgType) (r : Option WDPacketData) (c : WdCluster) :
    SendsOnly c (getMinimumMessage t r c).2 := sendsOnly_commandIdFor r c

theorem sendsOnly_dataMessage (t : MsgType) (d : List UInt8) (r : Option WDPacketData)
    (c : WdCluster) : SendsOnly c (dataMessage t d r c).2 := sendsOnly_commandIdFor r c

theorem sendsOnly_getMessageOfType (t : MsgType) (r : Option WDPacketData) (c : WdCluster) :
    SendsOnly c (getMessageOfType env t r c).2 := by
  unfold getMessageOfType getMynodeInfoMessage getAddnodeMessage getBeaconMessage
  dsimp only
  split_ifs <;> dsimp only <;> first
    | exact sendsOnly_dataMessage _ _ _ _ | exact sendsOnly_getMinimumMessage _ _ _ | rfl

theorem sendsOnly_sendMessageToConnection (conn : SocketConnection) (pkt : WDPacketData)
    (c : WdCluster) : SendsOnly c (sendMessageToConnection env conn pkt c).2.2 := by
  unfold sendMessageToConnection
  split_ifs
  · rfl
  · exact sendsOnly_closeSocket c conn
  · rfl

theorem sendsOnly_sendMessageToNode (i : Nat) (pkt : WDPacketData) (c : WdCluster) :
    SendsOnly c (sendMessageToNode ctx env i pkt c).2 := by
  unfold sendMessageToNode
  split
  · rfl
  · rename_i n _
    dsimp only
    refine SendsOnly.trans ?_ (sendsOnly_modifyRemote _ _ _ fun _ => rfl)
    have h1 := sendsOnly_sendMessageToConnection env n.clientSocket pkt c
    split_ifs
    · exact h1
    · exact h1.trans (sendsOnly_sendMessageToConnection env _ _ _)

theorem sendsOnly_sendToAll (pkt : WDPacketData) :
    ∀ (is : List Nat) (acc : Nat × WdCluster), SendsOnly acc.2 (sendToAll ctx env pkt is acc).2
  | [], _ => SendsOnly.refl _
  | i :: is, (n, c) => by
    unfold sendToAll
    refine SendsOnly.trans ?_ (sendsOnly_sendToAll pkt is _)
    split
    · split_ifs
      · exact sendsOnly_sendMessageToNode ctx env i pkt c
      · rfl
    · rfl

theorem sendsOnly_sendMessage (w : Option Nat) (pkt : WDPacketData) (c : WdCluster) :
    SendsOnly c (sendMessage ctx env w pkt c).2 := by
  unfold sendMessage
  split
  · rfl
  · exact sendsOnly_sendMessageToNode ctx env _ pkt c
  · exact sendsOnly_sendToAll ctx env pkt _ (0, c)

theorem sendsOnly_sendMessageOfType (w : Option Nat) (t : MsgType) (r : Option WDPacketData)
    (c : WdCluster) : SendsOnly c (sendMessageOfType ctx env w t r c).2 := by
  unfold sendMessageOfType
  have h := sendsOnly_getMessageOfType env t r c
  dsimp only
  split
  · exact h.trans (sendsOnly_sendMessage ctx env w _ _)
  · exact h

theorem sendsOnly_replyWithMinimalMessage (w : Option Nat) (t : MsgType)
    (r : Option WDPacketData) (c : WdCluster) :
    SendsOnly c (replyWithMinimalMessage ctx env w t r c).2 :=
  (sendsOnly_getMinimumMessage t r c).trans (sendsOnly_sendMessage ctx env w _ _)

theorem sendsOnly_replyWithMessage (w : Option Nat) (t : MsgType) (d : List UInt8)
    (r : Option WDPacketData) (c : WdCluster) :
    SendsOnly c (replyWithMessage ctx env w t d r c).2 :=
  (sendsOnly_dataMessage t d r c).trans (sendsOnly_sendMessage ctx env w _ _)

theorem sendsOnly_sendClusterServiceMessage (w : Option Nat) (r : Option WDPacketData)
    (m : UInt8) (c : WdCluster) : SendsOnly c (sendClusterServiceMessage ctx env w r m c).2 :=
  sendsOnly_replyWithMessage ctx env w _ _ r c

theorem sendsOnly_sendToSlot (pkt : WDPacketData) (i : Nat) (acc : WDCommandData × Bool × WdCluster) :
    SendsOnly acc.2.2 (sendToSlot ctx env pkt i acc).2.2 := by
  unfold sendToSlot
  dsimp only
  split_ifs <;> exact sendsOnly_sendMessageToNode ctx env i pkt _

theorem sendsOnly_issueToAll (pkt : WDPacketData) :
    ∀ (is : List Nat) (acc : WDCommandData × Bool × WdCluster),
      SendsOnly acc.2.2 (issueToAll ctx env pkt is acc).2.2
  | [], _ => SendsOnly.refl _
  | i :: is, (cmd, save, c) => by
    unfold issueToAll
    refine SendsOnly.trans ?_ (sendsOnly_issueToAll pkt is _)
    split
    · split_ifs
      · exact sendsOnly_sendToSlot ctx env pkt i _
      · rfl
    · rfl

theorem sendsOnly_issueFinish (pkt : WDPacketData) (acc : WDCommandData × Bool × WdCluster) :
    SendsOnly acc.2.2 (issueFinish pkt acc).2 :=
  ⟨rfl, List.prefix_append _ _⟩

theorem sendsOnly_issueWatchdogInternalCommand (w : Option Nat) (pkt : WDPacketData) (t : Nat)
    (c : WdCluster) : SendsOnly c (issueWatchdogInternalCommand ctx env w pkt t c).2 := by
  unfold issueWatchdogInternalCommand
  dsimp only
  split
  · exact (sendsOnly_issueToAll ctx env pkt _ (_, false, c)).trans (sendsOnly_issueFinish pkt _)
  · rfl
  · split_ifs
    · exact (sendsOnly_sendToSlot ctx env pkt _ (_, false, c)).trans (sendsOnly_issueFinish pkt _)
    · rfl

theorem sendsOnly_sendClusterCommand (w : Option Nat) (t : MsgType) (s : Nat) (c : WdCluster) :
    SendsOnly c (sendClusterCommand ctx env w t s c).2 := by
  unfold sendClusterCommand
  have h := sendsOnly_getMessageOfType env t none c
  dsimp only
  split
  · exact h.trans (sendsOnly_issueWatchdogInternalCommand ctx env w _ s _)
  · exact h

theorem sendsOnly_connectToNode (i : Nat) (c : WdCluster) :
    SendsOnly c (connectToNode env i c).2 := by
  unfold connectToNode
  dsimp only
  refine SendsOnly.trans ?_ (sendsOnly_modifyRemote _ _ _ fun _ => rfl)
  split_ifs
  · exact ⟨rfl, List.prefix_refl _⟩
  · rfl

/-- Connecting only sends when the dispatch for a node that connected does,
in every state the connecting passes through: those of `P`, which sending
keeps. -/
theorem sendsOnly_tryConnectingWithAllUnreachableNodes {P : WdCluster → Prop}
    (hP : ∀ {c c'}, SendsOnly c c' → P c → P c') (onConn : Nat → WdCluster → WdCluster)
    (hon : ∀ i c, P c → SendsOnly c (onConn i c)) :
    ∀ (is : List Nat) (c : WdCluster), P c →
      SendsOnly c (tryConnectingWithAllUnreachableNodes env onConn is c)
  | [], _, _ => SendsOnly.refl _
  | i :: is, c, hc => by
    unfold tryConnectingWithAllUnreachableNodes
    have step : SendsOnly c (match c.remoteNodes[i]? with
        | some n =>
          if bothSocketsDown n ∧ n.state ≠ WDStates.shutdown.toInt then
            let c := (connectToNode env i c).2
            if (c.remoteNodes[i]?.map (·.clientSocket.sockState)) = some .connected then onConn i c
            else c
          else c
        | none => c) := by
      split
      · split_ifs
        · have h1 := sendsOnly_connectToNode env i c
          dsimp only
          split_ifs
          · exact h1.trans (hon i _ (hP h1 hc))
          · exact h1
        · rfl
      · rfl
    exact step.trans (sendsOnly_tryConnectingWithAllUnreachableNodes hP onConn hon is _ (hP step hc))

end

end pgpool.watchdog
