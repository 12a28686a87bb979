-- The loop of watchdog_main, one ready descriptor or one pass at a time: the
-- connections accepted, the packets and frames read, the network events, and
-- the passes that follow select. The start-up before the loop, and the states
-- a run reaches.
import Pgpool.Watchdog.Ipc

namespace pgpool.watchdog

/-- What one turn of `watchdog_main` handles: the timer, one descriptor that
`select` found ready, or one of the passes after it. -/
inductive Input
  | timeout
  | acceptPeer (fd : Int) (addr : String)
  | acceptIpc (fd : Int)
  | outgoingConnection (i : Nat) (ok : Bool)
  | peerPacket (i : Nat) (server : Bool) (pkt : Option WDPacketData)
  | unidentifiedPacket (k : Nat) (pkt : Option WDPacketData)
  | ipcFrame (sock : Int) (frame : Option (MsgType × List UInt8))
  | notifyFrame (sock : Int) (frame : Option (MsgType × List UInt8))
  | networkEvent (linkEvent deleted : Bool)
  | commandTimeouts
  | lostConnections
  | unreachableNodes
  | quorum
  | expiredFailovers

/-- The descriptor an input hands the process, when it accepts one. -/
def Input.acceptedFd : Input → Option Int
  | .acceptPeer fd _ => some fd
  | .acceptIpc fd => some fd
  | _ => none

/-- A descriptor the input accepts is one `accept` can return: positive and
not held by the process. -/
def Input.freshIn (inp : Input) (fds : List Int) : Bool :=
  match inp.acceptedFd with
  | some fd => decide (0 < fd) && !fds.contains fd
  | none => true

section
variable (ctx : Ctx) (env : Env)

/-! ## What select finds ready -/

/-- `verify_authhash_for_node`: with an auth key configured, the hash the
node sent must be the one computed from its state and port. -/
def verifyAuthhashForNode (n : WatchdogNode) (authhash : Option String) : Bool :=
  if ctx.cfg.wdAuthkey ≠ "" then authhash = some (env.wdCalcHash n.state n.wdPort) else true

/-- The reject `read_sockets` sends on an unidentified connection, and the
close after it. -/
def rejectUnidentified (conn : SocketConnection) (pkt : WDPacketData) (c : WdCluster) : WdCluster :=
  let m := getMinimumMessage wdRejectMessage (some pkt) c
  ((sendMessageToConnection env conn m.1 m.2).2.2.closeSocket conn).2

/-- An `AddNode` on an unidentified connection: a node that authenticates and
matches a configured peer takes the connection as its inbound one, with the
state and values it announces, and the packet goes to the state machine. -/
def addNodeMessageReceived (conn : SocketConnection) (pkt : WDPacketData) (c : WdCluster) :
    WdCluster :=
  let parsed := if pkt.data = [] ∨ pkt.len ≤ 0 then none else env.parseNodeInfo pkt.data
  match parsed with
  | none => rejectUnidentified env conn pkt c
  | some (tempNode, authkey) =>
    let found :=
      if verifyAuthhashForNode ctx env tempNode authkey then
        c.remoteNodes.findIdx? fun n => n.wdPort == tempNode.wdPort &&
          n.pgpoolPort == tempNode.pgpoolPort &&
          (n.hostname == conn.addr || n.hostname == tempNode.hostname)
      else none
    match found with
    | none => rejectUnidentified env conn pkt c
    | some i =>
      let c := (c.closeSocket (c.remote i).serverSocket).2.modifyRemote i fun m =>
        let m := { m with delegateIp := tempNode.delegateIp, state := tempNode.state,
                          startupTime := tempNode.startupTime, wdPriority := tempNode.wdPriority,
                          serverSocket := { conn with sockState := .connected } }
        if tempNode.currentStateTime ≠ 0 then
          { m with currentStateTime := tempNode.currentStateTime, escalated := tempNode.escalated,
                   standbyNodesCount := tempNode.standbyNodesCount, quorumStatus := tempNode.quorumStatus }
        else m
      watchdogStateMachine ctx env (.packetRcv i pkt) c

/-- The `unidentified_socks` loop of `read_sockets` for the socket at position
`k`, with the packet read from it (`none` when the read failed, which closes
the connection): only an `AddNode` is taken, and the socket leaves the list. -/
def unidentifiedSocketReady (k : Nat) (pkt : Option WDPacketData) (c : WdCluster) : WdCluster :=
  let conn := c.unidentifiedSocks.getD k default
  if conn.sock ≤ 0 then c
  else
    let c := match pkt with
      | some pkt =>
        if pkt.type = wdAddNodeMessage then addNodeMessageReceived ctx env conn pkt c
        else (c.closeSocket conn).2
      | none => (c.closeSocket conn).2
    { c with unidentifiedSocks := c.unidentifiedSocks.eraseIdx k }

/-- The peer loop of `read_sockets` for a connection of remote node `i` (its
inbound one when `server`), with the packet read from it. A packet goes to the
state machine and clears the reply timer; a failed read closes the
connection. -/
def peerSocketReady (i : Nat) (server : Bool) (pkt : Option WDPacketData) (c : WdCluster) :
    WdCluster :=
  let n := c.remote i
  let conn := if server then n.serverSocket else n.clientSocket
  if isSocketConnectionConnected conn = false then c
  else match pkt with
    | some pkt =>
      (watchdogStateMachine ctx env (.packetRcv i pkt) c).modifyRemote i fun m =>
        { m with lastSentTime := 0 }
    | none =>
      let r := c.closeSocket conn
      r.2.modifyRemote i fun m =>
        if server then { m with serverSocket := r.1 } else { m with clientSocket := r.1 }

/-- `update_successful_outgoing_cons` for remote node `i`, whose pending
connect ended (`ok` when `getsockopt` reports no error). -/
def outgoingConnectionReady (i : Nat) (ok : Bool) (c : WdCluster) : WdCluster :=
  let n := c.remote i
  if 0 < n.clientSocket.sock ∧ n.clientSocket.sockState = .waitingForConnect then
    let c := c.modifyRemote i fun m => { m with clientSocket := { m.clientSocket with tv := env.now } }
    if ok then
      watchdogStateMachine ctx env (.newOutboundConnection i)
        (c.modifyRemote i fun m => { m with clientSocket := { m.clientSocket with sockState := .connected } })
    else
      let r := c.closeSocket (c.remote i).clientSocket
      r.2.modifyRemote i fun m => { m with clientSocket := { r.1 with sockState := .error } }
  else c

/-- The network monitor of `read_sockets`: a link or address event. -/
def networkEventRead (linkEvent deleted : Bool) (c : WdCluster) : WdCluster :=
  watchdogStateMachine ctx env
    (if linkEvent then (if deleted then .nwLinkIsInactive else .nwLinkIsActive)
     else (if deleted then .nwIpIsRemoved else .nwIpIsAssigned)) c

/-! ## One turn -/

/-- One step of the loop. The timer fires once `set_timeout`'s seconds have
passed; the resend passes run when a lost connection came back; the quorum
is counted on the coordinator. -/
def step (inp : Input) (c : WdCluster) : WdCluster :=
  match inp with
  | .timeout =>
    if 0 < c.timeoutSec ∧ wdTimeDiffSec env.now c.tmSetTime ≥ c.timeoutSec then
      watchdogStateMachine ctx env .timeout { c with timeoutSec := 0 }
    else c
  | .acceptPeer fd addr =>
    { c with openFds := fd :: c.openFds,
             unidentifiedSocks := c.unidentifiedSocks ++ [⟨fd, .connected, addr, env.now⟩] }
  | .acceptIpc fd => { c with openFds := fd :: c.openFds, ipcCommandSocks := c.ipcCommandSocks ++ [fd] }
  | .outgoingConnection i ok => outgoingConnectionReady ctx env i ok c
  | .peerPacket i server pkt => peerSocketReady ctx env i server pkt c
  | .unidentifiedPacket k pkt => unidentifiedSocketReady ctx env k pkt c
  | .ipcFrame sock frame =>
    if sock ∈ c.ipcCommandSocks ∧ 0 < sock then ipcCommandSockReady ctx env sock frame c else c
  | .notifyFrame sock frame =>
    if sock ∈ c.notifyClients ∧ 0 < sock then notifySockReady ctx env sock frame c else c
  | .networkEvent linkEvent deleted => networkEventRead ctx env linkEvent deleted c
  | .commandTimeouts => checkForCurrentCommandTimeout ctx env c
  | .lostConnections =>
    let r := serviceLostConnections ctx env c
    if r.1 then serviceIpcCommands ctx env (serviceInternalCommand ctx env r.2) else r.2
  | .unreachableNodes => serviceUnreachableNodes ctx env c
  | .quorum => if c.localIs .coordinator then updateQuorumStatus ctx env c else c
  | .expiredFailovers => serviceExpiredFailovers ctx env c

/-- `watchdog_main` before its loop: initialize, check the interfaces,
connect to every peer and enter loading. With no peer configured the process
has already ended. -/
def watchdogStartup (escalatedInShm needsCleanup : Bool) : WdCluster :=
  let c := wdClusterInitialize env ctx.cfg escalatedInShm needsCleanup
  if c.exited then c
  else if env.interfaceAvailable = false then c.fatal
  else
    let c := (List.range c.remoteNodeCount).foldl (fun c i => (connectToNode env i c).2) c
    setState ctx env .loading c

end

/-- The states of a watchdog process: it starts with the escalation flag
clear, or cleared by the resign of a restart after a crash, and then takes
steps, each in a world of its own, until it exits. An accepted descriptor is
one the process does not hold. -/
inductive Reach : WdCluster → Prop
  | init (ctx : Ctx) (env : Env) (escalatedInShm needsCleanup : Bool)
      (h : escalatedInShm = false ∨ needsCleanup = true) :
      Reach (watchdogStartup ctx env escalatedInShm needsCleanup)
  | step {c : WdCluster} (ctx : Ctx) (env : Env) (inp : Input) (hc : Reach c)
      (hlive : c.exited = false) (hfresh : inp.freshIn c.openFds = true) :
      Reach (step ctx env inp c)

/-! ## Runs -/

/-- The state a list of inputs leads to, each input in its own world. -/
def runInputs (ctx : Ctx) : WdCluster → List (Env × Input) → WdCluster
  | c, [] => c
  | c, (env, inp) :: rest => runInputs ctx (step ctx env inp c) rest

/-- Every input of the list finds the process alive, and accepts only
descriptors `accept` can return. -/
def runOk (ctx : Ctx) : WdCluster → List (Env × Input) → Bool
  | _, [] => true
  | c, (env, inp) :: rest => !c.exited && inp.freshIn c.openFds && runOk ctx (step ctx env inp c) rest

theorem Reach.runInputs {ctx : Ctx} {c : WdCluster} {l : List (Env × Input)} (h : Reach c)
    (hl : runOk ctx c l = true) : Reach (runInputs ctx c l) := by
  induction l generalizing c with
  | nil => exact h
  | cons x rest ih =>
    obtain ⟨env, inp⟩ := x
    simp only [runOk, Bool.and_eq_true, Bool.not_eq_true'] at hl
    exact ih (Reach.step ctx env inp h hl.1.1 hl.1.2) hl.2

/-! ## Sample runs

The runs below start the sample node of two peers in a world with a small
wire format: the connect to remote node `i` gets descriptor `10 + i` at once,
a node information message `[s, p]` announces node1 in state `s` with
priority `p`, an IPC frame `[k, ..]` carries the shared key `k`, and a
failover indication `[s]` the function state `s`. -/

/-- The sample world of the runs at second `now`. -/
def sampleEnv (now : Int) : Env :=
  { quietEnv now with
    connectResult := fun i => ((10 + i : Nat), true),
    parseNodeInfo := fun d => match d with
      | [s, p] => some ({ initialRemoteNode ⟨"node1", 9000, 9999⟩ with
          state := (s.toNat : Int), wdPriority := (p.toNat : Int) }, none)
      | _ => none,
    parseIpcKeys := fun d => some (d.head?.map (·.toUInt32), none),
    parseFailoverFuncState := fun d => some (d.head?.map fun b => (b.toNat : Int)) }

/-- A packet of type `t` with command id `id` and data `d`. -/
def samplePacket (t : MsgType) (id : UInt32) (d : List UInt8) : WDPacketData := ⟨t, id, d.length, d⟩

/-- The sample node after start-up at second 100: both peers are connected
and have been sent an `AddNode`. -/
def runStart : WdCluster := watchdogStartup sampleCtx (sampleEnv 100) false false

/-- Its timers take it through joining and initializing: at second 111 it
stands for coordinator, with command 7 sent to both peers. -/
def runStanding : WdCluster :=
  runInputs sampleCtx runStart [(sampleEnv 105, .timeout), (sampleEnv 110, .timeout), (sampleEnv 111, .timeout)]

theorem reach_runStanding : Reach runStanding :=
  (Reach.init sampleCtx (sampleEnv 100) false false (.inl rfl)).runInputs (by decide)

/-- Both peers accept the candidacy and then the declaration: at second 113
the node is the master, and remote node 0 has joined it as a standby. -/
def runMaster : WdCluster :=
  runInputs sampleCtx runStanding
    [(sampleEnv 112, .peerPacket 0 false (some (samplePacket wdAcceptMessage 7 []))),
     (sampleEnv 112, .peerPacket 1 false (some (samplePacket wdAcceptMessage 7 []))),
     (sampleEnv 112, .peerPacket 0 false (some (samplePacket wdAcceptMessage 9 []))),
     (sampleEnv 112, .peerPacket 1 false (some (samplePacket wdAcceptMessage 9 []))),
     (sampleEnv 113, .peerPacket 0 false (some (samplePacket wdJoinCoordinatorMessage 0 [])))]

theorem reach_runMaster : Reach runMaster := reach_runStanding.runInputs (by decide)

example : runMaster.localIs .coordinator ∧ runMaster.clusterMasterInfo.masterNode = some 0 ∧
    runMaster.clusterMasterInfo.standbyNodes = [some 1, none] := by decide

/-- Its timers, and an information message from remote node 0 as coordinator,
make the node a standby of remote node 0 at second 111. -/
def runStandby : WdCluster :=
  runInputs sampleCtx runStart
    [(sampleEnv 105, .timeout),
     (sampleEnv 106, .peerPacket 0 false (some (samplePacket wdInfoMessage 0 [4, 1]))),
     (sampleEnv 110, .timeout), (sampleEnv 111, .timeout)]

theorem reach_runStandby : Reach runStandby :=
  (Reach.init sampleCtx (sampleEnv 100) false false (.inl rfl)).runInputs (by decide)

example : runStandby.localIs .standby ∧ runStandby.clusterMasterInfo.masterNode = some 1 := by decide

/-- The standby advertises the quorum status 0 that `wd_cluster_initialize`
left in its node record, while its own copy is -1: only
`update_quorum_status` writes both, and a standby never runs it. Its two
standby counts agree. -/
theorem runStandby_advertises_stale_quorum :
    Reach runStandby ∧ runStandby.exited = false ∧
      runStandby.localNode.quorumStatus = 0 ∧ runStandby.quorumStatus = -1 ∧
      runStandby.localNode.standbyNodesCount = runStandby.clusterMasterInfo.standbyNodesCount :=
  ⟨reach_runStandby, by decide⟩

/-! ## Runs that diverge -/

/-- An accept of remote node 1 for the candidacy, command 7. -/
def acceptOfNode1 : Env × Input :=
  (sampleEnv 112, .peerPacket 1 false (some (samplePacket wdAcceptMessage 7 [])))

/-- The standing node after remote node 1's accept. -/
def runAcceptedOnce : WdCluster := runInputs sampleCtx runStanding [acceptOfNode1]

/-- Remote node 1 accepts the candidacy twice and node 0 never answers. The
first accept clears node 0's slot, the second is counted again, and command 7
finishes as replied by all: the node becomes coordinator. -/
theorem repeated_accept_finishes_candidacy :
    Reach (runInputs sampleCtx runAcceptedOnce [acceptOfNode1]) ∧
      (runAcceptedOnce.clusterCommands.getD 1 default).nodeResults.map (·.cmdState) =
        [.init, .replied] ∧
      (runAcceptedOnce.clusterCommands.getD 1 default).commandSendToCount = 2 ∧
      (runAcceptedOnce.clusterCommands.getD 1 default).commandReplyFromCount = 1 ∧
      (runInputs sampleCtx runAcceptedOnce [acceptOfNode1]).localIs .coordinator :=
  ⟨(reach_runStanding.runInputs (by decide)).runInputs (by decide), by decide⟩

/-- From standing at second 111 (command 7) the node votes for remote node 0,
accepts its declaration, and stands again at second 113 (command 11). -/
def runStandingAgain : WdCluster :=
  runInputs sampleCtx runStanding
    [(sampleEnv 112, .peerPacket 0 false (some (samplePacket wdInfoMessage 0 [1, 5]))),
     (sampleEnv 112, .peerPacket 0 false (some (samplePacket wdStandForCoordinatorMessage 0 []))),
     (sampleEnv 112, .peerPacket 0 false (some (samplePacket wdDeclareCoordinatorMessage 0 []))),
     (sampleEnv 113, .timeout)]

/-- At second 115 command 7, the candidacy of the earlier round, times out and
makes the node coordinator, while command 11, the current round's, still
waits for answers. -/
theorem stale_candidacy_makes_coordinator :
    Reach (runInputs sampleCtx runStandingAgain [(sampleEnv 115, .commandTimeouts)]) ∧
      runStandingAgain.localIs .standForCoordinator ∧
      (runStandingAgain.clusterCommands.map fun cmd => (cmd.commandPacket.type, cmd.commandPacket.commandId)) =
        [(wdReqInfoMessage, 4), (wdStandForCoordinatorMessage, 7), (wdStandForCoordinatorMessage, 11)] ∧
      (runInputs sampleCtx runStandingAgain [(sampleEnv 115, .commandTimeouts)]).localIs .coordinator ∧
      ((runInputs sampleCtx runStandingAgain [(sampleEnv 115, .commandTimeouts)]).clusterCommands.map
        fun cmd => (cmd.commandPacket.commandId, cmd.commandStatus)) =
        [(11, .inProgress), (13, .inProgress)] :=
  ⟨(reach_runStanding.runInputs (by decide)).runInputs (by decide), by decide⟩

/-- In the node standing for the second time, command 7 of the earlier round
and command 11 of this one, each finished by a timeout, move the node alike:
both make it coordinator. -/
theorem candidacies_of_two_rounds_agree :
    let old : WDCommandData :=
      { runStandingAgain.clusterCommands.getD 1 default with commandStatus := .finishedTimeout }
    let new : WDCommandData :=
      { runStandingAgain.clusterCommands.getD 2 default with commandStatus := .finishedTimeout }
    (old.commandPacket.type = new.commandPacket.type ∧ old.commandStatus = new.commandStatus ∧ old ≠ new) ∧
      (watchdogStateMachine sampleCtx (sampleEnv 115) (.commandFinished none none new) runStandingAgain).localIs
        .coordinator ∧
      watchdogStateMachine sampleCtx (sampleEnv 115) (.commandFinished none none old) runStandingAgain =
        watchdogStateMachine sampleCtx (sampleEnv 115) (.commandFinished none none new) runStandingAgain :=
  ⟨by decide, by decide,
    commandFinished_decided_by_type_and_status sampleCtx (sampleEnv 115) none none _ _ _ (by decide) rfl⟩

/-- The master after IPC client 20 sent the frame `frame`. -/
def ipcRequestToMaster (frame : MsgType × List UInt8) : WdCluster :=
  runInputs sampleCtx runMaster [(sampleEnv 114, .acceptIpc 20), (sampleEnv 114, .ipcFrame 20 (some frame))]

/-- On the master, a failover indication carrying shared key 0, not the key 7
of shared memory, is handled: the start is announced to the peers, which
takes a command id, and the client gets an OK result. A failover command with
the same payload is refused with a bad result. -/
theorem unkeyed_failover_indication_is_handled :
    Reach (ipcRequestToMaster (sampleCodes.failoverIndication, [0])) ∧
      (ipcRequestToMaster (sampleCodes.failoverIndication, [0])).ipcResults.map (fun r => (r.1, r.2.type)) =
        [(20, sampleCodes.cmdResultOk)] ∧
      (ipcRequestToMaster (sampleCodes.failoverIndication, [0])).nextCommandID = runMaster.nextCommandID + 1 ∧
      (ipcRequestToMaster (sampleCodes.failoverCommand, [0])).ipcResults.map (fun r => (r.1, r.2.type)) =
        [(20, sampleCodes.cmdResultBad)] ∧
      (ipcRequestToMaster (sampleCodes.failoverCommand, [0])).nextCommandID = runMaster.nextCommandID :=
  ⟨reach_runMaster.runInputs (by decide), by decide⟩

/-- The standby after forwarding a failover command of IPC client 20 to the
master as command 9. -/
def runForwarded : WdCluster :=
  runInputs sampleCtx runStandby
    [(sampleEnv 112, .acceptIpc 20), (sampleEnv 112, .ipcFrame 20 (some (sampleCodes.failoverCommand, [7])))]

/-- The master's accept of command 9. -/
def masterAccept : Env × Input :=
  (sampleEnv 113, .peerPacket 0 false (some (samplePacket wdAcceptMessage 9 [])))

/-- The master's accept of the forwarded failover arrives twice: each writes a
result frame to the client, and the command stays in `ipc_commands`. -/
theorem forwarded_failover_answered_twice :
    Reach (runInputs sampleCtx runForwarded [masterAccept, masterAccept]) ∧
      runForwarded.ipcCommands.map (fun cmd => (cmd.commandPacket.commandId, cmd.sourceIPCSocket)) =
        [(9, 20)] ∧
      (runInputs sampleCtx runForwarded [masterAccept, masterAccept]).localIs .standby ∧
      (runInputs sampleCtx runForwarded [masterAccept, masterAccept]).ipcResults.map (·.1) = [20, 20] ∧
      (runInputs sampleCtx runForwarded [masterAccept, masterAccept]).ipcCommands.map
        (fun cmd => (cmd.commandPacket.commandId, cmd.sourceIPCSocket)) = [(9, 20)] :=
  ⟨(reach_runStandby.runInputs (by decide)).runInputs (by decide), by decide⟩

/-- The master after its standby, remote node 0, restarted and announced
itself in state loading with an `AddNode` on a new connection, and the quorum
was counted. -/
def runStandbyRestarted : WdCluster :=
  runInputs sampleCtx runMaster
    [(sampleEnv 114, .acceptPeer 30 "node1"),
     (sampleEnv 114, .unidentifiedPacket 0 (some (samplePacket wdAddNodeMessage 0 [1, 0]))),
     (sampleEnv 114, .quorum)]

/-- The restarted standby's record takes the new state, the standby list
keeps it, and the quorum holds on it. -/
theorem restarted_standby_stays_listed :
    Reach runStandbyRestarted ∧ runStandbyRestarted.localIs .coordinator ∧
      runStandbyRestarted.clusterMasterInfo.standbyNodes = [some 1, none] ∧
      (runStandbyRestarted.remote 0).state = WDStates.loading.toInt ∧ runStandbyRestarted.quorumStatus = 1 :=
  ⟨reach_runMaster.runInputs (by decide), by decide⟩

/-- The node after IPC client 20 registered for notifications. -/
def runRegistered : WdCluster :=
  runInputs sampleCtx runStart
    [(sampleEnv 101, .acceptIpc 20),
     (sampleEnv 101, .ipcFrame 20 (some (sampleCodes.registerForNotification, [])))]

/-- The registered socket is in `notify_clients`, and `read_sockets` has
closed it as the socket of a finished command. -/
theorem registered_socket_is_closed :
    Reach runRegistered ∧ 20 ∈ runRegistered.notifyClients ∧ 20 ∉ runRegistered.openFds :=
  ⟨(Reach.init sampleCtx (sampleEnv 100) false false (.inl rfl)).runInputs (by decide), by decide⟩

end pgpool.watchdog
