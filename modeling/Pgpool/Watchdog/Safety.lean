-- What every state of a watchdog process keeps. The coordinator invariant
-- holds after start-up and after every turn of the loop, so in every state a
-- live process reaches: an escalated node is the coordinator and the master
-- with a quorum, the VIP is held only while escalated, proposals, standbys
-- and a local master belong to the coordinator, and a standby follows a
-- configured peer.
import Pgpool.Watchdog.Loop
import Pgpool.Watchdog.MachineInvariant

namespace pgpool.watchdog

section
variable (ctx : Ctx) (env : Env) {n : Nat} {c : WdCluster}

/-- A live good watchdog has the number of peers it started with. -/
theorem Good.count (h : Good n c) (hl : c.exited = false) : c.remoteNodeCount = n := by
  rcases h with h | h
  · simp [hl] at h
  · exact h.2

/-! ## The IPC commands -/

theorem good_fireNodeStatusEvent (nodeID nodeStatus : Int) (h : Good n c) :
    Good n (fireNodeStatusEvent ctx env nodeID nodeStatus c).2 := by
  unfold fireNodeStatusEvent
  dsimp only
  split
  · exact h
  · rename_i w _
    rcases w with _ | i <;> refine .ite_map Prod.snd ?_ (.ite_map Prod.snd ?_ h) <;> dsimp only
    · exact good_watchdogStateMachine ctx env .localNodeLost trivial h
    · exact good_watchdogStateMachine ctx env .localNodeFound trivial h
    · exact good_watchdogStateMachine ctx env (.remoteNodeLost i) trivial h
    · exact good_watchdogStateMachine ctx env (.remoteNodeFound i) trivial h

theorem good_processIPCNodeStatusChangeCommand (cmd : WDCommandData) (h : Good n c) :
    Good n (processIPCNodeStatusChangeCommand ctx env cmd c).2.2 := by
  unfold processIPCNodeStatusChangeCommand
  split_ifs
  · exact h
  · split
    · exact h
    · exact good_fireNodeStatusEvent ctx env _ _ h

theorem core_processIPCNodeListCommand (cmd : WDCommandData) :
    (processIPCNodeListCommand ctx env cmd c).2.2.core = c.core := by
  unfold processIPCNodeListCommand
  split_ifs
  · rfl
  · split
    · exact core_writeIpcCommandWithResultData env _ _ _ c
    · rfl

theorem core_processIPCGetRuntimeVariableValueRequest (cmd : WDCommandData) :
    (processIPCGetRuntimeVariableValueRequest ctx env cmd c).2.2.core = c.core := by
  unfold processIPCGetRuntimeVariableValueRequest
  split
  · rfl
  · split
    · rfl
    · rfl
    · dsimp only
      repeat' split
      all_goals first | rfl | exact core_writeIpcCommandWithResultData env _ _ _ c

theorem core_forwardIpcCommand (sendTo : Option Nat) (cmd : WDCommandData) :
    (forwardIpcCommand ctx env sendTo cmd c).2.2.core = c.core :=
  core_sendCommandPacketToRemoteNodes ctx env _ true _

theorem good_processIPCFailoverCommand (cmd : WDCommandData) (h : Good n c) :
    Good n (processIPCFailoverCommand ctx env cmd c).2.2 := by
  unfold processIPCFailoverCommand
  split_ifs
  · exact good_processFailoverCommandOnCoordinator ctx env cmd h
  · exact h.of_core (core_forwardIpcCommand ctx env _ cmd)
  · exact h

theorem core_processIPCOnlineRecovery (cmd : WDCommandData) :
    (processIPCOnlineRecovery ctx env cmd c).2.2.core = c.core := by
  unfold processIPCOnlineRecovery
  split_ifs
  · rfl
  · exact core_forwardIpcCommand ctx env none cmd
  · rfl

theorem core_processIPCDataRequestFromMaster (cmd : WDCommandData) :
    (processIPCDataRequestFromMaster ctx env cmd c).2.2.core = c.core := by
  unfold processIPCDataRequestFromMaster
  split_ifs
  · exact core_forwardIpcCommand ctx env _ cmd
  · rfl
  · rfl

theorem core_failoverIndication (type : MsgType) : (failoverIndication ctx env type c).2.core = c.core := by
  unfold failoverIndication
  split_ifs
  · exact (sendsOnly_sendMessageOfType ctx env none type none c).core
  · rfl
  · rfl

theorem core_processIPCFailoverIndication (cmd : WDCommandData) :
    (processIPCFailoverIndication ctx env cmd c).2.2.core = c.core := by
  unfold processIPCFailoverIndication
  refine (core_replyToFailoveCommand ctx env _ _ _).trans ?_
  dsimp only
  split_ifs <;> first | rfl | exact core_failoverIndication ctx env _

theorem good_processIPCCommand (cmd : WDCommandData) (h : Good n c) :
    Good n (processIPCCommand ctx env cmd c).2.2 := by
  unfold processIPCCommand
  let f (r : IpcCmdPreocessRes × WDCommandData × WdCluster) := r.2.2
  exact .ite_map f h (.ite_map f (good_processIPCNodeStatusChangeCommand ctx env _ h)
    (.ite_map f (h.of_core rfl) (.ite_map f (h.of_core (core_processIPCNodeListCommand ctx env _))
    (.ite_map f (good_processIPCFailoverCommand ctx env _ h)
    (.ite_map f (h.of_core (core_processIPCOnlineRecovery ctx env _))
    (.ite_map f (h.of_core (core_processIPCFailoverIndication ctx env _))
    (.ite_map f (h.of_core (core_processIPCDataRequestFromMaster ctx env _))
    (.ite_map f (h.of_core (core_processIPCGetRuntimeVariableValueRequest ctx env _)) h))))))))

theorem good_readIpcSocketAndProcess (sock : Int) (frame : Option (MsgType × List UInt8))
    (h : Good n c) : Good n (readIpcSocketAndProcess ctx env sock frame c).2 := by
  unfold readIpcSocketAndProcess
  split
  · exact h
  · rename_i type data
    have hr := good_processIPCCommand ctx env
      (createCommandObject env ⟨type, 0, data.length, data⟩ .ipc 0 sock) h
    dsimp only
    generalize processIPCCommand ctx env _ c = r at hr ⊢
    split
    · exact hr.of_core rfl
    · exact hr
    · exact hr.of_core (core_writeIpcCommandWithResultData env _ _ _ _)

theorem good_ipcCommandSockReady (sock : Int) (frame : Option (MsgType × List UInt8)) (h : Good n c) :
    Good n (ipcCommandSockReady ctx env sock frame c) := by
  have hr := good_readIpcSocketAndProcess ctx env sock frame h
  unfold ipcCommandSockReady
  generalize readIpcSocketAndProcess ctx env sock frame c = r at hr ⊢
  refine .ite ?_ hr
  dsimp only
  split
  · exact hr.of_core rfl
  · exact hr.of_core rfl

theorem good_notifySockReady (sock : Int) (frame : Option (MsgType × List UInt8)) (h : Good n c) :
    Good n (notifySockReady ctx env sock frame c) := by
  have hr := good_readIpcSocketAndProcess ctx env sock frame h
  unfold notifySockReady
  generalize readIpcSocketAndProcess ctx env sock frame c = r at hr ⊢
  exact .ite (hr.of_core rfl) hr

/-! ## What select finds ready -/

theorem core_rejectUnidentified (conn : SocketConnection) (pkt : WDPacketData) :
    (rejectUnidentified env conn pkt c).core = c.core :=
  (WdCluster.core_closeSocket _ _).trans ((sendsOnly_sendMessageToConnection env conn _ _).core.trans
    (sendsOnly_getMinimumMessage wdRejectMessage (some pkt) c).core)

theorem good_addNodeMessageReceived (conn : SocketConnection) (pkt : WDPacketData)
    (hn : c.remoteNodeCount = n) (h : Good n c) : Good n (addNodeMessageReceived ctx env conn pkt c) := by
  have hr := h.of_core (core_rejectUnidentified env conn pkt)
  unfold addNodeMessageReceived
  dsimp only
  generalize (if pkt.data = [] ∨ pkt.len ≤ 0 then none else env.parseNodeInfo pkt.data) = parsed
  rcases parsed with _ | ⟨tempNode, authkey⟩
  · exact hr
  dsimp only
  generalize hf : (if verifyAuthhashForNode ctx env tempNode authkey = true then
    List.findIdx? _ c.remoteNodes else none) = found
  rcases found with _ | i
  · exact hr
  have hi : i < n := by
    split_ifs at hf
    exact hn ▸ (List.findIdx?_eq_some_iff_getElem.1 hf).1
  exact good_watchdogStateMachine ctx env (.packetRcv i pkt) hi
    (good_modifyRemote i _ (h.of_core (WdCluster.core_closeSocket _ _)))

theorem good_unidentifiedSocketReady (k : Nat) (pkt : Option WDPacketData)
    (hn : c.remoteNodeCount = n) (h : Good n c) : Good n (unidentifiedSocketReady ctx env k pkt c) := by
  unfold unidentifiedSocketReady
  dsimp only
  split_ifs
  · exact h
  · refine Good.of_core (c := match pkt with
      | some pkt => if pkt.type = wdAddNodeMessage then
          addNodeMessageReceived ctx env (c.unidentifiedSocks.getD k default) pkt c
        else (c.closeSocket (c.unidentifiedSocks.getD k default)).2
      | none => (c.closeSocket (c.unidentifiedSocks.getD k default)).2) rfl ?_
    split
    · split_ifs
      · exact good_addNodeMessageReceived ctx env _ _ hn h
      · exact h.of_core (WdCluster.core_closeSocket _ _)
    · exact h.of_core (WdCluster.core_closeSocket _ _)

/-- A connection `select` can find ready belongs to a configured peer: past
the list, `remote` gives the default record, whose sockets are closed. -/
theorem lt_remoteNodeCount_of_connected {i : Nat} {server : Bool}
    (h : isSocketConnectionConnected
      (if server then (c.remote i).serverSocket else (c.remote i).clientSocket) = true) :
    i < c.remoteNodeCount := by
  by_contra hi
  have hd : c.remote i = default := by
    simp [WdCluster.remote, List.getElem?_eq_none (Nat.le_of_not_lt hi)]
  rw [hd] at h
  cases server <;> exact absurd h (by decide)

theorem good_peerSocketReady (i : Nat) (server : Bool) (pkt : Option WDPacketData)
    (hn : c.remoteNodeCount = n) (h : Good n c) : Good n (peerSocketReady ctx env i server pkt c) := by
  unfold peerSocketReady
  dsimp only
  by_cases hc : isSocketConnectionConnected
      (if server then (c.remote i).serverSocket else (c.remote i).clientSocket) = false
  · rw [if_pos hc]
    exact h
  · rw [if_neg hc]
    have hi : i < n := hn ▸ lt_remoteNodeCount_of_connected (by simpa using hc)
    cases pkt
    · exact good_modifyRemote i _ (h.of_core (WdCluster.core_closeSocket _ _))
    · exact good_modifyRemote i _ (good_watchdogStateMachine ctx env (.packetRcv i _) hi h)

theorem good_outgoingConnectionReady (i : Nat) (ok : Bool) (h : Good n c) :
    Good n (outgoingConnectionReady ctx env i ok c) := by
  unfold outgoingConnectionReady
  dsimp only
  split_ifs
  · exact good_watchdogStateMachine ctx env (.newOutboundConnection i) trivial
      (good_modifyRemote i _ (good_modifyRemote i _ h))
  · exact good_modifyRemote i _ ((good_modifyRemote i _ h).of_core (WdCluster.core_closeSocket _ _))
  · exact h

theorem good_networkEventRead (linkEvent deleted : Bool) (h : Good n c) :
    Good n (networkEventRead ctx env linkEvent deleted c) := by
  unfold networkEventRead
  cases linkEvent <;> cases deleted <;> exact good_watchdogStateMachine ctx env _ trivial h

/-! ## One turn, and the start-up -/

/-- One turn of the loop keeps a live watchdog good. -/
theorem good_step (inp : Input) (h : Good n c) (hl : c.exited = false) : Good n (step ctx env inp c) := by
  have hn := h.count hl
  cases inp with
  | timeout => exact .ite (good_watchdogStateMachine ctx env .timeout trivial (h.of_core rfl)) h
  | acceptPeer fd addr => exact h.of_core rfl
  | acceptIpc fd => exact h.of_core rfl
  | outgoingConnection i ok => exact good_outgoingConnectionReady ctx env i ok h
  | peerPacket i server pkt => exact good_peerSocketReady ctx env i server pkt hn h
  | unidentifiedPacket k pkt => exact good_unidentifiedSocketReady ctx env k pkt hn h
  | ipcFrame sock frame => exact .ite (good_ipcCommandSockReady ctx env sock frame h) h
  | notifyFrame sock frame => exact .ite (good_notifySockReady ctx env sock frame h) h
  | networkEvent linkEvent deleted => exact good_networkEventRead ctx env linkEvent deleted h
  | commandTimeouts => exact good_checkForCurrentCommandTimeout ctx env h
  | lostConnections =>
    have hr := good_serviceLostConnectionsLoop ctx env (List.range c.remoteNodeCount) (false, c) h
    exact .ite (hr.of_core ((core_serviceIpcCommands ctx env _).trans (core_serviceInternalCommand ctx env))) hr
  | unreachableNodes => exact good_serviceUnreachableNodesLoop ctx env _ h
  | quorum => exact .ite (good_updateQuorumStatus ctx env h) h
  | expiredFailovers => exact good_serviceExpiredFailovers ctx env h

/-- The coordinator view after `wd_cluster_initialize`, when the escalation
flag starts clear or the restart resigns: dead, not escalated, no master, no
standbys, no VIP, no quorum, no proposals, and exited when no peer is
configured. -/
theorem core_wdClusterInitialize (cfg : PoolConfig) {escalatedInShm needsCleanup : Bool}
    (h : escalatedInShm = false ∨ needsCleanup = true) :
    (wdClusterInitialize env cfg escalatedInShm needsCleanup).core =
      ⟨WDStates.dead.toInt, false, none, 0, false, -1, [], cfg.wdRemoteNodes.length,
        decide (cfg.wdRemoteNodes = [])⟩ := by
  unfold wdClusterInitialize
  split_ifs with hc
  · rw [core_resignFromEscalatedNode]
    split_ifs <;> simp_all [WdCluster.core, WdCluster.getMasterWatchdogNode, WdCluster.remoteNodeCount]
  · obtain rfl : escalatedInShm = false := h.resolve_right hc
    simp [WdCluster.core, WdCluster.getMasterWatchdogNode, WdCluster.remoteNodeCount]

/-- The initialized cluster is good when the escalation flag starts clear or
the restart resigns. -/
theorem good_wdClusterInitialize (cfg : PoolConfig) {escalatedInShm needsCleanup : Bool}
    (h : escalatedInShm = false ∨ needsCleanup = true) :
    Good cfg.wdRemoteNodes.length (wdClusterInitialize env cfg escalatedInShm needsCleanup) := by
  unfold Good
  rw [core_wdClusterInitialize env cfg h]
  exact Or.inr ⟨Inv.of_masterless rfl rfl rfl (show (0 : Int) ≤ 0 by decide) rfl
    (show (-1 : Int) ≤ -1 by decide) (show WDStates.dead.toInt ≠ WDStates.standby.toInt by decide), rfl⟩

theorem wdClusterInitialize_state (cfg : PoolConfig) (escalatedInShm needsCleanup : Bool) :
    (wdClusterInitialize env cfg escalatedInShm needsCleanup).localNode.state = WDStates.dead.toInt := by
  unfold wdClusterInitialize
  split_ifs <;> simp

theorem sendsOnly_connectAll (is : List Nat) (c : WdCluster) :
    SendsOnly c (is.foldl (fun c i => (connectToNode env i c).2) c) :=
  List.foldlRecOn (motive := SendsOnly c) _ _ _ (SendsOnly.refl c)
    fun _ hx i _ => hx.trans (sendsOnly_connectToNode env i _)

/-- Start-up leaves a good watchdog, with the peers of the configuration. -/
theorem good_watchdogStartup {escalatedInShm needsCleanup : Bool}
    (h : escalatedInShm = false ∨ needsCleanup = true) :
    Good ctx.cfg.wdRemoteNodes.length (watchdogStartup ctx env escalatedInShm needsCleanup) := by
  have hi := good_wdClusterInitialize env ctx.cfg h
  have hd : ¬ (wdClusterInitialize env ctx.cfg escalatedInShm needsCleanup).localIs .coordinator := by
    simp [WdCluster.localIs, wdClusterInitialize_state]
  unfold watchdogStartup
  generalize wdClusterInitialize env ctx.cfg escalatedInShm needsCleanup = c at hi hd ⊢
  dsimp only
  split_ifs
  · exact hi
  · exact good_fatal
  · have hs := sendsOnly_connectAll env (List.range c.remoteNodeCount) c
    exact good_setState ctx env (hi.of_sendsOnly hs) (show ¬ _ from hs.localIs_iff.not.2 hd)

end

/-! ## Every reachable state -/

/-- Every state a watchdog process reaches is good, for the number of peers
its start-up found. -/
theorem Reach.good {c : WdCluster} (r : Reach c) : ∃ n, Good n c := by
  induction r with
  | init ctx env _ _ h => exact ⟨_, good_watchdogStartup ctx env h⟩
  | step ctx env inp _ hl _ ih =>
    obtain ⟨n, g⟩ := ih
    exact ⟨n, good_step ctx env inp g hl⟩

/-- The invariant read off a live reachable state. -/
theorem Reach.inv {c : WdCluster} (r : Reach c) (hl : c.exited = false) : Inv c.core := by
  obtain ⟨n, g | g⟩ := r.good
  · simp [hl] at g
  · exact g.1

/-! ## The laws of the coordinator -/

/-- Between two turns of the loop of a live watchdog, an escalated node is
the coordinator and the master and has a quorum, and the VIP is held only
while escalated. -/
theorem escalated_node_is_master_with_quorum {c : WdCluster} (r : Reach c) (hl : c.exited = false) :
    (c.localNode.escalated = true →
      c.localIs .coordinator ∧ c.getMasterWatchdogNode = some 0 ∧ 0 ≤ c.quorumStatus) ∧
    (c.clusterMasterInfo.holdingVip = true → c.localNode.escalated = true) :=
  have hv := r.inv hl
  ⟨hv.escalated, hv.holdingVip⟩

/-- The sample master counts its quorum in a world where the escalation
process forks: it escalates. -/
def runEscalated : WdCluster :=
  runInputs sampleCtx runMaster [({ sampleEnv 114 with escalationPid := 50 }, .quorum)]

theorem runEscalated_escalation_law :
    runEscalated.exited = false ∧ runEscalated.localNode.escalated = true ∧
      (runEscalated.localNode.escalated = true →
        runEscalated.localIs .coordinator ∧ runEscalated.getMasterWatchdogNode = some 0 ∧
          0 ≤ runEscalated.quorumStatus) ∧
      (runEscalated.clusterMasterInfo.holdingVip = true → runEscalated.localNode.escalated = true) :=
  ⟨by decide, by decide,
    escalated_node_is_master_with_quorum (reach_runMaster.runInputs (by decide)) (by decide)⟩

/-- In every state of a live watchdog, proposals, standbys and a local master
are found only on the coordinator, and a standby follows a configured peer. -/
theorem coordinator_state_only_on_coordinator {c : WdCluster} (r : Reach c) (hl : c.exited = false) :
    (c.wdCurrentFailovers ≠ [] → c.localIs .coordinator) ∧
    (0 < c.clusterMasterInfo.standbyNodesCount → c.localIs .coordinator) ∧
    (c.getMasterWatchdogNode = some 0 → c.localIs .coordinator) ∧
    (c.localIs .standby → ∃ i < c.remoteNodeCount, c.getMasterWatchdogNode = some (i + 1)) :=
  have hv := r.inv hl
  ⟨hv.failovers, hv.standbys, hv.masterLocal, fun hs =>
    have ⟨i, hi⟩ := hv.standbyMaster hs
    ⟨i, hv.masterRemote i hi, hi⟩⟩

theorem runStandby_follows_configured_peer :
    runStandby.exited = false ∧ runStandby.localIs .standby ∧
      (runStandby.wdCurrentFailovers ≠ [] → runStandby.localIs .coordinator) ∧
      (0 < runStandby.clusterMasterInfo.standbyNodesCount → runStandby.localIs .coordinator) ∧
      (runStandby.getMasterWatchdogNode = some 0 → runStandby.localIs .coordinator) ∧
      (runStandby.localIs .standby →
        ∃ i < runStandby.remoteNodeCount, runStandby.getMasterWatchdogNode = some (i + 1)) :=
  ⟨by decide, by decide, coordinator_state_only_on_coordinator reach_runStandby (by decide)⟩

/-! ## The master the IPC handlers name -/

/-- In a live watchdog the failover command and the data request, when they
forward to the master, forward to a configured peer: they forward only from
a standby, and a standby follows one. -/
theorem ipc_forwards_to_configured_master (ctx : Ctx) (env : Env) (cmd : WDCommandData) {c : WdCluster}
    (r : Reach c) (hl : c.exited = false) :
    (processIPCFailoverCommandNamesMaster c = true → ∃ i < c.remoteNodeCount,
      processIPCFailoverCommand ctx env cmd c = forwardIpcCommand ctx env (some (i + 1)) cmd c) ∧
    (processIPCDataRequestFromMasterNamesMaster c = true → ∃ i < c.remoteNodeCount,
      processIPCDataRequestFromMaster ctx env cmd c = forwardIpcCommand ctx env (some (i + 1)) cmd c) := by
  have hs : c.localIs .standby → ∃ i < c.remoteNodeCount, c.getMasterWatchdogNode = some (i + 1) :=
    fun h => have ⟨i, hi⟩ := (r.inv hl).standbyMaster h; ⟨i, (r.inv hl).masterRemote i hi, hi⟩
  refine ⟨fun h => ?_, fun h => ?_⟩
  · have hsb : c.localIs .standby := by
      simp only [processIPCFailoverCommandNamesMaster, Bool.and_eq_true, decide_eq_true_eq] at h
      exact h.2
    obtain ⟨i, hi, hm⟩ := hs hsb
    exact ⟨i, hi, by rw [processIPCFailoverCommand_of_namesMaster ctx env cmd c h, hm]⟩
  · obtain ⟨i, hi, hm⟩ := hs (by simpa [processIPCDataRequestFromMasterNamesMaster] using h)
    exact ⟨i, hi, by rw [processIPCDataRequestFromMaster_of_namesMaster ctx env cmd c h, hm]⟩

/-- The standby of the sample run forwards both to node 1, its master. -/
theorem runStandby_forwards_to_configured_master :
    Reach runStandby ∧ runStandby.exited = false ∧
      (processIPCFailoverCommandNamesMaster runStandby = true → ∃ i < runStandby.remoteNodeCount,
        processIPCFailoverCommand sampleCtx (sampleEnv 107) default runStandby =
          forwardIpcCommand sampleCtx (sampleEnv 107) (some (i + 1)) default runStandby) ∧
      (processIPCDataRequestFromMasterNamesMaster runStandby = true → ∃ i < runStandby.remoteNodeCount,
        processIPCDataRequestFromMaster sampleCtx (sampleEnv 107) default runStandby =
          forwardIpcCommand sampleCtx (sampleEnv 107) (some (i + 1)) default runStandby) :=
  have hl : runStandby.exited = false := by decide
  ⟨reach_runStandby, hl, ipc_forwards_to_configured_master sampleCtx (sampleEnv 107) default reach_runStandby hl⟩

/-- The sample node at second 112, once both peers accepted its candidacy:
the coordinator, with its declaration (command 9) still out and no master. -/
def runDeclaring : WdCluster :=
  runInputs sampleCtx runStanding
    [(sampleEnv 112, .peerPacket 0 false (some (samplePacket wdAcceptMessage 7 []))),
     (sampleEnv 112, .peerPacket 1 false (some (samplePacket wdAcceptMessage 7 [])))]

/-- An online recovery request of IPC client 20, with the shared key, reaches
the coordinator in that window: the handler forwards it to both peers as
command 11 and then names a master that is not set. -/
theorem online_recovery_names_unset_master :
    Reach runDeclaring ∧ runDeclaring.exited = false ∧ runDeclaring.localIs .coordinator ∧
      runDeclaring.getMasterWatchdogNode = none ∧
      processIPCOnlineRecoveryNamesMaster runDeclaring = true ∧
      Reach (runInputs sampleCtx runDeclaring
        [(sampleEnv 112, .acceptIpc 20),
         (sampleEnv 112, .ipcFrame 20 (some (sampleCodes.onlineRecoveryCommand, [7])))]) ∧
      (runInputs sampleCtx runDeclaring
        [(sampleEnv 112, .acceptIpc 20),
         (sampleEnv 112, .ipcFrame 20 (some (sampleCodes.onlineRecoveryCommand, [7])))]).ipcCommands.map
        (fun cmd => (cmd.commandPacket.commandId, cmd.sourceIPCSocket)) = [(11, 20)] :=
  have hd : Reach runDeclaring := reach_runStanding.runInputs (by decide)
  ⟨hd, by decide, by decide, by decide, by decide, hd.runInputs (by decide), by decide⟩

/-! ## The states peers report -/

/-- Node information and beacons that parse leave the sender's record with
the state field of the payload, whatever integer it is: nothing checks it
against the states of the watchdog. -/
theorem peer_state_recorded_unchecked (ctx : Ctx) (env : Env) (i : Nat) (pkt : WDPacketData)
    (c : WdCluster) (hi : i < c.remoteNodeCount) (hd : pkt.data ≠ []) (hl : 0 < pkt.len) :
    (∀ tempNode authKey, pkt.type = wdInfoMessage →
      env.parseNodeInfo pkt.data = some (tempNode, authKey) →
      ((infoMessageReceived ctx env i pkt c).remote i).state = tempNode.state) ∧
    (∀ b, env.parseBeacon pkt.data = some b →
      ((beaconMessageReceivedFromNode env i pkt c).2.remote i).state = b.state) :=
  ⟨fun tempNode authKey ht hp => infoMessageReceived_state ctx env i pkt c tempNode authKey hi ht hd hl hp,
    fun b hp => beaconMessageReceivedFromNode_state env i pkt c b hi hd hl hp⟩

/-- Remote node 0 of the started sample node reports state 99. -/
theorem runStart_records_reported_state :
    0 < runStart.remoteNodeCount ∧ (samplePacket wdInfoMessage 0 [99, 1]).data ≠ [] ∧
      0 < (samplePacket wdInfoMessage 0 [99, 1]).len ∧
      ((∀ tempNode authKey, (samplePacket wdInfoMessage 0 [99, 1]).type = wdInfoMessage →
        (sampleEnv 101).parseNodeInfo (samplePacket wdInfoMessage 0 [99, 1]).data = some (tempNode, authKey) →
        ((infoMessageReceived sampleCtx (sampleEnv 101) 0 (samplePacket wdInfoMessage 0 [99, 1])
          runStart).remote 0).state = tempNode.state) ∧
      (∀ b, (sampleEnv 101).parseBeacon (samplePacket wdInfoMessage 0 [99, 1]).data = some b →
        ((beaconMessageReceivedFromNode (sampleEnv 101) 0 (samplePacket wdInfoMessage 0 [99, 1])
          runStart).2.remote 0).state = b.state)) :=
  ⟨by decide, by decide, by decide,
    peer_state_recorded_unchecked sampleCtx (sampleEnv 101) 0 (samplePacket wdInfoMessage 0 [99, 1]) runStart
      (by decide) (by decide) (by decide)⟩

/-- The started sample node after remote node 0 reported state 99 in its node
information. -/
def runReportedState99 : WdCluster :=
  runInputs sampleCtx runStart [(sampleEnv 101, .peerPacket 0 false (some (samplePacket wdInfoMessage 0 [99, 1])))]

/-- In that reachable state the record of remote node 0 holds 99, which is
not a state of the watchdog, so the lookup of its name in `wd_state_names`
reads outside the table. -/
theorem remote_state_outside_enumeration :
    Reach runReportedState99 ∧ runReportedState99.exited = false ∧
      (runReportedState99.remote 0).state = 99 ∧ WDStates.ofInt? (runReportedState99.remote 0).state = none ∧
      wdStateName? (runReportedState99.remote 0).state = none :=
  have h : WDStates.ofInt? (runReportedState99.remote 0).state = none := by decide
  ⟨(Reach.init sampleCtx (sampleEnv 100) false false (.inl rfl)).runInputs (by decide), by decide, by decide, h,
    wdStateName?_eq_none_iff.2 h⟩

end pgpool.watchdog
