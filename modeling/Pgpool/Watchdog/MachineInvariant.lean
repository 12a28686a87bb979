-- The coordinator invariant across watchdog_state_machine: the handler of
-- every state, the work before the switch, the two packet processors, and the
-- passes of the main loop each keep it, for any event whose peer is configured.
import Pgpool.Watchdog.Machine
import Pgpool.Watchdog.Invariant

namespace pgpool.watchdog

/-- The events whose peer is one of the `n` configured peers: a packet names
its sender; the other events carry no peer the handlers trust. -/
def WdEvent.FromPeer (n : Nat) : WdEvent → Prop
  | .packetRcv i _ => i < n
  | _ => True

section
variable (ctx : Ctx) (env : Env) {n : Nat} {c : WdCluster}

/-! ## The state handlers -/

theorem sendsOnly_replyTo (i : Nat) (pkt : WDPacketData) (t : MsgType) (c : WdCluster) :
    SendsOnly c (replyTo ctx env i pkt t c) :=
  sendsOnly_replyWithMinimalMessage ctx env _ _ _ c

/-- `set_state` after a reply keeps the invariant when it does before it. -/
theorem good_setState_replyTo {s : WDStates} (i : Nat) (pkt : WDPacketData) (t : MsgType)
    (hs : SetStateOk c s) (h : Good n c) : Good n (setState ctx env s (replyTo ctx env i pkt t c)) :=
  good_setState ctx env (h.of_sendsOnly (sendsOnly_replyTo ctx env i pkt t c))
    (hs.of_sendsOnly (sendsOnly_replyTo ctx env i pkt t c))

theorem not_coordinator_of_localIs {s : WDStates} (hs : c.localIs s) (hne : s ≠ .coordinator) :
    ¬ c.localIs .coordinator := fun hc => hne (WDStates.toInt_injective (hs.symm.trans hc))

theorem good_answerStandFor (i : Nat) (pkt : WDPacketData) (hc : ¬ c.localIs .coordinator)
    (h : Good n c) : Good n (answerStandFor ctx env i pkt c) := by
  unfold answerStandFor
  split_ifs
  · exact good_setState_replyTo ctx env i pkt _ hc h
  · exact good_setState_replyTo ctx env i pkt _ hc h

/-- The joining arm on entry forgets the master. -/
theorem good_joiningEnter (hs : c.localIs .joining) (h : Good n c) : Good n (joiningEnter ctx env c) := by
  unfold Good
  rw [core_joiningEnter]
  refine h.imp_right fun ⟨hi, hn⟩ => ⟨?_, hn⟩
  have hc : c.core.state ≠ WDStates.coordinator.toInt := not_coordinator_of_localIs hs (by decide)
  obtain ⟨he, hv, hf, hsb, -⟩ := hi.idle hc
  exact Inv.of_masterless he hv hf hsb rfl hi.quorum fun h' => absurd (hs.symm.trans h') (by decide)

theorem good_watchdogStateMachineLoading (ev : WdEvent) (hev : ev.FromPeer n) (hs : c.localIs .loading)
    (h : Good n c) : Good n (watchdogStateMachineLoading ctx env ev c) := by
  have hc := not_coordinator_of_localIs hs (by decide)
  unfold watchdogStateMachineLoading
  split
  · exact h.of_core (core_loadingEnter ctx env c)
  · exact good_setState ctx env h trivial
  · split_ifs
    · exact good_answerStandFor ctx env _ _ hc h
    · exact good_setState ctx env h hc
    · exact h
    · exact good_fatal
    · exact h
    · exact good_standardPacketProcessor ctx env hev _ h
  · exact h

theorem good_watchdogStateMachineJoining (ev : WdEvent) (hev : ev.FromPeer n) (hs : c.localIs .joining)
    (h : Good n c) : Good n (watchdogStateMachineJoining ctx env ev c) := by
  have hc := not_coordinator_of_localIs hs (by decide)
  unfold watchdogStateMachineJoining
  split
  · exact good_joiningEnter ctx env hs h
  · exact good_setState ctx env h hc
  · split_ifs
    · exact good_setState ctx env h hc
    · exact h
  · split_ifs
    · exact good_fatal
    · exact h
    · exact good_answerStandFor ctx env _ _ hc h
    · exact good_standardPacketProcessor ctx env hev _ h
  · exact h

theorem good_watchdogStateMachineInitializing (ev : WdEvent) (hev : ev.FromPeer n)
    (hs : c.localIs .initializing) (h : Good n c) :
    Good n (watchdogStateMachineInitializing ctx env ev c) := by
  have hc := not_coordinator_of_localIs hs (by decide)
  unfold watchdogStateMachineInitializing
  split
  · exact h
  · split_ifs with hm
    · exact good_setState ctx env h ⟨hc, hm⟩
    · exact good_setState ctx env h trivial
    · exact good_setState ctx env h hc
    · exact good_setState ctx env h hc
  · split_ifs
    · exact good_fatal
    · exact h
    · exact good_standardPacketProcessor ctx env hev _ h
  · exact h

theorem good_watchdogStateMachineStandForCord (ev : WdEvent) (hev : ev.FromPeer n)
    (hs : c.localIs .standForCoordinator) (h : Good n c) :
    Good n (watchdogStateMachineStandForCord ctx env ev c) := by
  have hc := not_coordinator_of_localIs hs (by decide)
  have hr := fun i pkt t => h.of_sendsOnly (sendsOnly_replyTo ctx env i pkt t c)
  unfold watchdogStateMachineStandForCord
  split
  · exact (h.of_sendsOnly (sendsOnly_sendClusterCommand ctx env _ _ _ c)).of_core
      (WdCluster.core_setTimeout _ _ _)
  · split_ifs
    · exact good_setState ctx env h trivial
    · split
      · split_ifs
        · exact good_setState ctx env h trivial
        · exact good_setState ctx env h hc
        · exact h
      · exact good_setState ctx env h trivial
    · exact h
  · exact good_setState ctx env h trivial
  · dsimp only
    split_ifs
    · exact hr _ _ _
    · exact hr _ _ _
    · exact good_setState_replyTo ctx env _ _ _ hc h
    · exact hr _ _ _
    · exact good_setState_replyTo ctx env _ _ _ trivial h
    · exact good_standardPacketProcessor ctx env hev _ h
  · exact h

/-- The coordinator's accepted declaration makes it master, and escalates it
when the quorum holds. -/
theorem good_declareAccepted (hc : c.localIs .coordinator) (h : Good n c) :
    Good n (declareAccepted ctx env c) := by
  have hqc := updateQuorumStatus_localIs_coordinator ctx env c hc
  have hm : Good n ((updateQuorumStatus ctx env c).setClusterMasterNode (some 0)) :=
    (good_updateQuorumStatus ctx env h).imp_right fun ⟨hi, hn⟩ => ⟨{ hi with
      escalated := fun he => ⟨hqc, rfl, (hi.escalated he).2.2⟩
      masterLocal := fun _ => hqc
      masterRemote := fun _ h' => by simp [WdCluster.getMasterWatchdogNode] at h'
      standbyMaster := fun h' => absurd (hqc.symm.trans h') (by decide) }, hn⟩
  unfold declareAccepted
  dsimp only
  split_ifs with hq
  · exact hm
  · exact good_startEscalatedNode env hqc rfl hq hm

theorem good_watchdogStateMachineCoordinator (ev : WdEvent) (hev : ev.FromPeer n)
    (hs : c.localIs .coordinator) (h : Good n c) :
    Good n (watchdogStateMachineCoordinator ctx env ev c) := by
  have hr := fun i pkt t => h.of_sendsOnly (sendsOnly_replyTo ctx env i pkt t c)
  unfold watchdogStateMachineCoordinator
  split
  · exact h.of_core (core_coordinatorEnter ctx env c)
  · split_ifs
    · exact good_declareAccepted ctx env hs h
    · exact good_setState ctx env h trivial
    · split
      · exact good_standbyNodeLeftCluster _ h
      · exact h
    · exact h
  · exact good_quorumChangedArm ctx env hs h
  · split_ifs
    · exact good_setState ctx env h trivial
    · exact h
  · exact (h.of_sendsOnly (sendsOnly_sendClusterCommand ctx env _ _ _ c)).of_core
      (WdCluster.core_setTimeout _ _ _)
  · exact good_standbyNodeLeftCluster _ h
  · rename_i i pkt
    have hb := h.of_core (core_beaconMessageReceivedFromNode env (c := c) i pkt)
    dsimp only
    split_ifs
    · exact hr _ _ _
    · exact hr _ _ _
    · exact good_handleSplitBrain ctx env _ _ hb
    · exact good_setState ctx env (hb.of_sendsOnly (sendsOnly_sendClusterServiceMessage ctx env _ _ _ _))
        trivial
    · exact good_standbyNodeJoinCluster _
        ((hr _ _ _).of_sendsOnly (sendsOnly_sendMessageOfType ctx env _ _ _ _))
    · exact good_standardPacketProcessor ctx env hev _ h
  · exact h

theorem good_watchdogStateMachineVoting (ev : WdEvent) (hev : ev.FromPeer n)
    (hs : c.localIs .participateInElection) (h : Good n c) :
    Good n (watchdogStateMachineVoting ctx env ev c) := by
  have hc := not_coordinator_of_localIs hs (by decide)
  have hr := fun i pkt t => h.of_sendsOnly (sendsOnly_replyTo ctx env i pkt t c)
  unfold watchdogStateMachineVoting
  split
  · exact h
  · exact good_setState ctx env h trivial
  · dsimp only
    split_ifs
    · exact hr _ _ _
    · exact good_setState_replyTo ctx env _ _ _ hc h
    · exact good_setState ctx env h trivial
    · exact good_setState_replyTo ctx env _ _ _ hc h
    · exact good_setState_replyTo ctx env _ _ _ hc h
    · exact good_standardPacketProcessor ctx env hev _ h
  · exact h

theorem good_standbyArm (ev : WdEvent) (hev : ev.FromPeer n) (hs : c.localIs .standby) (h : Good n c) :
    Good n (standbyArm ctx env ev c) := by
  have hc := not_coordinator_of_localIs hs (by decide)
  have hr := fun i pkt t => h.of_sendsOnly (sendsOnly_replyTo ctx env i pkt t c)
  unfold standbyArm
  split
  · exact h.of_core (core_standbyJoin ctx env c)
  · exact h
  · exact .ite (good_setState ctx env h trivial) h
  · exact .ite (good_setState ctx env h trivial) h
  · exact h.ite (.ite (.ite (good_setState_replyTo ctx env _ _ _ hc h)
      (good_setState_replyTo ctx env _ _ _ trivial h)) (.ite (.ite (hr _ _ _) (good_setState ctx env h trivial))
      (.ite (.ite (h.of_sendsOnly (sendsOnly_sendClusterServiceMessage ctx env _ _ _ c))
        ((h.of_sendsOnly (sendsOnly_sendMessageOfType ctx env _ _ _ c)).of_core
          (core_beaconMessageReceivedFromNode env _ _))) (good_standardPacketProcessor ctx env hev _ h))))
  · exact h

theorem good_watchdogStateMachineStandby (ev : WdEvent) (hev : ev.FromPeer n) (hs : c.localIs .standby)
    (h : Good n c) : Good n (watchdogStateMachineStandby ctx env ev c) :=
  good_standbyMasterCheck ctx env (fun _ h => good_setState ctx env h trivial)
    (good_standbyArm ctx env ev hev hs h)

/-- A standby whose master was lost rejoins: what the loss left is good again. -/
theorem good_watchdogStateMachineStandby_masterLost (i : Nat) (hm : c.getMasterWatchdogNode = none) (h : NearlyGood n c) :
    Good n (watchdogStateMachineStandby ctx env (.remoteNodeLost i) c) := by
  unfold watchdogStateMachineStandby standbyArm
  rw [if_pos hm, setState_joining]
  exact good_standbyMasterCheck ctx env (fun _ h => good_setState ctx env h trivial)
    (good_setStateJoining ctx env h)

/-- In the network-error states a new connection only sends: their handler
has no arm for it. -/
theorem newOutboundConnection_of_nwError {s : WDStates} (hh : s = .lost ∨ s = .inNwTrouble)
    (hs : c.localIs s) (i : Nat) : newOutboundConnection ctx env i c = sendAddNode ctx env i c := by
  unfold newOutboundConnection
  have hx : (sendAddNode ctx env i c).localIs s := (sendsOnly_sendAddNode ctx env c i).localIs_iff.2 hs
  rw [onState_of_localIs ctx env _ hx (by rcases hh with rfl | rfl <;> rfl)]
  unfold withStandbyCheck
  rcases hh with rfl | rfl <;> rfl

theorem sendsOnly_tryConnecting_of_nwError {s : WDStates} (hh : s = .lost ∨ s = .inNwTrouble)
    (is : List Nat) (hs : c.localIs s) :
    SendsOnly c (tryConnectingWithAllUnreachableNodes env (newOutboundConnection ctx env) is c) :=
  sendsOnly_tryConnectingWithAllUnreachableNodes env (P := fun c => c.localIs s)
    (fun h hc => h.localIs_iff.2 hc) _
    (fun i c hc => by
      rw [newOutboundConnection_of_nwError ctx env hh hc]
      exact sendsOnly_sendAddNode ctx env c i) is c hs

/-- The network-error handler: entering it is fatal, and its recovery only
sends before it sets the loading state. -/
theorem good_watchdogStateMachineNwError (ev : WdEvent) {s : WDStates} (hh : s = .lost ∨ s = .inNwTrouble)
    (hs : c.localIs s) (h : Good n c) : Good n (watchdogStateMachineNwError ctx env ev c) := by
  have hrec : ∀ x, SendsOnly c x → Good n (setState ctx env .loading
      (tryConnectingWithAllUnreachableNodes env (newOutboundConnection ctx env) (List.range x.remoteNodeCount) x)) :=
    fun x h1 =>
      have h2 := h1.trans (sendsOnly_tryConnecting_of_nwError ctx env hh _ (h1.localIs_iff.2 hs))
      good_setState ctx env (h.of_sendsOnly h2)
        (SetStateOk.of_sendsOnly h2 (not_coordinator_of_localIs hs (by rcases hh with rfl | rfl <;> decide)))
  unfold watchdogStateMachineNwError
  dsimp only
  split
  · exact good_fatal
  all_goals first
    | exact h
    | (split_ifs
       · exact h
       · exact hrec _ ((sendsOnly_getMinimumMessage _ _ c).trans (sendsOnly_sendMessage ctx env _ _ _)))

theorem good_stateHandler (ev : WdEvent) (hev : ev.FromPeer n) {s : WDStates} (hs : c.localIs s)
    (h : Good n c) : Good n (stateHandler ctx env ev s c) := by
  cases s
  case loading => exact good_watchdogStateMachineLoading ctx env ev hev hs h
  case joining => exact good_watchdogStateMachineJoining ctx env ev hev hs h
  case initializing => exact good_watchdogStateMachineInitializing ctx env ev hev hs h
  case coordinator => exact good_watchdogStateMachineCoordinator ctx env ev hev hs h
  case participateInElection => exact good_watchdogStateMachineVoting ctx env ev hev hs h
  case standForCoordinator => exact good_watchdogStateMachineStandForCord ctx env ev hev hs h
  case standby => exact good_watchdogStateMachineStandby ctx env ev hev hs h
  case lost => exact good_watchdogStateMachineNwError ctx env ev (.inl rfl) hs h
  case inNwTrouble => exact good_watchdogStateMachineNwError ctx env ev (.inr rfl) hs h
  case dead | shutdown | addMessageSent => exact h

/-! ## watchdog_state_machine -/

theorem core_remoteNodeLostPreamble (i : Nat) :
    (remoteNodeLostPreamble ctx env i c).core =
      if c.getMasterWatchdogNode = some (i + 1) then { c.core with masterNode := none } else c.core := by
  have hX : ∀ f, (((c.closeSocket (c.remote i).clientSocket).2.closeSocket
      (c.remote i).serverSocket).2.modifyRemote i f).core = c.core := fun f => by
    rw [WdCluster.core_modifyRemote, (sendsOnly_closeSocket _ _).core, (sendsOnly_closeSocket _ _).core]
  have hM : ∀ f, (((c.closeSocket (c.remote i).clientSocket).2.closeSocket
      (c.remote i).serverSocket).2.modifyRemote i f).getMasterWatchdogNode = c.getMasterWatchdogNode :=
    fun f => congrArg CoreView.masterNode (hX f)
  unfold remoteNodeLostPreamble
  dsimp only
  rw [core_nodeLostWhileIpcCommand, hM]
  split_ifs
  · rw [WdCluster.core_setClusterMasterNode, hX]
  · exact hX _

/-- The loss of a peer keeps the invariant, except that a standby may be left
without its master, which the standby handler then rejoins. -/
theorem good_remoteNodeLostPreamble (i : Nat) (h : Good n c) :
    Good n (remoteNodeLostPreamble ctx env i c) ∨
      ((remoteNodeLostPreamble ctx env i c).localIs .standby ∧
        (remoteNodeLostPreamble ctx env i c).getMasterWatchdogNode = none ∧
        NearlyGood n (remoteNodeLostPreamble ctx env i c)) := by
  have hc := core_remoteNodeLostPreamble ctx env (c := c) i
  by_cases hm : c.getMasterWatchdogNode = some (i + 1)
  swap
  · rw [if_neg hm] at hc
    exact .inl (h.of_core hc)
  rw [if_pos hm] at hc
  have hs : ∀ s, (remoteNodeLostPreamble ctx env i c).localIs s ↔ c.localIs s := fun s => by
    simp only [WdCluster.localIs, ← WdCluster.core_state, hc]
  have hn : (remoteNodeLostPreamble ctx env i c).getMasterWatchdogNode = none := by
    rw [← WdCluster.core_masterNode, hc]
  rcases h with hx | ⟨hi, hcount⟩
  · left; unfold Good; rw [hc]; exact .inl hx
  have hf := hi.forgetMaster (by simp [hm])
  by_cases hsb : c.localIs .standby
  · exact .inr ⟨(hs _).2 hsb, hn, by unfold NearlyGood; rw [hc]; exact .inr ⟨hf, hcount⟩⟩
  · left; unfold Good; rw [hc]
    exact .inr ⟨⟨hf, fun h' => absurd h' hsb⟩, hcount⟩

theorem good_networkTroublePreamble (h : Good n c) : Good n (networkTroublePreamble ctx env c) := by
  unfold networkTroublePreamble
  dsimp only
  split_ifs <;> first
    | exact h
    | exact good_setState ctx env h trivial
    | exact good_setState ctx env (good_setState ctx env h trivial) trivial

theorem good_watchdogStateMachineCore (ev : WdEvent) (hev : ev.FromPeer n) (h : Good n c) :
    Good n (watchdogStateMachineCore ctx env ev c) := by
  have hdisp : ∀ c', Good n c' → Good n (onState ctx env (stateHandler ctx env ev) c') := fun c' h' =>
    good_onState ctx env (fun _ _ hs => good_stateHandler ctx env ev hev hs h') h'
  unfold watchdogStateMachineCore
  cases ev with
  | remoteNodeLost i =>
    rcases good_remoteNodeLostPreamble ctx env i h with hp | ⟨hs, hm, hp⟩
    · exact hdisp _ hp
    · rw [onState_of_localIs ctx env _ hs rfl]
      exact good_watchdogStateMachineStandby_masterLost ctx env i hm hp
  | newOutboundConnection i => exact hdisp _ (h.of_sendsOnly (sendsOnly_sendAddNode ctx env c i))
  | nwIpIsRemoved => exact hdisp _ (good_networkTroublePreamble ctx env h)
  | nwLinkIsInactive => exact hdisp _ (good_networkTroublePreamble ctx env h)
  | localNodeLost => exact hdisp _ (good_setState ctx env h trivial)
  | _ => exact hdisp _ h

theorem good_finishClusterCommand (i : Nat) (pkt : WDPacketData) (k : Nat) (cmd : WDCommandData)
    (status : WDCommandStatus) (h : Good n c) :
    Good n (finishClusterCommand ctx env i pkt k cmd status c) := by
  unfold finishClusterCommand
  exact (good_watchdogStateMachineCore ctx env (.commandFinished _ _ _) trivial
    (h.withClusterCommands _)).withClusterCommands _

theorem good_watchdogInternalCommandPacketProcessor {i : Nat} (hi : i < n) (pkt : WDPacketData)
    (h : Good n c) : Good n (watchdogInternalCommandPacketProcessor ctx env i pkt c).2 := by
  have h1 : Good n (if pkt.type = wdInfoMessage then standardPacketProcessor ctx env i pkt c else c) := by
    split_ifs
    · exact good_standardPacketProcessor ctx env hi pkt h
    · exact h
  unfold watchdogInternalCommandPacketProcessor
  split
  · exact h
  dsimp only
  generalize (if pkt.type = wdInfoMessage then standardPacketProcessor ctx env i pkt c else c) = c1 at h1 ⊢
  exact .ite_map Prod.snd h (.ite_map Prod.snd h (.ite_map Prod.snd
    (.ite_map Prod.snd (good_finishClusterCommand ctx env i pkt _ _ _ h1)
      (.ite_map Prod.snd (good_finishClusterCommand ctx env i pkt _ _ _ h1) (h1.withClusterCommands _))) h1))

theorem good_wdCommandsPacketProcessor (i : Nat) (pkt : WDPacketData) (h : Good n c) :
    Good n (wdCommandsPacketProcessor ctx env i pkt c).2 := by
  unfold wdCommandsPacketProcessor
  refine .ite_map Prod.snd (h.of_sendsOnly (sendsOnly_sendClusterServiceMessage ctx env _ _ _ c))
    (.ite_map Prod.snd (good_processRemoteFailoverCommandOnCoordinator ctx env i pkt h)
    (.ite_map Prod.snd (h.of_core (core_processRemoteOnlineRecoveryCommand ctx env i pkt c))
    (.ite_map Prod.snd ?_ (.ite_map Prod.snd ?_ h))))
  · split
    · exact h.of_core ((core_cleanUpIPCCommand _ _).trans (core_writeIpcCommandWithResultData env _ _ _ c))
    · exact h
  · split
    · exact .ite_map Prod.snd (h.of_core (core_replyToFailoveCommand ctx env _ _ _))
        (.ite_map Prod.snd (h.of_core (core_replyIsReceivedForPgpoolReplicateCommand ctx env i pkt _ c)) h)
    · exact h

/-- `watchdog_state_machine(WD_EVENT_PACKET_RCV)` keeps the invariant for a
packet of a configured peer. -/
theorem good_packetRcv {i : Nat} (hi : i < n) (pkt : WDPacketData) (h : Good n c) :
    Good n (packetRcv ctx env i pkt c) := by
  have h1 := good_modifyRemote i (fun m => { m with lastRcvTime := env.now }) h
  have hs := good_standardPacketProcessor ctx env hi pkt h1
  have hdisp : ∀ c', Good n c' → Good n (onState ctx env (stateHandler ctx env (.packetRcv i pkt)) c') :=
    fun c' h' => good_onState ctx env (fun _ _ hs => good_stateHandler ctx env (.packetRcv i pkt) hi hs h') h'
  unfold packetRcv
  dsimp only
  have h2 : Good n (if pkt.type = wdInfoMessage then
      standardPacketProcessor ctx env i pkt (c.modifyRemote i fun m => { m with lastRcvTime := env.now })
    else c.modifyRemote i fun m => { m with lastRcvTime := env.now }) := by
    split_ifs
    · exact hs
    · exact h1
  generalize (if pkt.type = wdInfoMessage then
      standardPacketProcessor ctx env i pkt (c.modifyRemote i fun m => { m with lastRcvTime := env.now })
    else c.modifyRemote i fun m => { m with lastRcvTime := env.now }) = c2 at h2 ⊢
  have h3 := good_watchdogInternalCommandPacketProcessor ctx env hi pkt h2
  generalize watchdogInternalCommandPacketProcessor ctx env i pkt c2 = r at h3 ⊢
  have h4 := good_wdCommandsPacketProcessor ctx env i pkt h3
  generalize wdCommandsPacketProcessor ctx env i pkt r.2 = r' at h4 ⊢
  split_ifs
  · exact good_watchdogStateMachineCore ctx env (.remoteNodeLost i) trivial (good_modifyRemote i _ h2)
  · exact h3
  · exact h4
  · exact hdisp _ h4

/-- `watchdog_state_machine` keeps the invariant for every event whose peer is
configured. -/
theorem good_watchdogStateMachine (ev : WdEvent) (hev : ev.FromPeer n) (h : Good n c) :
    Good n (watchdogStateMachine ctx env ev c) := by
  unfold watchdogStateMachine
  split
  · exact good_packetRcv ctx env hev _ h
  · exact good_watchdogStateMachineCore ctx env _ hev h

/-! ## The passes of the main loop -/

theorem good_commandTimeoutPass :
    ∀ (ks : List Nat) (acc : WdCluster × List Nat), Good n acc.1 →
      Good n (commandTimeoutPass ctx env ks acc).1
  | [], _, h => h
  | k :: ks, acc, h => by
    unfold commandTimeoutPass
    dsimp only
    split_ifs
    · exact good_commandTimeoutPass ks _ h
    · exact good_commandTimeoutPass ks _
        (good_watchdogStateMachineCore ctx env (.commandFinished _ _ _) trivial (h.of_core rfl))
    · exact good_commandTimeoutPass ks _ h

theorem good_checkForCurrentCommandTimeout (h : Good n c) :
    Good n (checkForCurrentCommandTimeout ctx env c) :=
  (good_commandTimeoutPass ctx env _ (c, []) h).of_core rfl

theorem core_resendClusterSlots :
    ∀ (is : List Nat) (acc : WDCommandData × WdCluster),
      (resendClusterSlots ctx env is acc).2.core = acc.2.core
  | [], _ => rfl
  | i :: is, acc => by
    unfold resendClusterSlots
    have h := (sendsOnly_sendMessageToNode ctx env i acc.1.commandPacket acc.2).core
    dsimp only
    split_ifs <;> simp only [core_resendClusterSlots is, h]

theorem core_serviceInternalCommand : (serviceInternalCommand ctx env c).core = c.core :=
  List.foldlRecOn (motive := fun x : WdCluster × List Nat => x.1.core = c.core) _ _ _ rfl
    fun x hx k _ => by
      dsimp only
      split_ifs
      · exact hx
      · exact (core_resendClusterSlots ctx env _ _).trans hx

theorem good_serviceLostConnectionsLoop :
    ∀ (is : List Nat) (acc : Bool × WdCluster), Good n acc.2 →
      Good n (serviceLostConnectionsLoop ctx env is acc).2
  | [], _, h => h
  | i :: is, acc, h => by
    unfold serviceLostConnectionsLoop
    have h1 := h.of_sendsOnly (sendsOnly_connectToNode env i acc.2)
    dsimp only
    split_ifs
    · exact good_serviceLostConnectionsLoop is _ h
    · exact good_serviceLostConnectionsLoop is _ (good_watchdogStateMachineCore ctx env (.newOutboundConnection _) trivial h1)
    · exact good_serviceLostConnectionsLoop is _ h1
    · exact good_serviceLostConnectionsLoop is _ h

theorem good_serviceUnreachableNodesLoop :
    ∀ (is : List Nat) {c : WdCluster}, Good n c → Good n (serviceUnreachableNodesLoop ctx env is c)
  | [], _, h => h
  | i :: is, c, h => by
    have hl := good_watchdogStateMachineCore ctx env (.remoteNodeLost i) trivial h
    unfold serviceUnreachableNodesLoop
    exact good_serviceUnreachableNodesLoop is (h.ite (.ite (hl.ite h) hl))

end

end pgpool.watchdog
