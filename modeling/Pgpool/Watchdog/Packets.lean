-- The packet processors every state handler falls back to:
-- standard_packet_processor, which updates a peer's record from its node
-- information and answers requests, and cluster_service_message_processor,
-- which acts on the split-brain notices of the other nodes.
import Pgpool.Watchdog.SplitBrain
import Mathlib.Data.List.GetD

namespace pgpool.watchdog

section
variable (ctx : Ctx) (env : Env)

/-- `process_data_request`: the reply to a data request. -/
def processDataRequest (pkt : WDPacketData) (c : WdCluster) : WDPacketData × WdCluster :=
  if pkt.data = [] ∨ pkt.len ≤ 0 then getMinimumMessage wdErrorMessage (some pkt) c
  else match env.parseDataRequest pkt.data with
    | none => getMinimumMessage wdErrorMessage (some pkt) c
    | some requestType =>
      let data := if strcaseeq requestType ctx.names.dateReqPgBackendData then
          env.backendNodeStatusJson else none
      match data with
      | some d => (⟨wdDataMessage, pkt.commandId, d.length, d⟩, c)
      | none => getMinimumMessage wdErrorMessage (some pkt) c

/-- `cluster_service_message_processor` for a message from remote node `i`. -/
def clusterServiceMessageProcessor (i : Nat) (pkt : WDPacketData) (c : WdCluster) : WdCluster :=
  if pkt.type ≠ wdClusterServiceMessage then c
  else if pkt.len ≠ 1 ∨ pkt.data = [] then c
  else
    let fromMaster := c.getMasterWatchdogNode = some (i + 1)
    let code := pkt.data.headD 0
    if code = clusterIamTrueMaster then
      if c.localIs .coordinator then
        setState ctx env .joining
          (sendClusterServiceMessage ctx env none (some pkt) clusterIamResigningFromMaster c).2
      else if c.getMasterWatchdogNode ≠ none ∧ ¬ fromMaster then
        setState ctx env .joining
          (sendClusterServiceMessage ctx env none (some pkt) clusterNeedsElection c).2
      else c
    else if code = clusterIamResigningFromMaster then
      if fromMaster then setState ctx env .joining c else c
    else if code = clusterInSplitBrain then
      let c := tryConnectingWithAllUnreachableNodes env (newOutboundConnection ctx env)
        (List.range c.remoteNodeCount) c
      if c.localIs .coordinator then
        (sendMessageOfType ctx env none wdIamCoordinatorMessage none c).2
      else c
    else if code = clusterNeedsElection then setState ctx env .joining c
    else if code = clusterIamNotTrueMaster then
      if fromMaster then setState ctx env .joining c else c
    else if code = clusterNodeInvalidVersion then c.fatal
    else c

/-- The `WD_INFO_MESSAGE` case of `standard_packet_processor`: the record of
remote node `i` takes the node information, a second coordinator is a split
brain, a master that is no longer coordinator sends us back to joining, and
a standby that changed state leaves the standby list. -/
def infoMessageReceived (i : Nat) (pkt : WDPacketData) (c : WdCluster) : WdCluster :=
  let parsed := if pkt.type ≠ wdAddNodeMessage ∧ pkt.type ≠ wdInfoMessage then none
    else if pkt.data = [] ∨ pkt.len ≤ 0 then none
    else env.parseNodeInfo pkt.data
  match parsed with
  | none => (sendClusterServiceMessage ctx env (some (i + 1)) (some pkt) clusterNodeInvalidVersion c).2
  | some (tempNode, _) =>
    let oldNodeState := (c.remote i).state
    let c := c.modifyRemote i fun m =>
      { m with state := tempNode.state, startupTime := tempNode.startupTime,
               wdPriority := tempNode.wdPriority, currentStateTime := tempNode.currentStateTime,
               escalated := tempNode.escalated, standbyNodesCount := tempNode.standbyNodesCount,
               quorumStatus := tempNode.quorumStatus }
    let newState := tempNode.state
    let c :=
      if newState = WDStates.coordinator.toInt then
        if c.getMasterWatchdogNode = none then c.setClusterMasterNode (some (i + 1))
        else if c.getMasterWatchdogNode ≠ some (i + 1) then
          if ¬ c.localIs .coordinator then
            (sendClusterServiceMessage ctx env none (some pkt) clusterInSplitBrain c).2
          else handleSplitBrain ctx env i pkt c
        else c
      else if c.getMasterWatchdogNode = some (i + 1) then setState ctx env .joining c
      else c
    if oldNodeState = WDStates.standby.toInt ∧ (c.remote i).state ≠ oldNodeState then
      standbyNodeLeftCluster i c
    else c

/-- The end of `standard_packet_processor`: the reply, when there is one, goes
to the node. -/
def sendReply (i : Nat) (r : Option WDPacketData × WdCluster) : WdCluster :=
  match r.1 with
  | some reply => (sendMessageToNode ctx env i reply r.2).2
  | none => r.2

/-- `standard_packet_processor` for a packet from remote node `i`. -/
def standardPacketProcessor (i : Nat) (pkt : WDPacketData) (c : WdCluster) : WdCluster :=
  sendReply ctx env i <|
    if pkt.type = wdClusterServiceMessage then (none, clusterServiceMessageProcessor ctx env i pkt c)
    else if pkt.type = ctx.codes.getMasterDataRequest then
      let m := processDataRequest ctx env pkt c; (some m.1, m.2)
    else if pkt.type = wdAskForPoolConfig then
      match env.poolConfigJson with
      | some d => (some ⟨wdPoolConfigData, pkt.commandId, d.length, d⟩, c)
      | none => let m := getMinimumMessage wdErrorMessage (some pkt) c; (some m.1, m.2)
    else if pkt.type = wdEventRemoteNodeFoundAsType then
      (none, (sendMessageOfType ctx env (some (i + 1)) wdReqInfoMessage none c).2)
    else if pkt.type = wdAddNodeMessage ∨ pkt.type = wdReqInfoMessage then
      let m := getMynodeInfoMessage env (some pkt) c; (some m.1, m.2)
    else if pkt.type = wdInfoMessage then (none, infoMessageReceived ctx env i pkt c)
    else if pkt.type = wdJoinCoordinatorMessage then
      let m := getMinimumMessage
        (if c.getMasterWatchdogNode = some 0 then wdAcceptMessage else wdRejectMessage) (some pkt) c
      (some m.1, m.2)
    else if pkt.type = wdIamCoordinatorMessage then
      if c.getMasterWatchdogNode ≠ none ∧ c.getMasterWatchdogNode ≠ some (i + 1) then
        (none, (sendClusterServiceMessage ctx env none (some pkt) clusterInSplitBrain c).2)
      else
        let m := getMynodeInfoMessage env (some pkt) c
        (some m.1, (beaconMessageReceivedFromNode env i pkt m.2).2)
    else (none, c)

end

/-! ## What a peer's payload records

The node information and the beacons of a peer are stored in its record as
they come: the state field is copied whatever integer it holds. -/

/-- The remote records keep their states. -/
def StatesKept (c c' : WdCluster) : Prop :=
  c'.remoteNodes.map WatchdogNode.state = c.remoteNodes.map WatchdogNode.state

section
variable {c c' c'' : WdCluster}

theorem StatesKept.rfl : StatesKept c c := Eq.refl _

theorem StatesKept.trans (h : StatesKept c c') (h' : StatesKept c' c'') : StatesKept c c'' :=
  Eq.trans h' h

theorem StatesKept.remote_state (h : StatesKept c c') (i : Nat) :
    (c'.remote i).state = (c.remote i).state := by
  have := congrArg (fun l => l.getD i (default : WatchdogNode).state) h
  simpa only [List.getD_map, WdCluster.remote] using this

theorem SendsOnly.statesKept (h : SendsOnly c c') : StatesKept c c' := by
  have := congrArg (List.map WatchdogNode.state) h.peers
  simpa only [List.map_map] using this

end

section
variable (ctx : Ctx) (env : Env) (c : WdCluster)

theorem resignFromEscalatedNode_remoteNodes :
    (resignFromEscalatedNode env c).remoteNodes = c.remoteNodes := by
  unfold resignFromEscalatedNode
  split_ifs <;> rfl

theorem changeState_remoteNodes (s : WDStates) : (changeState env s c).remoteNodes = c.remoteNodes := by
  unfold changeState
  split
  · exact resignFromEscalatedNode_remoteNodes env _
  · rfl

theorem statesKept_joiningEnter : StatesKept c (joiningEnter ctx env c) := by
  have hs := sendsOnly_tryConnectingWithAllUnreachableNodes env (P := fun _ => True) (fun _ _ => trivial)
    _ (fun i c _ => sendsOnly_sendAddNode ctx env c i) (List.range (c.setClusterMasterNode none).remoteNodeCount)
    (c.setClusterMasterNode none) trivial
  unfold joiningEnter
  dsimp only
  generalize tryConnectingWithAllUnreachableNodes env _ _ _ = c1 at hs ⊢
  have hm := (sendsOnly_sendClusterCommand ctx env none wdReqInfoMessage 4 c1).statesKept
  generalize sendClusterCommand ctx env none wdReqInfoMessage 4 c1 = r at hm ⊢
  exact (hs.statesKept.trans hm).trans rfl

theorem statesKept_setState_joining : StatesKept c (setState ctx env .joining c) := by
  rw [setState_joining]
  unfold setStateJoining setStateCore
  split_ifs
  · exact .rfl
  have hc : StatesKept c (changeState env .joining c) := congrArg _ (changeState_remoteNodes env c .joining)
  exact (hc.trans (statesKept_joiningEnter ctx env _)).trans
    (sendsOnly_sendMessageOfType ctx env _ _ _ _).statesKept

theorem statesKept_handleSplitBrain (i : Nat) (pkt : WDPacketData) :
    StatesKept c (handleSplitBrain ctx env i pkt c) := by
  unfold handleSplitBrain
  dsimp only
  split_ifs
  · exact (sendsOnly_sendClusterServiceMessage ctx env _ _ _ _).statesKept.trans
      (statesKept_setState_joining ctx env _)
  · exact (sendsOnly_sendClusterServiceMessage ctx env _ _ _ _).statesKept.trans
      (statesKept_setState_joining ctx env _)
  · exact (sendsOnly_sendClusterServiceMessage ctx env _ _ _ _).statesKept

end

theorem remote_modifyRemote_self {c : WdCluster} {i : Nat} (f : WatchdogNode → WatchdogNode)
    (hi : i < c.remoteNodeCount) : (c.modifyRemote i f).remote i = f (c.remote i) := by
  simp only [WdCluster.remoteNodeCount] at hi
  simp [WdCluster.remote, WdCluster.modifyRemote, List.getD_eq_getElem?_getD, hi]

section
variable (ctx : Ctx) (env : Env)

/-- A beacon that parses leaves its state in the sender's record. -/
theorem beaconMessageReceivedFromNode_state (i : Nat) (pkt : WDPacketData) (c : WdCluster)
    (b : BeaconInfo) (hi : i < c.remoteNodeCount) (hd : pkt.data ≠ []) (hl : 0 < pkt.len)
    (hp : env.parseBeacon pkt.data = some b) :
    ((beaconMessageReceivedFromNode env i pkt c).2.remote i).state = b.state := by
  have hc : ¬ (pkt.data = [] ∨ pkt.len ≤ 0) := by rintro (h | h) <;> [exact hd h; omega]
  simp only [beaconMessageReceivedFromNode, hc, if_false, hp, remote_modifyRemote_self _ hi]

/-- A node information message that parses leaves its state in the sender's
record, whatever the handler does next. -/
theorem infoMessageReceived_state (i : Nat) (pkt : WDPacketData) (c : WdCluster)
    (tempNode : WatchdogNode) (authKey : Option String) (hi : i < c.remoteNodeCount)
    (ht : pkt.type = wdInfoMessage) (hd : pkt.data ≠ []) (hl : 0 < pkt.len)
    (hp : env.parseNodeInfo pkt.data = some (tempNode, authKey)) :
    ((infoMessageReceived ctx env i pkt c).remote i).state = tempNode.state := by
  have hc : ¬ (pkt.data = [] ∨ pkt.len ≤ 0) := by rintro (h | h) <;> [exact hd h; omega]
  have hk : ¬ (pkt.type ≠ wdAddNodeMessage ∧ pkt.type ≠ wdInfoMessage) := fun h => h.2 ht
  unfold infoMessageReceived
  simp only [hk, hc, if_false, hp]
  generalize hc1 : c.modifyRemote i _ = c1
  have h1 : (c1.remote i).state = tempNode.state := by rw [← hc1, remote_modifyRemote_self _ hi]
  have hk2 : ∀ c2 : WdCluster, StatesKept c1 c2 →
      StatesKept c1 (if (c.remote i).state = WDStates.standby.toInt ∧ (c2.remote i).state ≠ (c.remote i).state
        then standbyNodeLeftCluster i c2 else c2) := fun c2 h => by
    split_ifs
    · exact h.trans rfl
    · exact h
  refine (hk2 _ ?_).remote_state i |>.trans h1
  split_ifs
  · exact rfl
  · exact statesKept_handleSplitBrain ctx env _ i pkt
  · exact (sendsOnly_sendClusterServiceMessage ctx env _ _ _ _).statesKept
  · exact .rfl
  · exact statesKept_setState_joining ctx env _
  · exact .rfl

end

end pgpool.watchdog
