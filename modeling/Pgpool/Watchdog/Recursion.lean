-- The recursion of watchdog_state_machine. The state machine calls itself
-- for five events: WD_EVENT_WD_STATE_CHANGED from set_state,
-- WD_EVENT_CLUSTER_QUORUM_CHANGED from update_quorum_status,
-- WD_EVENT_NEW_OUTBOUND_CONNECTION from try_connecting_with_all_unreachable_nodes,
-- WD_EVENT_REMOTE_NODE_LOST for a peer going down, and
-- WD_EVENT_COMMAND_FINISHED when a reply ends a cluster command. The model
-- writes that recursion out in layers (setState, updateQuorumStatus,
-- newOutboundConnection, ...). Here it is written as the source has it, one
-- level at a time with every call of the state machine from inside itself
-- given by a parameter (nestedBody), and cut at a depth with any result at the
-- cut (nestedDispatch). The laws:
--   * three levels give the model's result whatever stands at the cut, for
--     every state, peer list and command list: the recursion under a call of
--     the state machine is at most three deep;
--   * the layers of the model are that recursion: set_state,
--     update_quorum_status and the outbound-connection dispatch call it.
import Pgpool.Watchdog.Machine

namespace pgpool.watchdog

/-- The events `watchdog_state_machine` is called with from inside itself. -/
inductive NestedEvent
  | stateChanged
  | quorumChanged
  | newOutboundConnection (i : Nat)
  | remoteNodeLost (i : Nat)
  | commandFinished (wdNode : Option Nat) (pkt : Option WDPacketData) (cmd : WDCommandData)

def NestedEvent.toEvent : NestedEvent → WdEvent
  | .stateChanged => .wdStateChanged
  | .quorumChanged => .clusterQuorumChanged
  | .newOutboundConnection i => .newOutboundConnection i
  | .remoteNodeLost i => .remoteNodeLost i
  | .commandFinished w p cmd => .commandFinished w p cmd

/-- The states whose `WD_EVENT_WD_STATE_CHANGED` arm calls the state machine
no further: all with a handler but joining, which reconnects, and standby,
whose master check may rejoin. -/
def WDStates.entersQuietly (s : WDStates) : Bool :=
  s.hasHandler && s != .joining && s != .standby

section
variable (ctx : Ctx) (env : Env)

/-- What the model computes for an event the state machine calls itself with. -/
def nestedResult (e : NestedEvent) (c : WdCluster) : WdCluster :=
  watchdogStateMachine ctx env e.toEvent c

/-! ## One level of the recursion -/

section
variable (d : NestedEvent → WdCluster → WdCluster)

/-- `set_state`, its `WD_EVENT_WD_STATE_CHANGED` dispatch given by `d`. -/
def setStateVia (newState : WDStates) (c : WdCluster) : WdCluster :=
  setStateCore ctx env (d .stateChanged) newState c

/-- `update_quorum_status`, its `WD_EVENT_CLUSTER_QUORUM_CHANGED` dispatch given
by `d`. -/
def updateQuorumStatusVia (c : WdCluster) : WdCluster :=
  let oldStatus := c.quorumStatus
  let q := quorumStatusFor c.remoteNodeCount c.clusterMasterInfo.standbyNodesCount
    ctx.cfg.enableConsensusWithHalfVotes
  let c := c.setQuorumStatus q
  if q ≠ oldStatus then d .quorumChanged c else c

/-- The joining arm on entry, the `WD_EVENT_NEW_OUTBOUND_CONNECTION` dispatch of
`try_connecting_with_all_unreachable_nodes` given by `d`. -/
def joiningEnterVia (c : WdCluster) : WdCluster :=
  let c := c.setClusterMasterNode none
  let c := tryConnectingWithAllUnreachableNodes env (fun i => d (.newOutboundConnection i))
    (List.range c.remoteNodeCount) c
  let c := (sendClusterCommand ctx env none wdReqInfoMessage 4 c).2
  c.setTimeout env.now maxSecsWaitForReplyFromNode

/-- The coordinator's accepted declaration, its quorum update through `d`. -/
def declareAcceptedVia (c : WdCluster) : WdCluster :=
  let c := (updateQuorumStatusVia ctx d c).setClusterMasterNode (some 0)
  if c.quorumStatus = -1 then c else startEscalatedNode env c

/-- The arm of the handler of each state for an event the state machine calls
itself with, before the master check that ends the standby handler; the arms
that call the state machine do so through `d`. -/
def nestedArm : NestedEvent → WDStates → WdCluster → WdCluster
  | .stateChanged, .joining, c => joiningEnterVia ctx env d c
  | .stateChanged, .standby, c => standbyJoin ctx env c
  | .stateChanged, s, c => enterArm ctx env s c
  | .quorumChanged, .coordinator, c => quorumChangedArm ctx env c
  | .remoteNodeLost i, .coordinator, c => standbyNodeLeftCluster i c
  | .remoteNodeLost _, .standby, c =>
    if c.getMasterWatchdogNode = none then setStateVia ctx env d .joining c else c
  | .commandFinished _ _ cmd, .joining, c =>
    if cmd.commandPacket.type = wdReqInfoMessage then setStateVia ctx env d .initializing c else c
  | .commandFinished _ pkt cmd, .standForCoordinator, c =>
    if cmd.commandPacket.type = wdStandForCoordinatorMessage then
      if cmd.commandStatus = .finishedAllReplied ∨ cmd.commandStatus = .finishedTimeout then
        setStateVia ctx env d .coordinator c
      else match pkt with
        | some p =>
          if p.type = wdErrorMessage then setStateVia ctx env d .joining c
          else if p.type = wdRejectMessage then setStateVia ctx env d .participateInElection c
          else c
        | none => setStateVia ctx env d .joining c
    else c
  | .commandFinished wdNode _ cmd, .coordinator, c =>
    if cmd.commandPacket.type = wdDeclareCoordinatorMessage then
      if cmd.commandStatus = .finishedAllReplied ∨ cmd.commandStatus = .finishedTimeout then
        declareAcceptedVia ctx env d c
      else setStateVia ctx env d .joining c
    else if cmd.commandPacket.type = wdIamCoordinatorMessage ∧
        cmd.commandStatus = .finishedNodeRejected then
      match wdNode with
      | some i => standbyNodeLeftCluster i c
      | none => c
    else c
  | .commandFinished _ _ cmd, .standby, c =>
    if cmd.commandPacket.type = wdJoinCoordinatorMessage ∧
        ¬ (cmd.commandStatus = .finishedAllReplied ∨ cmd.commandStatus = .finishedTimeout) then
      setStateVia ctx env d .joining c
    else c
  | _, _, c => c

/-- The switch of `watchdog_state_machine`: the arm of the current state,
followed in the standby state by the master check, or `set_state(WD_LOADING)`
in a state without a handler. -/
def dispatchVia (arm : WDStates → WdCluster → WdCluster) (c : WdCluster) : WdCluster :=
  match WDStates.ofInt? c.localNode.state with
  | some s =>
    if s.hasHandler then
      if s = .standby then standbyMasterCheck ctx env (setStateVia ctx env d .joining) (arm s c)
      else arm s c
    else setStateVia ctx env d .loading c
  | none => setStateVia ctx env d .loading c

/-- `watchdog_state_machine` for an event it calls itself with: the part
before the switch, then the switch. -/
def nestedBody (e : NestedEvent) (c : WdCluster) : WdCluster :=
  let c := match e with
    | .newOutboundConnection i => sendAddNode ctx env i c
    | .remoteNodeLost i => remoteNodeLostPreamble ctx env i c
    | _ => c
  dispatchVia ctx env d (nestedArm ctx env d e) c

end

/-- The recursion cut at depth `n`, with `b` standing for every call at the cut. -/
def nestedDispatch (b : NestedEvent → WdCluster → WdCluster) : Nat → NestedEvent → WdCluster → WdCluster
  | 0 => b
  | n + 1 => nestedBody ctx env (nestedDispatch b n)

end

/-! ## The layers of the model are the recursion -/

section
variable {ctx : Ctx} {env : Env}

theorem dispatchVia_eq_onState {d : NestedEvent → WdCluster → WdCluster} {arm : WDStates → WdCluster → WdCluster}
    {arm' : WDStates → WdCluster → WdCluster} {c : WdCluster}
    (hload : setStateVia ctx env d .loading c = setState ctx env .loading c)
    (harm : ∀ s, c.localIs s → s.hasHandler = true →
      (if s = .standby then standbyMasterCheck ctx env (setStateVia ctx env d .joining) (arm s c)
        else arm s c) = arm' s c) :
    dispatchVia ctx env d arm c = onState ctx env arm' c := by
  unfold dispatchVia onState
  cases hs : WDStates.ofInt? c.localNode.state with
  | none => exact hload
  | some s =>
    dsimp only
    by_cases hh : s.hasHandler = true
    · rw [if_pos hh, if_pos hh]
      exact harm s (WDStates.toInt_of_ofInt? hs).symm hh
    · rw [if_neg hh, if_neg hh]
      exact hload

/-- `set_state` for a state with a handler runs that handler's entry arm. -/
theorem setState_of_hasHandler {s : WDStates} (hh : s.hasHandler = true) :
    setState ctx env s = setStateCore ctx env (enterArm ctx env s) s := by
  funext c
  unfold setState setStateCore
  rw [stateChanged_of_localIs ctx env _ (changeState_localIs env c s), if_pos hh]

/-- `set_state`'s dispatch is the state machine's `WD_EVENT_WD_STATE_CHANGED`. -/
theorem stateChanged_eq_nestedResult : stateChanged ctx env = nestedResult ctx env .stateChanged := by
  funext c
  show stateChanged ctx env c = onState ctx env (stateHandler ctx env .wdStateChanged) c
  have hload : setStateCore ctx env (enterArm ctx env .loading) .loading c = setState ctx env .loading c :=
    (congrFun (setState_of_hasHandler (s := .loading) rfl) c).symm
  unfold stateChanged onState
  cases hs : WDStates.ofInt? c.localNode.state with
  | none => exact hload
  | some s =>
    dsimp only
    by_cases hh : s.hasHandler = true
    · rw [if_pos hh, if_pos hh]
      by_cases hsb : s = .standby
      · subst hsb
        exact congrArg (standbyMasterCheck ctx env · _) (funext fun c => (setState_joining ctx env c).symm)
      · cases s <;> first | exact absurd rfl hsb | rfl
    · rw [if_neg hh, if_neg hh]
      exact hload

/-- The quorum dispatch of `update_quorum_status` is the state machine's
`WD_EVENT_CLUSTER_QUORUM_CHANGED`. -/
theorem updateQuorumStatus_eq_via : updateQuorumStatus ctx env = updateQuorumStatusVia ctx (nestedResult ctx env) := by
  have harms : withStandbyCheck ctx env (fun s c => if s = .coordinator then quorumChangedArm ctx env c else c) =
      stateHandler ctx env .clusterQuorumChanged := by
    funext s c
    cases s <;> rfl
  funext c
  unfold updateQuorumStatus updateQuorumStatusVia
  rw [harms]
  rfl

/-- The dispatch of `try_connecting_with_all_unreachable_nodes` from the
network-error state is the state machine's `WD_EVENT_NEW_OUTBOUND_CONNECTION`. -/
theorem newOutboundConnection_eq_nestedResult (i : Nat) :
    newOutboundConnection ctx env i = nestedResult ctx env (.newOutboundConnection i) := by
  have harms : withStandbyCheck ctx env (fun _ c => c) = stateHandler ctx env (.newOutboundConnection i) := by
    funext s c
    cases s <;> rfl
  funext c
  unfold newOutboundConnection
  rw [harms]
  rfl

theorem localIs_unique {c : WdCluster} {s t : WDStates} (hs : c.localIs s) (ht : c.localIs t) : s = t :=
  WDStates.toInt_injective (hs.symm.trans ht)

/-- In the joining state the dispatch of a new outbound connection is the
`AddNode` alone. -/
theorem nestedResult_newOutbound_of_joining {c : WdCluster} (i : Nat) (hc : c.localIs .joining) :
    nestedResult ctx env (.newOutboundConnection i) c = sendAddNode ctx env i c := by
  show onState ctx env (stateHandler ctx env (.newOutboundConnection i)) (sendAddNode ctx env i c) = _
  rw [onState_of_localIs ctx env _ ((sendsOnly_sendAddNode ctx env c i).keepsLocalIs hc) rfl]
  rfl

/-- `try_connecting_with_all_unreachable_nodes` with two dispatches that agree
on the states the loop passes through, a property that sending keeps. -/
theorem tryConnectingWithAllUnreachableNodes_congr {P : WdCluster → Prop}
    (hP : ∀ {c c'}, SendsOnly c c' → P c → P c') {f g : Nat → WdCluster → WdCluster}
    (hfg : ∀ i c, P c → f i c = g i c) (hg : ∀ i c, P c → SendsOnly c (g i c)) :
    ∀ (is : List Nat) (c : WdCluster), P c →
      tryConnectingWithAllUnreachableNodes env f is c = tryConnectingWithAllUnreachableNodes env g is c
  | [], _, _ => rfl
  | i :: is, c, hc => by
    have ih := tryConnectingWithAllUnreachableNodes_congr hP hfg hg is
    have hconn := hP (sendsOnly_connectToNode env i c) hc
    unfold tryConnectingWithAllUnreachableNodes
    cases c.remoteNodes[i]? with
    | none => exact ih _ hc
    | some n =>
      dsimp only
      split_ifs
      · rw [hfg i _ hconn]
        exact ih _ (hP (hg i _ hconn) hconn)
      · exact ih _ hconn
      · exact ih _ hc

section
variable {d : NestedEvent → WdCluster → WdCluster}

theorem dispatchVia_of_localIs {arm : WDStates → WdCluster → WdCluster} {c : WdCluster} {s : WDStates}
    (h : c.localIs s) (hh : s.hasHandler = true) (hs : s ≠ .standby) :
    dispatchVia ctx env d arm c = arm s c := by
  unfold dispatchVia
  rw [show c.localNode.state = s.toInt from h, WDStates.ofInt?_toInt]
  dsimp only
  rw [if_pos hh, if_neg hs]

/-- A state without a handler: the switch sets the loading state. -/
def NoHandler (c : WdCluster) : Prop := ∀ s, c.localIs s → s.hasHandler = false

theorem hasHandler_cases (c : WdCluster) : (∃ s, c.localIs s ∧ s.hasHandler = true) ∨ NoHandler c := by
  by_cases h : ∃ s, c.localIs s ∧ s.hasHandler = true
  · exact .inl h
  · exact .inr fun s hs => by simpa using fun hh => h ⟨s, hs, hh⟩

theorem dispatchVia_of_noHandler {arm : WDStates → WdCluster → WdCluster} {c : WdCluster} (h : NoHandler c) :
    dispatchVia ctx env d arm c = setStateVia ctx env d .loading c := by
  unfold dispatchVia
  cases hs : WDStates.ofInt? c.localNode.state with
  | none => rfl
  | some s =>
    dsimp only
    rw [if_neg (by rw [h s (WDStates.toInt_of_ofInt? hs).symm]; decide)]

theorem stateChanged_of_noHandler {c : WdCluster} (h : NoHandler c) :
    stateChanged ctx env c = setState ctx env .loading c := by
  rw [setState_of_hasHandler (s := .loading) rfl]
  unfold stateChanged
  cases hs : WDStates.ofInt? c.localNode.state with
  | none => rfl
  | some s =>
    dsimp only
    rw [if_neg (by rw [h s (WDStates.toInt_of_ofInt? hs).symm]; decide)]

/-- `set_state(s)` through `d` is `set_state(s)` when `d` dispatches
`WD_EVENT_WD_STATE_CHANGED` as the state machine does in state `s`. -/
theorem setStateVia_eq {s : WDStates}
    (h : ∀ c, c.localIs s → d .stateChanged c = nestedResult ctx env .stateChanged c) :
    setStateVia ctx env d s = setState ctx env s := by
  funext c
  unfold setStateVia setState setStateCore
  rw [stateChanged_eq_nestedResult, h _ (changeState_localIs env c s)]

theorem updateQuorumStatusVia_eq
    (h : ∀ c, c.localIs .coordinator → d .quorumChanged c = nestedResult ctx env .quorumChanged c)
    {c : WdCluster} (hc : c.localIs .coordinator) :
    updateQuorumStatusVia ctx d c = updateQuorumStatus ctx env c := by
  rw [updateQuorumStatus_eq_via]
  unfold updateQuorumStatusVia
  dsimp only
  split_ifs
  · exact h _ hc
  · rfl

theorem declareAcceptedVia_eq
    (h : ∀ c, c.localIs .coordinator → d .quorumChanged c = nestedResult ctx env .quorumChanged c)
    {c : WdCluster} (hc : c.localIs .coordinator) :
    declareAcceptedVia ctx env d c = declareAccepted ctx env c := by
  unfold declareAcceptedVia declareAccepted
  rw [updateQuorumStatusVia_eq h hc]

theorem joiningEnterVia_eq
    (h : ∀ i c, c.localIs .joining → d (.newOutboundConnection i) c = nestedResult ctx env (.newOutboundConnection i) c)
    {c : WdCluster} (hc : c.localIs .joining) :
    joiningEnterVia ctx env d c = joiningEnter ctx env c := by
  unfold joiningEnterVia joiningEnter
  dsimp only
  rw [tryConnectingWithAllUnreachableNodes_congr (P := (·.localIs .joining)) (fun h hc => h.keepsLocalIs hc)
    (fun i c hc => (h i c hc).trans (nestedResult_newOutbound_of_joining i hc))
    (fun i c _ => sendsOnly_sendAddNode ctx env c i) _ (c.setClusterMasterNode none) hc]

end

end

/-! ## Three levels reach the model -/

theorem WDStates.entersQuietly_iff {s : WDStates} :
    s.entersQuietly = true ↔ s.hasHandler = true ∧ s ≠ .joining ∧ s ≠ .standby := by
  cases s <;> decide

section
variable (ctx : Ctx) (env : Env)

/-- A dispatch that agrees with the model on the calls that call it no
further: an outbound connection while joining, a quorum change at the
coordinator, and the entry of a state that enters quietly. -/
structure LeafAgree (d : NestedEvent → WdCluster → WdCluster) : Prop where
  newOutbound : ∀ i c, c.localIs .joining →
    d (.newOutboundConnection i) c = nestedResult ctx env (.newOutboundConnection i) c
  quorumChanged : ∀ c, c.localIs .coordinator → d .quorumChanged c = nestedResult ctx env .quorumChanged c
  enteredQuietly : ∀ s c, c.localIs s → s.entersQuietly = true →
    d .stateChanged c = nestedResult ctx env .stateChanged c

/-- A dispatch that also agrees on the entry of every state but standby: every
call `set_state` makes. -/
structure EntryAgree (d : NestedEvent → WdCluster → WdCluster) extends LeafAgree ctx env d : Prop where
  entered : ∀ c, ¬ c.localIs .standby → d .stateChanged c = nestedResult ctx env .stateChanged c

end

section
variable {ctx : Ctx} {env : Env}

/-- One level over any dispatch agrees on the calls that call no further. -/
theorem leafAgree_nestedBody (d : NestedEvent → WdCluster → WdCluster) :
    LeafAgree ctx env (nestedBody ctx env d) where
  newOutbound i c hc := by
    show dispatchVia ctx env d (nestedArm ctx env d (.newOutboundConnection i)) (sendAddNode ctx env i c) = _
    rw [nestedResult_newOutbound_of_joining i hc]
    exact dispatchVia_of_localIs ((sendsOnly_sendAddNode ctx env c i).keepsLocalIs hc) rfl (by decide)
  quorumChanged c hc := by
    show dispatchVia ctx env d (nestedArm ctx env d .quorumChanged) c =
      onState ctx env (stateHandler ctx env .clusterQuorumChanged) c
    rw [onState_of_localIs ctx env c hc rfl]
    exact dispatchVia_of_localIs hc rfl (by decide)
  enteredQuietly s c hc hq := by
    obtain ⟨hh, hj, hsb⟩ := WDStates.entersQuietly_iff.1 hq
    show dispatchVia ctx env d (nestedArm ctx env d .stateChanged) c = _
    rw [← stateChanged_eq_nestedResult, stateChanged_of_localIs ctx env c hc, if_pos hh,
      dispatchVia_of_localIs hc hh hsb]
    cases s <;> first | exact absurd rfl hj | exact absurd rfl hsb | rfl

/-- Two levels over any dispatch agree on every entry but standby's. -/
theorem entryAgree_nestedBody {d : NestedEvent → WdCluster → WdCluster} (h : LeafAgree ctx env d) :
    EntryAgree ctx env (nestedBody ctx env d) where
  toLeafAgree := leafAgree_nestedBody d
  entered c hc := by
    show dispatchVia ctx env d (nestedArm ctx env d .stateChanged) c = _
    rw [← stateChanged_eq_nestedResult]
    rcases hasHandler_cases c with ⟨s, hs, hh⟩ | hno
    · have hsb : s ≠ .standby := fun e => hc (e ▸ hs)
      rw [dispatchVia_of_localIs hs hh hsb, stateChanged_of_localIs ctx env c hs, if_pos hh]
      by_cases hj : s = .joining
      · subst hj
        exact joiningEnterVia_eq h.newOutbound hs
      · cases s <;> first | exact absurd rfl hj | exact absurd rfl hsb | rfl
    · rw [dispatchVia_of_noHandler hno, stateChanged_of_noHandler hno]
      exact congrFun (setStateVia_eq fun c hc => h.enteredQuietly .loading c hc rfl) c

/-- Three levels: a dispatch that agrees on every entry but standby's, one
level down, gives the model for every event. -/
theorem nestedBody_eq_nestedResult {d : NestedEvent → WdCluster → WdCluster} (h : EntryAgree ctx env d) :
    nestedBody ctx env d = nestedResult ctx env := by
  have hset : ∀ t, t ≠ .standby → setStateVia ctx env d t = setState ctx env t := fun t ht =>
    setStateVia_eq fun c hc => h.entered c fun hsb => ht (localIs_unique hc hsb)
  have hL := hset .loading (by decide)
  have hJ := hset .joining (by decide)
  have hI := hset .initializing (by decide)
  have hC := hset .coordinator (by decide)
  have hP := hset .participateInElection (by decide)
  funext e c
  cases e with
  | stateChanged =>
    refine dispatchVia_eq_onState (congrFun hL c) fun s hs _ => ?_
    by_cases hj : s = .joining
    · subst hj
      exact joiningEnterVia_eq h.newOutbound hs
    · rw [hJ]
      cases s <;> first | exact absurd rfl hj | rfl
  | quorumChanged =>
    refine dispatchVia_eq_onState (congrFun hL c) fun s _ _ => ?_
    rw [hJ]
    cases s <;> rfl
  | newOutboundConnection i =>
    refine dispatchVia_eq_onState (congrFun hL _) fun s _ _ => ?_
    rw [hJ]
    cases s <;> rfl
  | remoteNodeLost i =>
    refine dispatchVia_eq_onState (congrFun hL _) fun s _ _ => ?_
    cases s <;> unfold nestedArm <;> simp only [hJ] <;> rfl
  | commandFinished w p cmd =>
    refine dispatchVia_eq_onState (congrFun hL _) fun s hs _ => ?_
    by_cases hsc : s = .coordinator
    · subst hsc
      unfold nestedArm; simp only [hJ, declareAcceptedVia_eq h.quorumChanged hs]
      rfl
    · cases s <;> first | exact absurd rfl hsc | (unfold nestedArm; simp only [hJ, hI, hC, hP]; rfl)

/-- The model solves the recursion's equations: one level over the model is
the model. -/
theorem nestedBody_nestedResult : nestedBody ctx env (nestedResult ctx env) = nestedResult ctx env :=
  nestedBody_eq_nestedResult ⟨⟨fun _ _ _ => rfl, fun _ _ => rfl, fun _ _ _ _ => rfl⟩, fun _ _ => rfl⟩

/-- Three levels over any dispatch are the model. -/
theorem nestedDispatch_add_three (b : NestedEvent → WdCluster → WdCluster) (k : Nat) :
    nestedDispatch ctx env b (k + 3) = nestedResult ctx env :=
  nestedBody_eq_nestedResult (entryAgree_nestedBody (leafAgree_nestedBody _))

/-- `set_state`'s dispatch is the recursion's. -/
theorem setState_eq_via : setState ctx env = setStateVia ctx env (nestedResult ctx env) :=
  funext fun _ => (setStateVia_eq fun _ _ => rfl).symm

end

/-- Every call of `watchdog_state_machine` ends, and the calls it makes of
itself nest at most three deep, whatever the state, the event, the peers and
the pending commands. The recursion written out level by level, cut at any
depth from three on with anything standing for the calls at the cut, is the
model for every event it calls itself with; the model solves the recursion's
equations; and `set_state`, `update_quorum_status` and the outbound-connection
dispatch enter it through those events. -/
theorem recursion_depth_at_most_three (ctx : Ctx) (env : Env) :
    (∀ (b : NestedEvent → WdCluster → WdCluster) (k : Nat),
      nestedDispatch ctx env b (k + 3) = nestedResult ctx env) ∧
    nestedBody ctx env (nestedResult ctx env) = nestedResult ctx env ∧
    setState ctx env = setStateVia ctx env (nestedResult ctx env) ∧
    updateQuorumStatus ctx env = updateQuorumStatusVia ctx (nestedResult ctx env) ∧
    ∀ i, newOutboundConnection ctx env i = nestedResult ctx env (.newOutboundConnection i) :=
  ⟨nestedDispatch_add_three, nestedBody_nestedResult, setState_eq_via, updateQuorumStatus_eq_via,
    newOutboundConnection_eq_nestedResult⟩

end pgpool.watchdog
