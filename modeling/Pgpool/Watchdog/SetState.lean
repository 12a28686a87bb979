-- set_state and update_quorum_status, with the arms of watchdog_state_machine
-- that they dispatch to: WD_EVENT_WD_STATE_CHANGED for the state entered, and
-- WD_EVENT_CLUSTER_QUORUM_CHANGED. Leaving the coordinator state resigns the
-- escalation and clears the standby list and the failover proposals.
import Pgpool.Watchdog.Leader
import Pgpool.Watchdog.Quorum
import Pgpool.Watchdog.FailoverStore

namespace pgpool.watchdog

/-- The states `watchdog_state_machine` has a handler for; in any other state
its switch falls to the default arm, which calls `set_state(WD_LOADING)`. -/
def WDStates.hasHandler : WDStates → Bool
  | .dead | .shutdown | .addMessageSent => false
  | _ => true

/-- Seconds between two times, `WD_TIME_DIFF_SEC`; the model keeps whole seconds. -/
def wdTimeDiffSec (a b : Int) : Int := a - b

def maxSecsWaitForReplyFromNode : Nat := 5
def beaconMessageIntervalSeconds : Int := 10

section
variable (ctx : Ctx) (env : Env)

/-! ## set_state, with the entered state as a parameter -/

/-- What `set_state` does on leaving the coordinator state: resign the
escalation, then clear the standby list and the failover proposals. -/
def leaveCoordinator (c : WdCluster) : WdCluster :=
  clearAllFailovers (clearStandbyNodesList (resignFromEscalatedNode env c))

/-- The first half of `set_state` for a state that changes: the new state and
the time it was entered, and the clean-up when the old state was coordinator. -/
def changeState (newState : WDStates) (c : WdCluster) : WdCluster :=
  let c' := { c with localNode := { c.localNode with state := newState.toInt, currentStateTime := env.now } }
  if c.localIs .coordinator then leaveCoordinator env c' else c'

/-- `set_state` with `enter` the `WD_EVENT_WD_STATE_CHANGED` dispatch that
runs once the state has changed; setting the state a node is in does nothing. -/
def setStateCore (enter : WdCluster → WdCluster) (newState : WDStates) (c : WdCluster) :
    WdCluster :=
  if c.localIs newState then c
  else (sendMessageOfType ctx env none wdInfoMessage none (enter (changeState env newState c))).2

/-! ## The WD_EVENT_WD_STATE_CHANGED arms -/

/-- The loop of the loading arm: `AddNode` to every connected peer still
recorded dead, which is then recorded as `WD_ADD_MESSAGE_SENT`. -/
def loadingAddNodes (pkt : WDPacketData) : List Nat → WdCluster → WdCluster
  | [], c => c
  | i :: is, c =>
    let c := match c.remoteNodes[i]? with
      | some n =>
        if n.clientSocket.sockState = .connected ∧ n.state = WDStates.dead.toInt then
          let r := sendMessageToNode ctx env i pkt c
          if r.1 then r.2.modifyRemote i fun m => { m with state := WDStates.addMessageSent.toInt }
          else r.2
        else c
      | none => c
    loadingAddNodes pkt is c

/-- The loading arm on entry. -/
def loadingEnter (c : WdCluster) : WdCluster :=
  let m := getAddnodeMessage env c
  (loadingAddNodes ctx env m.1 (List.range c.remoteNodeCount) m.2).setTimeout env.now
    maxSecsWaitForReplyFromNode

/-- What `watchdog_state_machine` does on `WD_EVENT_NEW_OUTBOUND_CONNECTION`
before its switch: an `AddNode` to the node. No state handler takes the
event, so in the joining state this is the whole dispatch. -/
def sendAddNode (i : Nat) (c : WdCluster) : WdCluster :=
  let m := getAddnodeMessage env c
  (sendMessage ctx env (some (i + 1)) m.1 m.2).2

/-- The joining arm on entry: forget the master, reconnect, and ask every
node for its information. -/
def joiningEnter (c : WdCluster) : WdCluster :=
  let c := c.setClusterMasterNode none
  let c := tryConnectingWithAllUnreachableNodes env (sendAddNode ctx env)
    (List.range c.remoteNodeCount) c
  let c := (sendClusterCommand ctx env none wdReqInfoMessage 4 c).2
  c.setTimeout env.now maxSecsWaitForReplyFromNode

/-- `set_state(WD_JOINING)` from a state other than joining. -/
def setStateJoining (c : WdCluster) : WdCluster :=
  setStateCore ctx env (joiningEnter ctx env) .joining c

/-- The check at the end of the standby arm, after every event: with no word
from the master for two beacon intervals, rejoin; after one, ask it for its
information. -/
def standbyMasterCheck (setJoining : WdCluster → WdCluster) (c : WdCluster) : WdCluster :=
  match c.getMasterWatchdogNode with
  | none => c
  | some m =>
    let lastRcv := match m with
      | 0 => c.localNode.lastRcvTime
      | i + 1 => (c.remote i).lastRcvTime
    let lastRcvSec := wdTimeDiffSec env.now lastRcv
    if lastRcvSec ≥ 2 * beaconMessageIntervalSeconds then setJoining c
    else if lastRcvSec ≥ beaconMessageIntervalSeconds then
      (sendMessageOfType ctx env (some m) wdReqInfoMessage none c).2
    else c

/-- The standby arm of `WD_EVENT_WD_STATE_CHANGED`: join the master, reset
the priority. -/
def standbyJoin (c : WdCluster) : WdCluster :=
  let c := (sendClusterCommand ctx env c.getMasterWatchdogNode wdJoinCoordinatorMessage 5 c).2
  { c with localNode := { c.localNode with wdPriority := ctx.cfg.wdPriority } }

/-- The standby handler on entry: the arm, then the master check. -/
def standbyEnter (c : WdCluster) : WdCluster :=
  standbyMasterCheck ctx env (setStateJoining ctx env) (standbyJoin ctx env c)

/-- The coordinator arm on entry: declare, and reset the priority. -/
def coordinatorEnter (c : WdCluster) : WdCluster :=
  let c := (sendClusterCommand ctx env none wdDeclareCoordinatorMessage 4 c).2
  let c := c.setTimeout env.now maxSecsWaitForReplyFromNode
  { c with localNode := { c.localNode with wdPriority := ctx.cfg.wdPriority } }

/-- The `WD_EVENT_WD_STATE_CHANGED` arm of the handler of state `s`. The
network-error handler commits suicide with `ereport(FATAL)`. -/
def enterArm (s : WDStates) (c : WdCluster) : WdCluster :=
  match s with
  | .loading => loadingEnter ctx env c
  | .joining => joiningEnter ctx env c
  | .initializing => c.setTimeout env.now 1
  | .coordinator => coordinatorEnter ctx env c
  | .participateInElection => c.setTimeout env.now maxSecsWaitForReplyFromNode
  | .standForCoordinator =>
    (sendClusterCommand ctx env none wdStandForCoordinatorMessage 4 c).2.setTimeout env.now
      maxSecsWaitForReplyFromNode
  | .standby => standbyEnter ctx env c
  | .lost | .inNwTrouble => c.fatal
  | .dead | .shutdown | .addMessageSent => c

/-- `watchdog_state_machine(WD_EVENT_WD_STATE_CHANGED)`: the arm of the
current state, or `set_state(WD_LOADING)` in a state without a handler. -/
def stateChanged (c : WdCluster) : WdCluster :=
  match WDStates.ofInt? c.localNode.state with
  | some s => if s.hasHandler then enterArm ctx env s c
    else setStateCore ctx env (enterArm ctx env .loading) .loading c
  | none => setStateCore ctx env (enterArm ctx env .loading) .loading c

/-- `set_state`. -/
def setState (newState : WDStates) (c : WdCluster) : WdCluster :=
  setStateCore ctx env (stateChanged ctx env) newState c

/-- The switch of `watchdog_state_machine` for an event: the handler of the
current state, or `set_state(WD_LOADING)` when the state has none. -/
def onState (arm : WDStates → WdCluster → WdCluster) (c : WdCluster) : WdCluster :=
  match WDStates.ofInt? c.localNode.state with
  | some s => if s.hasHandler then arm s c else setState ctx env .loading c
  | none => setState ctx env .loading c

/-- A state handler's arm for an event, followed in the standby state by the
master check that ends `watchdog_state_machine_standby` whatever the event. -/
def withStandbyCheck (arm : WDStates → WdCluster → WdCluster) (s : WDStates) (c : WdCluster) :
    WdCluster :=
  let c := arm s c
  if s = .standby then standbyMasterCheck ctx env (setState ctx env .joining) c else c

/-- `watchdog_state_machine(WD_EVENT_NEW_OUTBOUND_CONNECTION)` for remote node
`i`: the `AddNode`, and no handler arm. -/
def newOutboundConnection (i : Nat) (c : WdCluster) : WdCluster :=
  onState ctx env (withStandbyCheck ctx env fun _ c => c) (sendAddNode ctx env i c)

/-! ## The quorum -/

/-- The coordinator arm of `WD_EVENT_CLUSTER_QUORUM_CHANGED`: once accepted as
master, resign when the quorum is lost and escalate when it is found, then
tell the cluster. -/
def quorumChangedArm (c : WdCluster) : WdCluster :=
  if c.getMasterWatchdogNode = some 0 then
    let c := if c.quorumStatus = -1 then resignFromEscalatedNode env c
      else if 0 ≤ c.quorumStatus ∧ c.localNode.escalated = false then startEscalatedNode env c
      else c
    (sendMessageOfType ctx env none wdInfoMessage none c).2
  else c

/-- `update_quorum_status`: the quorum from the standby count, and the
`WD_EVENT_CLUSTER_QUORUM_CHANGED` event when it changed. -/
def updateQuorumStatus (c : WdCluster) : WdCluster :=
  let oldStatus := c.quorumStatus
  let q := quorumStatusFor c.remoteNodeCount c.clusterMasterInfo.standbyNodesCount
    ctx.cfg.enableConsensusWithHalfVotes
  let c := c.setQuorumStatus q
  if q ≠ oldStatus then
    onState ctx env
      (withStandbyCheck ctx env fun s c => if s = .coordinator then quorumChangedArm ctx env c else c) c
  else c

end

/-! ## What set_state and its arms do to the coordinator view -/

section
variable (ctx : Ctx) (env : Env) (c : WdCluster)

theorem core_leaveCoordinator :
    (leaveCoordinator env c).core =
      { c.core with
        escalated := false, standbyNodesCount := 0, failovers := [],
        holdingVip := if c.localNode.escalated then false else c.core.holdingVip } := by
  show { (resignFromEscalatedNode env c).core with standbyNodesCount := 0, failovers := [] } = _
  rw [core_resignFromEscalatedNode]
  cases he : c.localNode.escalated <;> simp [WdCluster.core, he]

theorem core_changeState (s : WDStates) :
    (changeState env s c).core =
      if c.localIs .coordinator then
        { c.core with
          state := s.toInt, escalated := false, standbyNodesCount := 0, failovers := [],
          holdingVip := if c.localNode.escalated then false else c.core.holdingVip }
      else { c.core with state := s.toInt } := by
  unfold changeState
  split
  · rw [core_leaveCoordinator]; rfl
  · rfl

@[simp] theorem changeState_state (s : WDStates) : (changeState env s c).localNode.state = s.toInt := by
  have h := congrArg CoreView.state (core_changeState env c s)
  split at h <;> exact h

theorem changeState_localIs (s : WDStates) : (changeState env s c).localIs s := changeState_state env c s

@[simp] theorem changeState_master (s : WDStates) :
    (changeState env s c).getMasterWatchdogNode = c.getMasterWatchdogNode := by
  have h := congrArg CoreView.masterNode (core_changeState env c s)
  split at h <;> exact h

/-- After a change of state, `WD_EVENT_WD_STATE_CHANGED` runs the arm of the
state entered. -/
theorem stateChanged_of_localIs {s : WDStates} (h : c.localIs s) :
    stateChanged ctx env c =
      if s.hasHandler then enterArm ctx env s c
      else setStateCore ctx env (enterArm ctx env .loading) .loading c := by
  simp only [WdCluster.localIs] at h
  simp only [stateChanged, h, WDStates.ofInt?_toInt]

/-- `set_state(WD_JOINING)` is `setStateJoining`: the joining arm is the one
that runs. -/
theorem setState_joining : setState ctx env .joining c = setStateJoining ctx env c := by
  unfold setState setStateJoining setStateCore
  rw [stateChanged_of_localIs ctx env _ (changeState_localIs env c .joining)]
  rfl

theorem sendsOnly_sendAddNode (i : Nat) : SendsOnly c (sendAddNode ctx env i c) :=
  (sendsOnly_dataMessage _ _ _ c).trans (sendsOnly_sendMessage ctx env _ _ _)

theorem core_loadingAddNodes (pkt : WDPacketData) :
    ∀ (is : List Nat) (c : WdCluster), (loadingAddNodes ctx env pkt is c).core = c.core
  | [], _ => rfl
  | i :: is, c => by
    unfold loadingAddNodes
    rw [core_loadingAddNodes pkt is]
    split
    · have h := sendsOnly_sendMessageToNode ctx env i pkt c
      dsimp only
      split_ifs
      · rw [WdCluster.core_modifyRemote, h.core]
      · exact h.core
      · rfl
    · rfl

@[simp] theorem core_loadingEnter : (loadingEnter ctx env c).core = c.core := by
  unfold loadingEnter
  rw [WdCluster.core_setTimeout, core_loadingAddNodes]
  exact (sendsOnly_dataMessage _ _ _ c).core

@[simp] theorem core_joiningEnter :
    (joiningEnter ctx env c).core = { c.core with masterNode := none } := by
  unfold joiningEnter
  rw [WdCluster.core_setTimeout, (sendsOnly_sendClusterCommand ctx env _ _ _ _).core,
    (sendsOnly_tryConnectingWithAllUnreachableNodes env (P := fun _ => True) (fun _ _ => trivial) _
      (fun i c _ => sendsOnly_sendAddNode ctx env c i) _ _ trivial).core]
  rfl

/-- A coordinator that rejoins drops its failover proposals. -/
theorem setState_joining_failovers (hc : c.localIs .coordinator) :
    (setState ctx env .joining c).wdCurrentFailovers = [] := by
  have hj : ¬ c.localIs .joining := by
    simp only [WdCluster.localIs] at hc ⊢; rw [hc]; decide
  rw [setState_joining]
  unfold setStateJoining setStateCore
  rw [if_neg hj, (sendsOnly_sendMessageOfType ctx env _ _ _ _).failovers, ← WdCluster.core_failovers,
    core_joiningEnter, core_changeState, if_pos hc]

theorem localIs_setState_joining : (setState ctx env .joining c).localIs .joining := by
  rw [setState_joining]
  unfold setStateJoining setStateCore
  split_ifs with h
  · exact h
  · refine (sendsOnly_sendMessageOfType ctx env _ _ _ _).keepsLocalIs ?_
    exact (congrArg CoreView.state (core_joiningEnter ctx env _)).trans (changeState_localIs env c .joining)

@[simp] theorem core_coordinatorEnter : (coordinatorEnter ctx env c).core = c.core := by
  have h := (sendsOnly_sendClusterCommand ctx env none wdDeclareCoordinatorMessage 4 c).core
  unfold coordinatorEnter
  generalize sendClusterCommand ctx env none wdDeclareCoordinatorMessage 4 c = r at h ⊢
  exact h

@[simp] theorem core_standbyJoin : (standbyJoin ctx env c).core = c.core :=
  (sendsOnly_sendClusterCommand ctx env c.getMasterWatchdogNode wdJoinCoordinatorMessage 5 c).core

/-- In a state with a handler the switch runs that handler's arm. -/
theorem onState_of_localIs {arm : WDStates → WdCluster → WdCluster} {s : WDStates} (h : c.localIs s)
    (hh : s.hasHandler = true) : onState ctx env arm c = arm s c := by
  simp only [WdCluster.localIs] at h
  simp only [onState, h, WDStates.ofInt?_toInt, hh, if_true]

@[simp] theorem quorumChangedArm_state :
    (quorumChangedArm ctx env c).localNode.state = c.localNode.state := by
  unfold quorumChangedArm
  split_ifs <;> simp only [(sendsOnly_sendMessageOfType ctx env _ _ _ _).localNode,
    resignFromEscalatedNode_state, startEscalatedNode_state]

/-- A change of quorum never moves the coordinator out of its state. -/
theorem updateQuorumStatus_localIs_coordinator (hc : c.localIs .coordinator) :
    (updateQuorumStatus ctx env c).localIs .coordinator := by
  unfold updateQuorumStatus
  dsimp only
  simp only [WdCluster.localIs] at hc ⊢
  split_ifs
  · simp [onState, withStandbyCheck, WDStates.hasHandler, hc]
  · exact hc

end

end pgpool.watchdog
