-- The coordinator invariant of a live watchdog: escalation and the delegate IP,
-- the failover proposals, the standby count and a local master belong to the
-- coordinator, and a standby follows a remote master. set_state,
-- update_quorum_status, the escalation and the packet processors keep it.
import Pgpool.Watchdog.Packets
import Pgpool.Watchdog.Consensus

namespace pgpool.watchdog

/-! ## The invariant -/

/-- What the coordinator view of a live watchdog keeps in every state: an
escalated node is the coordinator, the master and has a quorum; only an
escalated node holds the VIP; proposals, standbys and a local master belong to
the coordinator; a remote master is a configured peer; and the quorum is never
below -1. -/
structure CoordinatorOnly (v : CoreView) : Prop where
  escalated : v.escalated = true →
    v.state = WDStates.coordinator.toInt ∧ v.masterNode = some 0 ∧ 0 ≤ v.quorumStatus
  holdingVip : v.holdingVip = true → v.escalated = true
  failovers : v.failovers ≠ [] → v.state = WDStates.coordinator.toInt
  standbys : 0 < v.standbyNodesCount → v.state = WDStates.coordinator.toInt
  masterLocal : v.masterNode = some 0 → v.state = WDStates.coordinator.toInt
  masterRemote : ∀ i, v.masterNode = some (i + 1) → i < v.remoteNodeCount
  quorum : -1 ≤ v.quorumStatus

/-- The invariant: the above, and a standby follows a remote master. -/
structure Inv (v : CoreView) extends CoordinatorOnly v : Prop where
  standbyMaster : v.state = WDStates.standby.toInt → ∃ i, v.masterNode = some (i + 1)

/-- A watchdog with `n` peers is good when it has exited or its coordinator
view keeps the invariant. -/
def Good (n : Nat) (c : WdCluster) : Prop :=
  c.core.exited = true ∨ (Inv c.core ∧ c.core.remoteNodeCount = n)

/-- Good but for the master a standby needs: what a lost master leaves until
the standby handler rejoins. -/
def NearlyGood (n : Nat) (c : WdCluster) : Prop :=
  c.core.exited = true ∨ (CoordinatorOnly c.core ∧ c.core.remoteNodeCount = n)

/-! ## The invariant on views -/

section
variable {v : CoreView}

/-- Outside the coordinator state nothing of the coordinator's is held. -/
theorem CoordinatorOnly.idle (h : CoordinatorOnly v) (hc : v.state ≠ WDStates.coordinator.toInt) :
    v.escalated = false ∧ v.holdingVip = false ∧ v.failovers = [] ∧ v.standbyNodesCount ≤ 0 ∧
      v.masterNode ≠ some 0 := by
  have he : v.escalated = false := Bool.eq_false_iff.2 fun he => hc (h.escalated he).1
  refine ⟨he, Bool.eq_false_iff.2 fun hv => ?_, ?_, ?_, fun hm => hc (h.masterLocal hm)⟩
  · simpa [he] using h.holdingVip hv
  · by_contra hf; exact hc (h.failovers hf)
  · by_contra hs; exact hc (h.standbys (by omega))

/-- A view that holds nothing of the coordinator's and has no master keeps
the invariant in any state but standby. -/
theorem Inv.of_masterless (he : v.escalated = false) (hv : v.holdingVip = false)
    (hf : v.failovers = []) (hs : v.standbyNodesCount ≤ 0) (hm : v.masterNode = none)
    (hq : -1 ≤ v.quorumStatus) (hsb : v.state ≠ WDStates.standby.toInt) : Inv v where
  escalated h := by simp [he] at h
  holdingVip h := by simp [hv] at h
  failovers h := absurd hf h
  standbys h := absurd hs (by omega)
  masterLocal h := by simp [hm] at h
  masterRemote i h := by simp [hm] at h
  quorum := hq
  standbyMaster h := absurd h hsb

/-- A node outside the coordinator state may take any state; it becomes a
standby only with a master. -/
theorem Inv.withState (h : Inv v) (hc : v.state ≠ WDStates.coordinator.toInt) {s : WDStates}
    (hs : s = .standby → v.masterNode ≠ none) : Inv { v with state := s.toInt } := by
  obtain ⟨he, hv, hf, hsb, hm⟩ := h.idle hc
  refine ⟨⟨fun h' => ?_, fun h' => ?_, fun h' => absurd hf h', fun h' => ?_, fun h' => absurd h' hm,
    h.masterRemote, h.quorum⟩, fun h' => ?_⟩
  · simp [he] at h'
  · simp [hv] at h'
  · exact absurd hsb (by dsimp only at h'; omega)
  · show ∃ i, v.masterNode = some (i + 1)
    have hn := hs (WDStates.toInt_injective h')
    match hmn : v.masterNode, hn, hm with
    | some (i + 1), _, _ => exact ⟨i, rfl⟩

/-- The coordinator may change its standby count; elsewhere a count above zero
is never set. -/
theorem Inv.withStandbys (h : Inv v) {k : Int} (hk : 0 < k → v.state = WDStates.coordinator.toInt) :
    Inv { v with standbyNodesCount := k } :=
  { h with standbys := hk }

/-- The coordinator may change its proposals; elsewhere a non-empty list is
never set. -/
theorem Inv.withFailovers (h : Inv v) {fs : List WDFailoverObject}
    (hf : fs ≠ [] → v.state = WDStates.coordinator.toInt) : Inv { v with failovers := fs } :=
  { h with failovers := hf }

/-- A master that is not the local node may be forgotten: only a standby then
breaks the invariant. -/
theorem Inv.forgetMaster (h : Inv v) (hm : v.masterNode ≠ some 0) :
    CoordinatorOnly { v with masterNode := none } :=
  { h.toCoordinatorOnly with
    escalated := fun he => absurd (h.escalated he).2.1 hm
    masterLocal := fun h' => by simp at h'
    masterRemote := fun _ h' => by simp at h' }

/-- Resigning keeps the invariant, whatever the quorum has become. -/
theorem Inv.resigned (h : Inv v) {q : Int} (hq : -1 ≤ q) :
    Inv { v with quorumStatus := q, escalated := false, holdingVip := false } :=
  { h with escalated := fun h' => by simp at h', holdingVip := fun h' => by simp at h', quorum := hq }

end

/-! ## Good states -/

section
variable {n : Nat} {c c' : WdCluster}

theorem Good.of_core (h : c'.core = c.core) (hc : Good n c) : Good n c' := by
  rwa [Good, h]

theorem Good.of_sendsOnly (h : SendsOnly c c') (hc : Good n c) : Good n c' := hc.of_core h.core

/-- A branch is good when each arm is good under its condition. -/
theorem Good.ite_of {p : Prop} [Decidable p] {a b : WdCluster} (ha : p → Good n a) (hb : ¬ p → Good n b) :
    Good n (if p then a else b) := by
  split
  exacts [ha ‹_›, hb ‹_›]

theorem Good.ite {p : Prop} [Decidable p] {a b : WdCluster} (ha : Good n a) (hb : Good n b) :
    Good n (if p then a else b) :=
  .ite_of (fun _ => ha) fun _ => hb

/-- The same, for a branch that returns a result with the state. -/
theorem Good.ite_map {α : Type} (f : α → WdCluster) {p : Prop} [Decidable p] {a b : α}
    (ha : Good n (f a)) (hb : Good n (f b)) : Good n (f (if p then a else b)) := by
  split
  exacts [ha, hb]

/-- The command lists are outside the coordinator view. -/
theorem Good.withClusterCommands (l : List WDCommandData) (hc : Good n c) :
    Good n { c with clusterCommands := l } := hc.of_core rfl

theorem Good.nearly (h : Good n c) : NearlyGood n c :=
  h.imp_right fun h => ⟨h.1.toCoordinatorOnly, h.2⟩

theorem good_fatal : Good n c.fatal := Or.inl rfl

theorem good_modifyRemote (i : Nat) (f : WatchdogNode → WatchdogNode) (h : Good n c) :
    Good n (c.modifyRemote i f) :=
  h.of_core (WdCluster.core_modifyRemote c i f)

end

/-! ## set_state -/

/-- What `set_state` needs of the node to keep the invariant: a coordinator
leaves only for joining or a fatal state, and a standby needs a master. -/
def SetStateOk (c : WdCluster) : WDStates → Prop
  | .joining | .coordinator | .lost | .inNwTrouble => True
  | .standby => ¬ c.localIs .coordinator ∧ c.getMasterWatchdogNode ≠ none
  | _ => ¬ c.localIs .coordinator

theorem SendsOnly.localIs_iff {c c' : WdCluster} (h : SendsOnly c c') {s : WDStates} :
    c'.localIs s ↔ c.localIs s := by
  unfold WdCluster.localIs
  rw [h.localNode]

theorem SetStateOk.of_sendsOnly {c c' : WdCluster} (h : SendsOnly c c') {s : WDStates}
    (hs : SetStateOk c s) : SetStateOk c' s := by
  have hl : c'.localIs .coordinator ↔ c.localIs .coordinator := by
    simp only [WdCluster.localIs, h.localNode]
  have hm : c'.getMasterWatchdogNode = c.getMasterWatchdogNode := by
    simp only [WdCluster.getMasterWatchdogNode, h.clusterMasterInfo]
  cases s <;> simp only [SetStateOk, hl, hm] at hs ⊢ <;> exact hs

section
variable (ctx : Ctx) (env : Env) {n : Nat} {c : WdCluster}

theorem good_changeState {s : WDStates} (h : Good n c) (hc : ¬ c.localIs .coordinator)
    (hs : s = .standby → c.getMasterWatchdogNode ≠ none) : Good n (changeState env s c) := by
  unfold Good
  rw [core_changeState, if_neg hc]
  exact h.imp_right fun h => ⟨h.1.withState hc hs, h.2⟩

/-- Joining keeps the invariant from any state: the coordinator's data is
dropped on leaving it, and the joining arm forgets the master. -/
theorem good_setStateJoining (h : NearlyGood n c) : Good n (setStateJoining ctx env c) := by
  unfold setStateJoining setStateCore
  split_ifs with hj
  · exact h.imp_right fun h => ⟨⟨h.1, fun hs => absurd (hj.symm.trans hs) (by decide)⟩, h.2⟩
  refine Good.of_sendsOnly (sendsOnly_sendMessageOfType ctx env _ _ _ _) ?_
  unfold Good
  rw [core_joiningEnter, core_changeState]
  by_cases hc : c.localIs .coordinator
  · rw [if_pos hc]
    refine h.imp_right fun ⟨hi, hn⟩ => ⟨Inv.of_masterless rfl ?_ rfl (by simp) rfl hi.quorum (by simp), hn⟩
    cases he : c.localNode.escalated
    · exact Bool.eq_false_iff.2 fun hv => Bool.false_ne_true (he.symm.trans (hi.holdingVip (by simpa using hv)))
    · simp
  · rw [if_neg hc]
    refine h.imp_right fun ⟨hi, hn⟩ => ⟨?_, hn⟩
    obtain ⟨he, hv, hf, hs, -⟩ := hi.idle hc
    exact Inv.of_masterless he hv hf hs rfl hi.quorum (by simp)

theorem good_standbyMasterCheck {setJoining : WdCluster → WdCluster}
    (hj : ∀ c, Good n c → Good n (setJoining c)) (h : Good n c) :
    Good n (standbyMasterCheck ctx env setJoining c) := by
  unfold standbyMasterCheck
  split
  · exact h
  · dsimp only
    split_ifs
    · exact hj c h
    · exact h.of_sendsOnly (sendsOnly_sendMessageOfType ctx env _ _ _ c)
    · exact h

/-- The arm of a state entered from outside the coordinator state keeps the
invariant; a standby is entered with a master. -/
theorem good_stateChanged_changeState (s : WDStates) (h : Good n c)
    (hc : ¬ c.localIs .coordinator) (hs : s = .standby → c.getMasterWatchdogNode ≠ none) :
    Good n (stateChanged ctx env (changeState env s c)) := by
  have hx := good_changeState env h hc hs
  rw [stateChanged_of_localIs ctx env _ (changeState_localIs env c s)]
  cases s <;> simp only [WDStates.hasHandler, enterArm, if_true, if_false, Bool.false_eq_true]
  case loading => exact hx.of_core (core_loadingEnter ctx env _)
  case joining =>
    unfold Good at hx ⊢
    rw [core_joiningEnter]
    refine hx.imp_right fun ⟨hi, hn⟩ => ⟨?_, hn⟩
    obtain ⟨he, hv, hf, hsb, -⟩ := hi.idle (by simp)
    exact Inv.of_masterless he hv hf hsb rfl hi.quorum (by simp)
  case initializing | participateInElection => exact hx
  case coordinator => exact hx.of_core (core_coordinatorEnter ctx env _)
  case standForCoordinator =>
    exact (hx.of_sendsOnly (sendsOnly_sendClusterCommand ctx env _ _ _ _)).of_core
      (WdCluster.core_setTimeout _ _ _)
  case standby =>
    exact good_standbyMasterCheck ctx env (fun c h => good_setStateJoining ctx env h.nearly)
      (hx.of_core (core_standbyJoin ctx env _))
  case lost | inNwTrouble => exact good_fatal
  all_goals
    unfold setStateCore
    rw [if_neg (by simp [WdCluster.localIs])]
    refine Good.of_sendsOnly (sendsOnly_sendMessageOfType ctx env _ _ _ _) ?_
    exact (good_changeState env hx (by simp [WdCluster.localIs]) (by simp)).of_core
      (core_loadingEnter ctx env _)

theorem good_setState_of_not_coordinator {s : WDStates} (h : Good n c)
    (hc : ¬ c.localIs .coordinator) (hs : s = .standby → c.getMasterWatchdogNode ≠ none) :
    Good n (setState ctx env s c) := by
  unfold setState setStateCore
  split_ifs
  · exact h
  · exact (good_stateChanged_changeState ctx env s h hc hs).of_sendsOnly
      (sendsOnly_sendMessageOfType ctx env _ _ _ _)

/-- Entering a fatal state ends the process. -/
theorem good_setState_fatal {s : WDStates} (hs : s = .lost ∨ s = .inNwTrouble) (h : Good n c) :
    Good n (setState ctx env s c) := by
  unfold setState setStateCore
  split_ifs
  · exact h
  · refine Good.of_sendsOnly (sendsOnly_sendMessageOfType ctx env _ _ _ _) ?_
    rw [stateChanged_of_localIs ctx env _ (changeState_localIs env c s)]
    rcases hs with rfl | rfl <;> exact good_fatal

/-- `set_state` keeps the invariant when the node may take the state. -/
theorem good_setState {s : WDStates} (h : Good n c) (hs : SetStateOk c s) :
    Good n (setState ctx env s c) := by
  by_cases hc : c.localIs .coordinator
  · cases s with
    | joining => rw [setState_joining]; exact good_setStateJoining ctx env h.nearly
    | coordinator => simp only [setState, setStateCore, if_pos hc]; exact h
    | lost => exact good_setState_fatal ctx env (.inl rfl) h
    | inNwTrouble => exact good_setState_fatal ctx env (.inr rfl) h
    | standby => exact absurd hc hs.1
    | _ => exact absurd hc hs
  · exact good_setState_of_not_coordinator ctx env h hc fun hsb => by subst hsb; exact hs.2

end

/-! ## The escalation, the standby list and the quorum -/

section
variable (ctx : Ctx) (env : Env) {n : Nat} {c : WdCluster}

theorem good_resignFromEscalatedNode (h : Good n c) : Good n (resignFromEscalatedNode env c) := by
  unfold Good
  rw [core_resignFromEscalatedNode]
  split
  · exact h.imp_right fun ⟨hi, hn⟩ => ⟨hi.resigned hi.quorum, hn⟩
  · exact h

/-- Escalation starts only on the coordinator that is master, and with a
quorum: the quorum is never below -1. -/
theorem good_startEscalatedNode (hc : c.localIs .coordinator) (hm : c.getMasterWatchdogNode = some 0)
    (hq : c.quorumStatus ≠ -1) (h : Good n c) : Good n (startEscalatedNode env c) := by
  unfold Good
  rw [core_startEscalatedNode]
  split
  · refine h.imp_right fun ⟨hi, hn⟩ =>
      ⟨{ hi with escalated := fun _ => ⟨hc, hm, ?_⟩, holdingVip := fun _ => rfl }, hn⟩
    have := hi.quorum
    simp only [WdCluster.core_quorumStatus] at this ⊢
    omega
  · exact h

theorem good_standbyNodeJoinCluster (i : Nat) (h : Good n c) : Good n (standbyNodeJoinCluster i c) := by
  by_cases hc : c.localIs .coordinator
  · unfold Good
    rw [core_standbyNodeJoinCluster]
    exact h.imp_right fun ⟨hi, hn⟩ => ⟨hi.withStandbys fun _ => hc, hn⟩
  · refine h.of_core ?_
    rw [core_standbyNodeJoinCluster, standbyNodeJoinCluster_count c i hc]
    rfl

theorem good_standbyNodeLeftCluster (i : Nat) (h : Good n c) : Good n (standbyNodeLeftCluster i c) := by
  by_cases hc : c.localIs .coordinator
  · unfold Good
    rw [core_standbyNodeLeftCluster]
    exact h.imp_right fun ⟨hi, hn⟩ => ⟨hi.withStandbys fun _ => hc, hn⟩
  · refine h.of_core ?_
    rw [core_standbyNodeLeftCluster, standbyNodeLeftCluster_count c i hc]
    rfl

theorem good_quorumChangedArm (hc : c.localIs .coordinator) (h : Good n c) :
    Good n (quorumChangedArm ctx env c) := by
  unfold quorumChangedArm
  split_ifs with hm hq hq'
  · exact (good_resignFromEscalatedNode env h).of_sendsOnly (sendsOnly_sendMessageOfType ctx env _ _ _ _)
  · exact (good_startEscalatedNode env hc hm hq h).of_sendsOnly
      (sendsOnly_sendMessageOfType ctx env _ _ _ _)
  · exact h.of_sendsOnly (sendsOnly_sendMessageOfType ctx env _ _ _ _)
  · exact h

/-- The switch of `watchdog_state_machine` keeps the invariant when the arm of
every state with a handler does: a state without one falls back to loading,
and it is not the coordinator state. -/
theorem good_onState {arm : WDStates → WdCluster → WdCluster}
    (harm : ∀ s, s.hasHandler = true → c.localIs s → Good n (arm s c)) (h : Good n c) :
    Good n (onState ctx env arm c) := by
  unfold onState
  split
  · rename_i s hs
    have hl : c.localIs s := (WDStates.toInt_of_ofInt? hs).symm
    split_ifs with hh
    · exact harm s hh hl
    · refine good_setState ctx env h fun hc => ?_
      obtain rfl : s = .coordinator := WDStates.toInt_injective (hl.symm.trans hc)
      exact hh rfl
  · rename_i hs
    refine good_setState ctx env h fun hc => ?_
    simp only [WdCluster.localIs] at hc
    simp [hc] at hs

theorem good_withStandbyCheck {arm : WDStates → WdCluster → WdCluster} {s : WDStates}
    (h : Good n (arm s c)) : Good n (withStandbyCheck ctx env arm s c) := by
  unfold withStandbyCheck
  split_ifs
  · exact good_standbyMasterCheck ctx env (fun c h => good_setState ctx env h trivial) h
  · exact h

/-- `update_quorum_status` keeps the invariant: an escalated coordinator that
loses its quorum resigns in the same event. -/
theorem good_updateQuorumStatus (h : Good n c) : Good n (updateQuorumStatus ctx env c) := by
  unfold updateQuorumStatus
  have hq := quorumStatusFor_mem c.remoteNodeCount c.clusterMasterInfo.standbyNodesCount
    ctx.cfg.enableConsensusWithHalfVotes
  generalize quorumStatusFor _ _ _ = q at hq ⊢
  have harm : ∀ c', Good n c' → Good n (onState ctx env (withStandbyCheck ctx env
      fun s c => if s = .coordinator then quorumChangedArm ctx env c else c) c') := fun c' h' =>
    good_onState ctx env (fun s _ hs => good_withStandbyCheck ctx env (by
      split_ifs with hsc
      · subst hsc; exact good_quorumChangedArm ctx env hs h'
      · exact h')) h'
  dsimp only
  split_ifs with hne
  · rcases h with hx | ⟨hi, hn⟩
    · exact harm _ (Or.inl hx)
    by_cases hr : c.localNode.escalated = true ∧ q = -1
    · -- an escalated coordinator that loses its quorum resigns in the same event
      obtain ⟨hc, hm, -⟩ := hi.escalated hr.1
      rw [onState_of_localIs ctx env (c.setQuorumStatus q) (s := .coordinator) hc rfl]
      show Good n (quorumChangedArm ctx env (c.setQuorumStatus q))
      unfold quorumChangedArm
      rw [if_pos (show (c.setQuorumStatus q).getMasterWatchdogNode = some 0 from hm)]
      dsimp only
      rw [if_pos (show (c.setQuorumStatus q).quorumStatus = -1 from hr.2)]
      refine Good.of_sendsOnly (sendsOnly_sendMessageOfType ctx env _ _ _ _) ?_
      unfold Good
      rw [core_resignFromEscalatedNode, if_pos (show (c.setQuorumStatus q).localNode.escalated from hr.1)]
      exact Or.inr ⟨hi.resigned (show -1 ≤ q by omega), hn⟩
    · refine harm _ (Or.inr ⟨{ hi with
        escalated := fun he => ⟨(hi.escalated he).1, (hi.escalated he).2.1, ?_⟩, quorum := ?_ }, hn⟩)
      · have : q ≠ -1 := fun h1 => hr ⟨he, h1⟩
        show 0 ≤ q
        omega
      · show -1 ≤ q
        omega
  · refine h.of_core ?_
    rw [WdCluster.core_setQuorumStatus, show q = c.core.quorumStatus from not_not.1 hne]

end

/-! ## Connections, split brain and the packet processors -/

section
variable (ctx : Ctx) (env : Env) {n : Nat} {c : WdCluster}

theorem good_newOutboundConnection (i : Nat) (h : Good n c) :
    Good n (newOutboundConnection ctx env i c) :=
  have hx := h.of_sendsOnly (sendsOnly_sendAddNode ctx env c i)
  good_onState ctx env (fun _ _ _ => good_withStandbyCheck ctx env hx) hx

theorem good_tryConnectingWithAllUnreachableNodes {onConn : Nat → WdCluster → WdCluster}
    (hon : ∀ i c, Good n c → Good n (onConn i c)) :
    ∀ (is : List Nat) {c : WdCluster}, Good n c →
      Good n (tryConnectingWithAllUnreachableNodes env onConn is c)
  | [], _, h => h
  | i :: is, c, h => by
    unfold tryConnectingWithAllUnreachableNodes
    refine good_tryConnectingWithAllUnreachableNodes hon is ?_
    have h1 := h.of_sendsOnly (sendsOnly_connectToNode env i c)
    split
    · split_ifs
      · dsimp only
        split_ifs
        · exact hon i _ h1
        · exact h1
      · exact h
    · exact h

theorem core_beaconMessageReceivedFromNode (i : Nat) (pkt : WDPacketData) :
    (beaconMessageReceivedFromNode env i pkt c).2.core = c.core := by
  unfold beaconMessageReceivedFromNode
  split_ifs
  · rfl
  · split <;> simp

theorem good_handleSplitBrain (i : Nat) (pkt : WDPacketData) (h : Good n c) :
    Good n (handleSplitBrain ctx env i pkt c) := by
  have hs : ∀ w m, Good n (sendClusterServiceMessage ctx env w (some pkt) m c).2 :=
    fun w m => h.of_sendsOnly (sendsOnly_sendClusterServiceMessage ctx env w (some pkt) m c)
  unfold handleSplitBrain
  dsimp only
  split_ifs
  · exact good_setState ctx env (hs _ _) trivial
  · exact good_setState ctx env (hs _ _) trivial
  · exact hs _ _

theorem good_clusterServiceMessageProcessor (i : Nat) (pkt : WDPacketData) (h : Good n c) :
    Good n (clusterServiceMessageProcessor ctx env i pkt c) := by
  have hs : ∀ m, Good n (setState ctx env .joining (sendClusterServiceMessage ctx env none (some pkt) m c).2) :=
    fun m => good_setState ctx env (h.of_sendsOnly (sendsOnly_sendClusterServiceMessage ctx env _ _ m c)) trivial
  have ht := good_tryConnectingWithAllUnreachableNodes env
    (fun i _ h => good_newOutboundConnection ctx env i h) (List.range c.remoteNodeCount) h
  have hj := good_setState ctx env h (show SetStateOk c .joining from trivial)
  unfold clusterServiceMessageProcessor
  dsimp only
  refine h.ite (h.ite (.ite ?_ (.ite (hj.ite h) (.ite ?_ (.ite hj (.ite (hj.ite h) (good_fatal.ite h)))))))
  · exact (hs _).ite ((hs _).ite h)
  · exact (ht.of_sendsOnly (sendsOnly_sendMessageOfType ctx env _ _ _ _)).ite ht

/-- A master learned from a coordinator's information is a configured peer. -/
theorem good_setClusterMasterNode_remote {i : Nat} (hi : i < n) (hm : c.getMasterWatchdogNode = none)
    (h : Good n c) : Good n (c.setClusterMasterNode (some (i + 1))) :=
  h.imp_right fun ⟨hv, hn⟩ => ⟨{ hv with
    escalated := fun he => by simpa [hm] using hv.escalated he
    masterLocal := fun h' => by simp [WdCluster.getMasterWatchdogNode] at h'
    masterRemote := fun j h' => by
      obtain rfl : i = j := by simpa [WdCluster.getMasterWatchdogNode] using h'
      show i < c.core.remoteNodeCount
      omega
    standbyMaster := fun _ => ⟨i, rfl⟩ }, hn⟩

theorem good_infoMessageReceived {i : Nat} (hi : i < n) (pkt : WDPacketData) (h : Good n c) :
    Good n (infoMessageReceived ctx env i pkt c) := by
  have hleft : ∀ {p : Prop} [Decidable p] {x : WdCluster}, Good n x →
      Good n (if p then standbyNodeLeftCluster i x else x) := fun hx => by
    split_ifs
    exacts [good_standbyNodeLeftCluster i hx, hx]
  unfold infoMessageReceived
  dsimp only
  split
  · exact h.of_sendsOnly (sendsOnly_sendClusterServiceMessage ctx env _ _ _ c)
  · generalize hx : c.modifyRemote i _ = c1
    have h1 : Good n c1 := hx ▸ good_modifyRemote i _ h
    refine hleft (.ite (.ite_of (fun hm => good_setClusterMasterNode_remote hi hm h1) fun _ =>
      .ite (.ite (h1.of_sendsOnly (sendsOnly_sendClusterServiceMessage ctx env _ _ _ _))
        (good_handleSplitBrain ctx env i pkt h1)) h1) (.ite (good_setState ctx env h1 trivial) h1))

theorem sendsOnly_processDataRequest (pkt : WDPacketData) (c : WdCluster) :
    SendsOnly c (processDataRequest ctx env pkt c).2 := by
  unfold processDataRequest
  split_ifs
  · exact sendsOnly_getMinimumMessage _ _ c
  · split
    · exact sendsOnly_getMinimumMessage _ _ c
    · dsimp only
      split
      · rfl
      · exact sendsOnly_getMinimumMessage _ _ c

theorem good_sendReply (i : Nat) {r : Option WDPacketData × WdCluster} (h : Good n r.2) :
    Good n (sendReply ctx env i r) := by
  unfold sendReply
  split
  · exact h.of_sendsOnly (sendsOnly_sendMessageToNode ctx env i _ _)
  · exact h

theorem good_standardPacketProcessor {i : Nat} (hi : i < n) (pkt : WDPacketData) (h : Good n c) :
    Good n (standardPacketProcessor ctx env i pkt c) := by
  have hm := h.of_sendsOnly (sendsOnly_dataMessage wdInfoMessage (env.nodeInfoJson c.localNode) (some pkt) c)
  unfold standardPacketProcessor
  refine good_sendReply ctx env i ?_
  refine .ite_map Prod.snd (good_clusterServiceMessageProcessor ctx env i pkt h)
    (.ite_map Prod.snd (h.of_sendsOnly (sendsOnly_processDataRequest ctx env pkt c)) (.ite_map Prod.snd ?_
    (.ite_map Prod.snd (h.of_sendsOnly (sendsOnly_sendMessageOfType ctx env _ _ _ c))
    (.ite_map Prod.snd hm (.ite_map Prod.snd (good_infoMessageReceived ctx env hi pkt h)
    (.ite_map Prod.snd (h.of_sendsOnly (sendsOnly_getMinimumMessage
      (if c.getMasterWatchdogNode = some 0 then wdAcceptMessage else wdRejectMessage) (some pkt) c))
    (.ite_map Prod.snd (.ite_map Prod.snd (h.of_sendsOnly (sendsOnly_sendClusterServiceMessage ctx env _ _ _ c))
      (hm.of_core (core_beaconMessageReceivedFromNode env i pkt))) h)))))))
  split
  · exact h
  · exact h.of_sendsOnly (sendsOnly_getMinimumMessage wdErrorMessage (some pkt) c)

end

/-! ## The failover proposals -/

section
variable (ctx : Ctx) (env : Env) {n : Nat} {c : WdCluster}

/-- Votes are recorded on the coordinator only. -/
theorem good_addFailover (cfg : PoolConfig) (now : Int) (reqKind : PoolRequestKind)
    (nodeIdList : List Int) (nodeCount : Int) (wdNode : Nat) (flags : UInt8)
    (hc : c.localIs .coordinator) (h : Good n c) :
    Good n (addFailover cfg now reqKind nodeIdList nodeCount wdNode flags c).2.2 := by
  unfold Good
  rw [core_addFailover]
  exact h.imp_right fun ⟨hi, hn⟩ => ⟨hi.withFailovers fun _ => hc, hn⟩

theorem good_removeFailoverObject (k : Nat) (h : Good n c) : Good n (removeFailoverObject k c) := by
  unfold Good
  rw [core_removeFailoverObject]
  refine h.imp_right fun ⟨hi, hn⟩ => ⟨hi.withFailovers fun hf => hi.failovers fun h0 => hf ?_, hn⟩
  simp only [WdCluster.core_failovers] at h0
  simp [h0]

theorem good_computeFailoverConsensus (reqKind : PoolRequestKind) (nodeIdList : List Int)
    (nodeCount : Int) (flags : UInt8) (wdNode : Nat) (hc : c.localIs .coordinator) (h : Good n c) :
    Good n (computeFailoverConsensus ctx env reqKind nodeIdList nodeCount flags wdNode c).2.2 := by
  have hq := good_updateQuorumStatus ctx env h
  have ha := good_addFailover ctx.cfg env.now reqKind nodeIdList nodeCount wdNode flags
    (updateQuorumStatus_localIs_coordinator ctx env c hc) hq
  unfold computeFailoverConsensus
  dsimp only
  let f (r : WDFailoverCMDResults × UInt8 × WdCluster) := r.2.2
  exact .ite_map f h (.ite_map f h (.ite_map f hq
    (.ite_map f (.ite_map f ha (good_removeFailoverObject _ ha)) hq)))

theorem core_replyToFailoveCommand (cmd : WDCommandData) (res : WDFailoverCMDResults) (id : UInt32) :
    (replyToFailoveCommand ctx env cmd res id c).core = c.core := by
  unfold replyToFailoveCommand
  split
  · exact core_writeIpcCommandWithResultData env _ _ _ c
  · exact (sendsOnly_replyWithMessage ctx env _ _ _ _ c).core
  · rfl

theorem good_processFailoverCommandOnCoordinator (cmd : WDCommandData) (h : Good n c) :
    Good n (processFailoverCommandOnCoordinator ctx env cmd c).2 := by
  unfold processFailoverCommandOnCoordinator
  by_cases hc : c.localIs .coordinator
  swap
  · rw [if_pos hc]; exact h
  rw [if_neg (not_not.2 hc)]
  have hr := fun res => h.of_core (core_replyToFailoveCommand ctx env (c := c) cmd res 0)
  split
  · exact hr _
  · rename_i f _
    split
    · exact hr _
    · rename_i reqKind _
      dsimp only
      have hx := good_computeFailoverConsensus ctx env reqKind f.nodeIdList f.nodeCount f.flags
        cmd.sourceWdNode hc h
      split_ifs
      all_goals first
        | exact hx.of_core (core_replyToFailoveCommand ctx env _ _ _)
        | exact (hx.of_sendsOnly (sendsOnly_sendMessageOfType ctx env _ _ _ _)).of_core
            (core_replyToFailoveCommand ctx env _ _ _)

theorem good_processRemoteFailoverCommandOnCoordinator (i : Nat) (pkt : WDPacketData) (h : Good n c) :
    Good n (processRemoteFailoverCommandOnCoordinator ctx env i pkt c) := by
  unfold processRemoteFailoverCommandOnCoordinator
  by_cases hc : c.localIs .coordinator
  · rw [if_neg (not_not.2 hc)]
    have hr := good_processFailoverCommandOnCoordinator ctx env (createCommandObject env pkt .remote (i + 1) 0) h
    dsimp only
    split_ifs
    · exact hr
    · exact hr.of_core (core_closeIpcCommandSocket _ _)
  · rw [if_pos hc]
    exact h.of_sendsOnly (sendsOnly_replyWithMinimalMessage ctx env _ _ _ c)

/-- Expired proposals are dropped on the coordinator, which may then resign
and rejoin. -/
theorem good_serviceExpiredFailovers (h : Good n c) : Good n (serviceExpiredFailovers ctx env c) := by
  unfold serviceExpiredFailovers
  by_cases hc : c.localIs .coordinator
  swap
  · rw [if_pos hc]; exact h
  rw [if_neg (not_not.2 hc)]
  have hf : Good n { c with wdCurrentFailovers := c.wdCurrentFailovers.filter fun f => !failoverExpired env f } :=
    h.imp_right fun ⟨hi, hn⟩ => ⟨hi.withFailovers fun _ => hc, hn⟩
  dsimp only
  split_ifs
  · exact good_setState ctx env ((hf.of_core rfl).of_sendsOnly
      (sendsOnly_sendClusterServiceMessage ctx env _ _ _ _)) trivial
  · exact hf

end

end pgpool.watchdog
