-- Split brain: which of two coordinators stays. Two coordinators that see
-- each other's own values decide opposite ways, except when they tie on the
-- escalation flag, the quorum, the standby count and the second they became
-- coordinator: then both stay.
import Pgpool.Watchdog.SetState

namespace pgpool.watchdog

/-! ## The pure model -/

/-- `I_am_master_and_cluser_in_split_brain`, on the local node's record of
the other coordinator: 1 when the local node stays, -1 when the other one
does, 0 when it cannot decide. -/
def iAmMasterAndCluserInSplitBrain (c : WdCluster) (other : WatchdogNode) : Int :=
  if ¬ c.localIs .coordinator then 0
  else if other.state ≠ WDStates.coordinator.toInt then 0
  else if other.currentStateTime = 0 then 0
  else if other.escalated ≠ c.localNode.escalated then
    if other.escalated = true ∧ c.localNode.escalated = false then -1 else 1
  else if other.quorumStatus ≠ c.quorumStatus then
    if other.quorumStatus > c.quorumStatus then -1 else 1
  else if other.standbyNodesCount ≠ c.clusterMasterInfo.standbyNodesCount then
    if other.standbyNodesCount > c.clusterMasterInfo.standbyNodesCount then -1 else 1
  else if other.currentStateTime < c.localNode.currentStateTime then -1
  else 1

section
variable (ctx : Ctx) (env : Env)

/-- `beacon_message_received_from_node` for remote node `i`: the record takes
the values of the beacon, or the beacon is refused. -/
def beaconMessageReceivedFromNode (i : Nat) (pkt : WDPacketData) (c : WdCluster) :
    Bool × WdCluster :=
  if pkt.data = [] ∨ pkt.len ≤ 0 then (false, c)
  else match env.parseBeacon pkt.data with
    | none => (false, c)
    | some b => (true, c.modifyRemote i fun m =>
        { m with currentStateTime := env.now - b.secondsSinceCurrentState,
                 startupTime := env.now - b.secondsSinceNodeStartup,
                 quorumStatus := b.quorumStatus, standbyNodesCount := b.standbyNodesCount,
                 state := b.state, escalated := b.escalated })

/-- `handle_split_brain` against remote node `i`. -/
def handleSplitBrain (i : Nat) (pkt : WDPacketData) (c : WdCluster) : WdCluster :=
  let decideMaster := iAmMasterAndCluserInSplitBrain c (c.remote i)
  if decideMaster = 0 then
    setState ctx env .joining
      (sendClusterServiceMessage ctx env (some (i + 1)) (some pkt) clusterNeedsElection c).2
  else if decideMaster = -1 then
    setState ctx env .joining
      (sendClusterServiceMessage ctx env none (some pkt) clusterIamNotTrueMaster c).2
  else (sendClusterServiceMessage ctx env (some (i + 1)) (some pkt) clusterIamTrueMaster c).2

end

/-! ## Two coordinators deciding -/

/-- `r`, a node's record of coordinator `c`, holds what the tiebreak reads
and what `c` uses for itself: its escalation flag, its quorum, its standby
count and its non-zero coordinator-since second. -/
structure Mirrors (r : WatchdogNode) (c : WdCluster) : Prop where
  coordinator : r.state = WDStates.coordinator.toInt
  escalated : r.escalated = c.localNode.escalated
  quorum : r.quorumStatus = c.quorumStatus
  standbys : r.standbyNodesCount = c.clusterMasterInfo.standbyNodesCount
  since : r.currentStateTime = c.localNode.currentStateTime
  since_ne : c.localNode.currentStateTime ≠ 0

/-- Two coordinators agree on every value the tiebreak compares. -/
def Tied (a b : WdCluster) : Prop :=
  a.localNode.escalated = b.localNode.escalated ∧ a.quorumStatus = b.quorumStatus ∧
    a.clusterMasterInfo.standbyNodesCount = b.clusterMasterInfo.standbyNodesCount ∧
    a.localNode.currentStateTime = b.localNode.currentStateTime

section
variable {a b : WdCluster} {ra rb : WatchdogNode}

/-- On its record of a mirrored coordinator the tiebreak is the lexicographic
comparison of the two sides' values. -/
theorem splitBrain_of_mirrors (ha : a.localIs .coordinator) (hb : Mirrors rb b) :
    iAmMasterAndCluserInSplitBrain a rb =
      if b.localNode.escalated ≠ a.localNode.escalated then
        (if b.localNode.escalated = true ∧ a.localNode.escalated = false then -1 else 1)
      else if b.quorumStatus ≠ a.quorumStatus then
        (if b.quorumStatus > a.quorumStatus then -1 else 1)
      else if b.clusterMasterInfo.standbyNodesCount ≠ a.clusterMasterInfo.standbyNodesCount then
        (if b.clusterMasterInfo.standbyNodesCount > a.clusterMasterInfo.standbyNodesCount then -1
         else 1)
      else if b.localNode.currentStateTime < a.localNode.currentStateTime then -1 else 1 := by
  simp only [iAmMasterAndCluserInSplitBrain, ha, not_true_eq_false, if_false, hb.coordinator,
    ne_eq, hb.since, hb.since_ne, hb.escalated, hb.quorum, hb.standbys]

/-- One level of the tiebreak: values that differ decide opposite ways, equal
values leave it to the next level. -/
theorem tiebreak_level_antisymm {x y kx ky : Int} (h : x ≠ y ∨ (kx = 1 ∧ ky = -1 ∨ kx = -1 ∧ ky = 1)) :
    ((if y ≠ x then (if y > x then -1 else 1) else kx) = 1 ∧
        (if x ≠ y then (if x > y then -1 else 1) else ky) = -1) ∨
      ((if y ≠ x then (if y > x then -1 else 1) else kx) = -1 ∧
        (if x ≠ y then (if x > y then -1 else 1) else ky) = 1) := by
  by_cases hxy : x = y
  · subst hxy
    simpa using h
  · rw [if_pos (Ne.symm hxy), if_pos hxy]
    split_ifs <;> omega

/-- Two coordinators that do not tie decide opposite ways: one stays and the
other steps down. -/
theorem splitBrain_antisymm_of_not_tied (ha : a.localIs .coordinator)
    (hb : b.localIs .coordinator) (hra : Mirrors ra a) (hrb : Mirrors rb b) (ht : ¬ Tied a b) :
    (iAmMasterAndCluserInSplitBrain a rb = 1 ∧ iAmMasterAndCluserInSplitBrain b ra = -1) ∨
      (iAmMasterAndCluserInSplitBrain a rb = -1 ∧ iAmMasterAndCluserInSplitBrain b ra = 1) := by
  rw [splitBrain_of_mirrors ha hrb, splitBrain_of_mirrors hb hra]
  unfold Tied at ht
  by_cases he : b.localNode.escalated = a.localNode.escalated
  · rw [if_neg (not_not.2 he), if_neg (not_not.2 he.symm)]
    refine tiebreak_level_antisymm ((em _).imp_right fun hq => tiebreak_level_antisymm ?_)
    refine (em _).imp_right fun hs => ?_
    have ht' : a.localNode.currentStateTime ≠ b.localNode.currentStateTime := fun htt =>
      ht ⟨he.symm, not_not.1 hq, not_not.1 hs, htt⟩
    split_ifs <;> omega
  · rw [if_pos he, if_pos (Ne.symm he)]
    revert he
    cases a.localNode.escalated <;> cases b.localNode.escalated <;> decide

/-- On a tie both coordinators decide to stay. -/
theorem splitBrain_both_stay_of_tied (ha : a.localIs .coordinator)
    (hb : b.localIs .coordinator) (hra : Mirrors ra a) (hrb : Mirrors rb b) (ht : Tied a b) :
    iAmMasterAndCluserInSplitBrain a rb = 1 ∧ iAmMasterAndCluserInSplitBrain b ra = 1 := by
  obtain ⟨he, hq, hs, ht⟩ := ht
  rw [splitBrain_of_mirrors ha hrb, splitBrain_of_mirrors hb hra]
  simp [he, hq, hs, ht]

end

/-! ## Two coordinators after handle_split_brain -/

section
variable (ctx : Ctx) (env : Env) {c : WdCluster} (i : Nat) (pkt : WDPacketData)

/-- A coordinator that decides to stay is still coordinator after
`handle_split_brain`: it only answers. -/
theorem handleSplitBrain_of_stays (hc : c.localIs .coordinator)
    (h : iAmMasterAndCluserInSplitBrain c (c.remote i) = 1) :
    (handleSplitBrain ctx env i pkt c).localIs .coordinator := by
  unfold handleSplitBrain
  rw [h, if_neg (by decide), if_neg (by decide)]
  exact (sendsOnly_sendClusterServiceMessage ctx env _ _ _ c).keepsLocalIs hc

/-- A coordinator that decides to step down rejoins the cluster. -/
theorem handleSplitBrain_of_steps_down (h : iAmMasterAndCluserInSplitBrain c (c.remote i) = -1) :
    (handleSplitBrain ctx env i pkt c).localIs .joining := by
  unfold handleSplitBrain
  rw [h, if_neg (by decide), if_pos rfl]
  exact localIs_setState_joining ctx env _

end

/-- A coordinator of the sample cluster since second 100, not escalated,
with quorum 1 and one standby, whose record of remote node 0 holds exactly
the same values: what each of two coordinators that tie sees. -/
def tiedCoordinator (hostname : String) : WdCluster :=
  let c := { sampleCluster with
    localNode := { sampleCluster.localNode with state := WDStates.coordinator.toInt,
                                                currentStateTime := 100, hostname },
    quorumStatus := 1,
    clusterMasterInfo := { sampleCluster.clusterMasterInfo with standbyNodesCount := 1 } }
  c.modifyRemote 0 fun m => { m with state := WDStates.coordinator.toInt, currentStateTime := 100,
                                     quorumStatus := 1, standbyNodesCount := 1, escalated := false }

/-- Two coordinators that became coordinator in the same second, with the
same escalation flag, quorum and standby count, both decide to stay and both
stay coordinator after `handle_split_brain`. -/
theorem tied_coordinators_both_stay :
    iAmMasterAndCluserInSplitBrain (tiedCoordinator "node0") ((tiedCoordinator "node0").remote 0) = 1 ∧
    iAmMasterAndCluserInSplitBrain (tiedCoordinator "node1") ((tiedCoordinator "node1").remote 0) = 1 ∧
    (handleSplitBrain sampleCtx (quietEnv 101) 0 ⟨wdIamCoordinatorMessage, 5, 0, []⟩
      (tiedCoordinator "node0")).localIs .coordinator ∧
    (handleSplitBrain sampleCtx (quietEnv 101) 0 ⟨wdIamCoordinatorMessage, 5, 0, []⟩
      (tiedCoordinator "node1")).localIs .coordinator :=
  have ha : (tiedCoordinator "node0").localIs .coordinator := by decide
  have hb : (tiedCoordinator "node1").localIs .coordinator := by decide
  have h : iAmMasterAndCluserInSplitBrain (tiedCoordinator "node0") ((tiedCoordinator "node0").remote 0) = 1 ∧
      iAmMasterAndCluserInSplitBrain (tiedCoordinator "node1") ((tiedCoordinator "node1").remote 0) = 1 :=
    splitBrain_both_stay_of_tied ha hb ⟨by decide, by decide, by decide, by decide, by decide, by decide⟩
      ⟨by decide, by decide, by decide, by decide, by decide, by decide⟩ (by unfold Tied; decide)
  ⟨h.1, h.2, handleSplitBrain_of_stays sampleCtx (quietEnv 101) 0 _ ha h.1,
    handleSplitBrain_of_stays sampleCtx (quietEnv 101) 0 _ hb h.2⟩

/-- Two coordinators that do not tie, each holding an up to date record of
the other, resolve the split brain: after each runs `handle_split_brain`
against its record of the other, whatever the configurations, times and
beacons, exactly one is still coordinator and the other is joining. -/
theorem split_brain_leaves_one_coordinator (ctxA ctxB : Ctx) (envA envB : Env) {a b : WdCluster} {i j : Nat}
    (pktA pktB : WDPacketData) (ha : a.localIs .coordinator) (hb : b.localIs .coordinator)
    (hra : Mirrors (b.remote j) a) (hrb : Mirrors (a.remote i) b) (ht : ¬ Tied a b) :
    ((handleSplitBrain ctxA envA i pktA a).localIs .coordinator ∧
        (handleSplitBrain ctxB envB j pktB b).localIs .joining) ∨
      ((handleSplitBrain ctxA envA i pktA a).localIs .joining ∧
        (handleSplitBrain ctxB envB j pktB b).localIs .coordinator) := by
  rcases splitBrain_antisymm_of_not_tied ha hb hra hrb ht with ⟨hsa, hsb⟩ | ⟨hsa, hsb⟩
  · exact .inl ⟨handleSplitBrain_of_stays ctxA envA i pktA ha hsa, handleSplitBrain_of_steps_down ctxB envB j pktB hsb⟩
  · exact .inr ⟨handleSplitBrain_of_steps_down ctxA envA i pktA hsa, handleSplitBrain_of_stays ctxB envB j pktB hb hsb⟩

/-- Node 0 of a split brain: a coordinator like `tiedCoordinator` with quorum,
whose record of node 1 holds node 1's lost quorum. -/
def quorateCoordinator : WdCluster :=
  (tiedCoordinator "node0").modifyRemote 0 fun m => { m with quorumStatus := 0 }

/-- Node 1 of the split brain: a coordinator like `tiedCoordinator` without
quorum. -/
def inquorateCoordinator : WdCluster := { tiedCoordinator "node1" with quorumStatus := 0 }

/-- The coordinator that kept its quorum stays, the other one rejoins. -/
theorem quorate_coordinator_stays :
    quorateCoordinator.localIs .coordinator ∧ inquorateCoordinator.localIs .coordinator ∧
      Mirrors (inquorateCoordinator.remote 0) quorateCoordinator ∧
      Mirrors (quorateCoordinator.remote 0) inquorateCoordinator ∧
      ¬ Tied quorateCoordinator inquorateCoordinator ∧
      (((handleSplitBrain sampleCtx (quietEnv 101) 0 ⟨wdIamCoordinatorMessage, 5, 0, []⟩
            quorateCoordinator).localIs .coordinator ∧
          (handleSplitBrain sampleCtx (quietEnv 101) 0 ⟨wdIamCoordinatorMessage, 6, 0, []⟩
            inquorateCoordinator).localIs .joining) ∨
        ((handleSplitBrain sampleCtx (quietEnv 101) 0 ⟨wdIamCoordinatorMessage, 5, 0, []⟩
            quorateCoordinator).localIs .joining ∧
          (handleSplitBrain sampleCtx (quietEnv 101) 0 ⟨wdIamCoordinatorMessage, 6, 0, []⟩
            inquorateCoordinator).localIs .coordinator)) :=
  have ha : quorateCoordinator.localIs .coordinator := by decide
  have hb : inquorateCoordinator.localIs .coordinator := by decide
  have hra : Mirrors (inquorateCoordinator.remote 0) quorateCoordinator :=
    ⟨by decide, by decide, by decide, by decide, by decide, by decide⟩
  have hrb : Mirrors (quorateCoordinator.remote 0) inquorateCoordinator :=
    ⟨by decide, by decide, by decide, by decide, by decide, by decide⟩
  have ht : ¬ Tied quorateCoordinator inquorateCoordinator := by unfold Tied; decide
  ⟨ha, hb, hra, hrb, ht, split_brain_leaves_one_coordinator sampleCtx sampleCtx (quietEnv 101) (quietEnv 101)
    ⟨wdIamCoordinatorMessage, 5, 0, []⟩ ⟨wdIamCoordinatorMessage, 6, 0, []⟩ ha hb hra hrb ht⟩

end pgpool.watchdog
