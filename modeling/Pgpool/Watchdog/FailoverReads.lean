-- The reads of the node-id list of a failover request. Each function that
-- gets `node_id_list` with its `node_count` is given here the indices of the
-- list it reads, following its own control flow. compute_failover_consensus,
-- through get_failover_object, does_int_array_contains_value and the memcpy
-- of add_failover, reads only below the count. process_failover_command_on_coordinator
-- adds one read: the hand-over of a NodeUp or Promote request from a peer
-- reads `node_id_list[0]` whatever the count, so an empty list is read past
-- its end, whether the request proceeds without consensus or on a proposal
-- for the empty list.
import Pgpool.Watchdog.Consensus
import Pgpool.Watchdog.StandbyList

namespace pgpool.watchdog

/-! ## The indices read -/

/-- The indices of `intArray` that `does_int_array_contains_value` reads: up
to the first that holds `value`, or all `count` of them. -/
def doesIntArrayContainsValueReads (intArray : List Int) (count : Int) (value : Int) : List Nat :=
  match (intArray.take count.toNat).findIdx? (· == value) with
  | some k => List.range (k + 1)
  | none => List.range count.toNat

/-- The reads of the request's list by the loop of `get_failover_object` over
a proposal's ids `ids`: one lookup per id, up to the first id not found. -/
def matchLoopReads (nodeList : List Int) (nodesCount : Int) : List Int → List Nat
  | [] => []
  | v :: vs => doesIntArrayContainsValueReads nodeList nodesCount v ++
      if doesIntArrayContainsValue nodeList nodesCount v then matchLoopReads nodeList nodesCount vs else []

/-- The reads of the request's list while `get_failover_object` tests one
proposal: none unless the kind and the count agree. -/
def failoverMatchesReads (reqKind : PoolRequestKind) (nodesCount : Int) (nodeList : List Int)
    (f : WDFailoverObject) : List Nat :=
  if f.reqKind == reqKind && f.nodesCount == nodesCount then
    matchLoopReads nodeList nodesCount (f.nodeList.take nodesCount.toNat)
  else []

/-- The reads of `get_failover_object`, proposal after proposal up to the
first that matches. -/
def getFailoverObjectReads (reqKind : PoolRequestKind) (nodesCount : Int) (nodeList : List Int) :
    List WDFailoverObject → List Nat
  | [] => []
  | f :: fs => failoverMatchesReads reqKind nodesCount nodeList f ++
      if failoverMatches reqKind nodesCount nodeList f then []
      else getFailoverObjectReads reqKind nodesCount nodeList fs

/-- The reads of `add_failover`: the lookup, then the `memcpy` of the list
into a new proposal when none matches and the count is positive. -/
def addFailoverReads (reqKind : PoolRequestKind) (nodeIdList : List Int) (nodeCount : Int)
    (c : WdCluster) : List Nat :=
  getFailoverObjectReads reqKind nodeCount nodeIdList c.wdCurrentFailovers ++
    match getFailoverObject c.wdCurrentFailovers reqKind nodeCount nodeIdList with
    | some _ => []
    | none => if 0 < nodeCount then List.range nodeCount.toNat else []

/-- The reads at the hand-over to the main process: `degenerate_backend_set`
gets the list with its count, `send_failback_request` and `promote_backend`
get its first id. -/
def handOverReads : PoolRequestKind → List Nat
  | .nodeUpRequest | .promoteNodeRequest => [0]
  | _ => []

section
variable (ctx : Ctx) (env : Env)

/-- The reads of `compute_failover_consensus`, along its branches. -/
def computeFailoverConsensusReads (reqKind : PoolRequestKind) (nodeIdList : List Int) (nodeCount : Int)
    (flags : UInt8) (c : WdCluster) : List Nat :=
  if ctx.cfg.failoverWhenQuorumExists = false then []
  else if flags &&& reqDetailConfirmed ≠ 0 then []
  else
    let c := updateQuorumStatus ctx env c
    if c.quorumStatus < 0 then []
    else if ctx.cfg.failoverRequireConsensus then addFailoverReads reqKind nodeIdList nodeCount c
    else []

/-- The reads of `process_failover_command_on_coordinator`: those of the
consensus, then those of the hand-over when a peer's request proceeds. -/
def processFailoverCommandOnCoordinatorReads (cmd : WDCommandData) (c : WdCluster) : List Nat :=
  if ¬ c.localIs .coordinator then []
  else match env.parseNodeFunction cmd.sourcePacket.data with
    | none => []
    | some f =>
      match failoverKindOf ctx f.funcName with
      | none => []
      | some reqKind =>
        computeFailoverConsensusReads ctx env reqKind f.nodeIdList f.nodeCount f.flags c ++
          if (computeFailoverConsensus ctx env reqKind f.nodeIdList f.nodeCount f.flags
              cmd.sourceWdNode c).1 = .proceed ∧ cmd.commandSource = .remote then handOverReads reqKind
          else []

end

/-! ## The consensus reads below the count -/

/-- Every index of `reads` is below the count `n`. -/
def ReadsBelow (n : Int) (reads : List Nat) : Prop := ∀ j ∈ reads, j < n.toNat

namespace ReadsBelow

variable {n : Int} {l l' : List Nat}

theorem nil : ReadsBelow n [] := nofun

theorem append (h : ReadsBelow n l) (h' : ReadsBelow n l') : ReadsBelow n (l ++ l') := fun j hj =>
  (List.mem_append.1 hj).elim (h j) (h' j)

theorem range : ReadsBelow n (List.range n.toNat) := fun _ hj => List.mem_range.1 hj

theorem ite {p : Prop} [Decidable p] (h : ReadsBelow n l) (h' : ReadsBelow n l') :
    ReadsBelow n (if p then l else l') := by
  split
  exacts [h, h']

end ReadsBelow

theorem readsBelow_doesIntArrayContainsValueReads (intArray : List Int) (count value : Int) :
    ReadsBelow count (doesIntArrayContainsValueReads intArray count value) := by
  unfold doesIntArrayContainsValueReads
  split
  · rename_i k hk
    obtain ⟨hlt, -⟩ := List.findIdx?_eq_some_iff_getElem.1 hk
    have hk' : k < count.toNat := lt_of_lt_of_le hlt (List.length_take_le _ _)
    exact fun j hj => lt_of_le_of_lt (Nat.le_of_lt_succ (List.mem_range.1 hj)) hk'
  · exact ReadsBelow.range

theorem readsBelow_matchLoopReads (nodeList : List Int) (nodesCount : Int) (ids : List Int) :
    ReadsBelow nodesCount (matchLoopReads nodeList nodesCount ids) := by
  induction ids with
  | nil => exact ReadsBelow.nil
  | cons v vs ih =>
    exact (readsBelow_doesIntArrayContainsValueReads _ _ _).append (ih.ite ReadsBelow.nil)

theorem readsBelow_getFailoverObjectReads (reqKind : PoolRequestKind) (nodesCount : Int)
    (nodeList : List Int) (fs : List WDFailoverObject) :
    ReadsBelow nodesCount (getFailoverObjectReads reqKind nodesCount nodeList fs) := by
  induction fs with
  | nil => exact ReadsBelow.nil
  | cons f fs ih =>
    have hf : ReadsBelow nodesCount (failoverMatchesReads reqKind nodesCount nodeList f) :=
      (readsBelow_matchLoopReads _ _ _).ite ReadsBelow.nil
    exact hf.append (ReadsBelow.nil.ite ih)

theorem readsBelow_addFailoverReads (reqKind : PoolRequestKind) (nodeIdList : List Int) (nodeCount : Int)
    (c : WdCluster) : ReadsBelow nodeCount (addFailoverReads reqKind nodeIdList nodeCount c) := by
  refine (readsBelow_getFailoverObjectReads _ _ _ _).append ?_
  split
  exacts [ReadsBelow.nil, ReadsBelow.range.ite ReadsBelow.nil]

theorem readsBelow_computeFailoverConsensusReads (ctx : Ctx) (env : Env) (reqKind : PoolRequestKind)
    (nodeIdList : List Int) (nodeCount : Int) (flags : UInt8) (c : WdCluster) :
    ReadsBelow nodeCount (computeFailoverConsensusReads ctx env reqKind nodeIdList nodeCount flags c) :=
  ReadsBelow.nil.ite <| ReadsBelow.nil.ite <| ReadsBelow.nil.ite <|
    (readsBelow_addFailoverReads _ _ _ _).ite ReadsBelow.nil

/-! ## The hand-over of an empty list -/

section
variable (ctx : Ctx) (env : Env)

/-- A request from a peer that proceeds is handed to the main process, and
the reply is the main process's answer. -/
theorem processFailoverCommandOnCoordinator_proceed (cmd : WDCommandData) (c : WdCluster)
    (f : NodeFunction) (reqKind : PoolRequestKind) (hc : c.localIs .coordinator)
    (hparse : env.parseNodeFunction cmd.sourcePacket.data = some f)
    (hkind : failoverKindOf ctx f.funcName = some reqKind) (hremote : cmd.commandSource = .remote)
    (hproceed : (computeFailoverConsensus ctx env reqKind f.nodeIdList f.nodeCount f.flags
      cmd.sourceWdNode c).1 = .proceed) :
    processFailoverCommandOnCoordinator ctx env cmd c =
        (.complete, replyToFailoveCommand ctx env cmd (if env.failoverRequestOk then .willBeDone else .error) 0
          (computeFailoverConsensus ctx env reqKind f.nodeIdList f.nodeCount f.flags cmd.sourceWdNode c).2.2) ∧
      processFailoverCommandOnCoordinatorReads ctx env cmd c =
        computeFailoverConsensusReads ctx env reqKind f.nodeIdList f.nodeCount f.flags c ++ handOverReads reqKind := by
  constructor
  · simp only [processFailoverCommandOnCoordinator, hc, not_true_eq_false, if_false, hparse, hkind,
      hproceed, if_true, hremote]
  · simp only [processFailoverCommandOnCoordinatorReads, hc, not_true_eq_false, if_false, hparse, hkind,
      hproceed, hremote, and_self, if_true]

/-- Failover handling reads the node list past its count. The consensus reads
only below the count, for every request; but a NodeUp or Promote request
from a peer with an empty list that proceeds is handed to the main process
with `node_id_list[0]`, index 0 of a list of count 0, and its reply is the
main process's answer, not an error for the empty list. -/
theorem empty_failover_list_read_at_hand_over :
    (∀ (reqKind : PoolRequestKind) (nodeIdList : List Int) (nodeCount : Int) (flags : UInt8) (c : WdCluster),
      ∀ j ∈ computeFailoverConsensusReads ctx env reqKind nodeIdList nodeCount flags c, j < nodeCount.toNat) ∧
    ∀ (cmd : WDCommandData) (c : WdCluster) (f : NodeFunction) (reqKind : PoolRequestKind),
      c.localIs .coordinator → env.parseNodeFunction cmd.sourcePacket.data = some f →
      failoverKindOf ctx f.funcName = some reqKind → reqKind ≠ .nodeDownRequest →
      cmd.commandSource = .remote → f.nodeCount = 0 →
      (computeFailoverConsensus ctx env reqKind f.nodeIdList f.nodeCount f.flags cmd.sourceWdNode c).1 =
        .proceed →
      0 ∈ processFailoverCommandOnCoordinatorReads ctx env cmd c ∧ ¬ 0 < f.nodeCount.toNat ∧
        (processFailoverCommandOnCoordinator ctx env cmd c).2 =
          replyToFailoveCommand ctx env cmd (if env.failoverRequestOk then .willBeDone else .error) 0
            (computeFailoverConsensus ctx env reqKind f.nodeIdList f.nodeCount f.flags cmd.sourceWdNode c).2.2 := by
  refine ⟨readsBelow_computeFailoverConsensusReads ctx env, ?_⟩
  intro cmd c f reqKind hc hparse hkind hdown hremote hempty hproceed
  obtain ⟨hres, hreads⟩ :=
    processFailoverCommandOnCoordinator_proceed ctx env cmd c f reqKind hc hparse hkind hremote hproceed
  have hkind' : reqKind = .nodeUpRequest ∨ reqKind = .promoteNodeRequest := by
    unfold failoverKindOf at hkind
    split_ifs at hkind <;> simp_all
  refine ⟨?_, by simp [hempty], by rw [hres]⟩
  rw [hreads]
  rcases hkind' with rfl | rfl <;> simp [handOverReads]

end

/-! ## Two ways an empty list proceeds -/

/-- A world whose failover requests ask to fail back an empty list of
backends. -/
def emptyFailbackEnv : Env :=
  { quietEnv 100 with parseNodeFunction := fun _ => some ⟨"FAILBACK_REQUEST", [], 0, 0⟩ }

/-- The sample node, configured to fail over without a quorum. -/
def noQuorumCtx : Ctx := { sampleCtx with cfg := { twoPeerConfig with failoverWhenQuorumExists := false } }

/-- A peer's request, as the coordinator's command for it. -/
def emptyFailbackCommand (i : Nat) : WDCommandData :=
  createCommandObject emptyFailbackEnv (failoverRequestPacket []) .remote (i + 1) 0

/-- The coordinator with quorum after remote node 0 asked to fail back the
empty list: a proposal of count 0 with one vote. -/
def votedForEmptyList : WdCluster :=
  processRemoteFailoverCommandOnCoordinator sampleCtx emptyFailbackEnv 0 (failoverRequestPacket [])
    voteCoordinator

/-- Node 1's empty failback proceeds at once when the quorum is not needed,
and node 2's, the second vote for the proposal of count 0, proceeds by
consensus: both are handed over with `node_id_list[0]`. -/
theorem empty_failback_read_at_hand_over :
    ((∀ (reqKind : PoolRequestKind) (nodeIdList : List Int) (nodeCount : Int) (flags : UInt8) (c : WdCluster),
      ∀ j ∈ computeFailoverConsensusReads noQuorumCtx emptyFailbackEnv reqKind nodeIdList nodeCount flags c,
        j < nodeCount.toNat) ∧
      0 ∈ processFailoverCommandOnCoordinatorReads noQuorumCtx emptyFailbackEnv (emptyFailbackCommand 0)
        sampleCoordinator) ∧
    votedForEmptyList.wdCurrentFailovers.map (fun f => (f.nodesCount, f.requestCount)) = [(0, 1)] ∧
    0 ∈ processFailoverCommandOnCoordinatorReads sampleCtx emptyFailbackEnv (emptyFailbackCommand 1)
      votedForEmptyList := by
  have h1 := empty_failover_list_read_at_hand_over noQuorumCtx emptyFailbackEnv
  have h2 := empty_failover_list_read_at_hand_over sampleCtx emptyFailbackEnv
  refine ⟨⟨h1.1, (h1.2 (emptyFailbackCommand 0) sampleCoordinator ⟨"FAILBACK_REQUEST", [], 0, 0⟩
    .nodeUpRequest (by decide) rfl (by decide) (by decide) rfl rfl (by decide)).1⟩, by decide,
    (h2.2 (emptyFailbackCommand 1) votedForEmptyList ⟨"FAILBACK_REQUEST", [], 0, 0⟩
    .nodeUpRequest (by decide) rfl (by decide) (by decide) rfl rfl (by decide)).1⟩

end pgpool.watchdog
