-- Failover on the coordinator: compute_failover_consensus records a vote in
-- the proposal store and proceeds once a proposal has enough votes; the
-- commands that carry the requests, the replies, and the expiry of
-- proposals that never got there.
import Pgpool.Watchdog.IpcCommands

namespace pgpool.watchdog

/-- `FAILOVER_COMMAND_FINISH_TIMEOUT`. -/
def failoverCommandFinishTimeout : Int := 15

section
variable (ctx : Ctx) (env : Env)

/-- `compute_failover_consensus`: the verdict, the flags the failover runs
with, and the state. -/
def computeFailoverConsensus (reqKind : PoolRequestKind) (nodeIdList : List Int) (nodeCount : Int)
    (flags : UInt8) (wdNode : Nat) (c : WdCluster) : WDFailoverCMDResults × UInt8 × WdCluster :=
  if ctx.cfg.failoverWhenQuorumExists = false then (.proceed, flags, c)
  else if flags &&& reqDetailConfirmed ≠ 0 then (.proceed, flags, c)
  else
    let c := updateQuorumStatus ctx env c
    if c.quorumStatus < 0 then (.noQuorum, flags, c)
    else if ctx.cfg.failoverRequireConsensus then
      let r := addFailover ctx.cfg env.now reqKind nodeIdList nodeCount wdNode flags c
      let failoverObj := r.2.2.wdCurrentFailovers.getD r.1 default
      if failoverObj.requestCount <
          getMinimumVotesToResolveConsensus r.2.2.remoteNodeCount ctx.cfg.enableConsensusWithHalfVotes then
        (if r.2.1 ∧ ctx.cfg.allowMultipleFailoverRequestsFromNode = false then .consensusMayFail
         else .buildingConsensus, flags, r.2.2)
      else (.proceed, failoverObj.reqFlags, removeFailoverObject r.1 r.2.2)
    else (.proceed, flags, c)

/-- `reply_to_failove_command`: the verdict as JSON, to the IPC client or to
the node that asked. -/
def replyToFailoveCommand (cmd : WDCommandData) (res : WDFailoverCMDResults) (failoverID : UInt32)
    (c : WdCluster) : WdCluster :=
  let data := env.failoverResultJson res failoverID
  match cmd.commandSource with
  | .ipc => (writeIpcCommandWithResultData env cmd ctx.codes.cmdResultOk data c).2
  | .remote =>
    (replyWithMessage ctx env (some cmd.sourceWdNode) wdCmdReplyInData data (some cmd.sourcePacket) c).2
  | _ => c

/-- The request kind a failover function name asks for. -/
def failoverKindOf (funcName : String) : Option PoolRequestKind :=
  if strcaseeq ctx.names.functionFailbackRequest funcName then some .nodeUpRequest
  else if strcaseeq ctx.names.functionDegenerateRequest funcName then some .nodeDownRequest
  else if strcaseeq ctx.names.functionPromoteRequest funcName then some .promoteNodeRequest
  else none

/-- `process_failover_command_on_coordinator`. A request that proceeds and
came from a peer is handed to the main process, whose answer is `env`'s. -/
def processFailoverCommandOnCoordinator (cmd : WDCommandData) (c : WdCluster) :
    IpcCmdPreocessRes × WdCluster :=
  if ¬ c.localIs .coordinator then (.error, c)
  else match env.parseNodeFunction cmd.sourcePacket.data with
    | none => (.complete, replyToFailoveCommand ctx env cmd .invalidFunction 0 c)
    | some f =>
      match failoverKindOf ctx f.funcName with
      | none => (.complete, replyToFailoveCommand ctx env cmd .invalidFunction 0 c)
      | some reqKind =>
        let r := computeFailoverConsensus ctx env reqKind f.nodeIdList f.nodeCount f.flags
          cmd.sourceWdNode c
        let res := r.1
        let c := r.2.2
        if res = .proceed then
          if cmd.commandSource = .remote then
            (.complete, replyToFailoveCommand ctx env cmd
              (if env.failoverRequestOk then .willBeDone else .error) 0 c)
          else (.complete, replyToFailoveCommand ctx env cmd .proceed 0 c)
        else
          let c := if res = .buildingConsensus then
              (sendMessageOfType ctx env none wdFailoverWaitingForConsensus none c).2
            else c
          (.complete, replyToFailoveCommand ctx env cmd res 0 c)

/-- `process_remote_failover_command_on_coordinator`, for a request from
remote node `i`. -/
def processRemoteFailoverCommandOnCoordinator (i : Nat) (pkt : WDPacketData) (c : WdCluster) :
    WdCluster :=
  if ¬ c.localIs .coordinator then
    (replyWithMinimalMessage ctx env (some (i + 1)) wdErrorMessage (some pkt) c).2
  else
    let cmd := createCommandObject env pkt .remote (i + 1) 0
    let r := processFailoverCommandOnCoordinator ctx env cmd c
    if r.1 = .processing then { r.2 with ipcCommands := r.2.ipcCommands ++ [cmd] }
    else closeIpcCommandSocket cmd r.2

/-- An expired proposal asks the coordinator to resign: the local node voted
to take down a backend that is now a quarantined primary. -/
def needToResign (f : WDFailoverObject) : Bool :=
  f.reqKind == .nodeDownRequest && f.requestingNodes.contains 0 &&
    (f.nodeList.take f.nodesCount.toNat).any fun nodeId =>
      nodeId ≠ -1 && env.primaryNodeId == -1 && env.quarantinedPrimary nodeId

/-- The proposal has outlived `FAILOVER_COMMAND_FINISH_TIMEOUT`. -/
def failoverExpired (f : WDFailoverObject) : Bool :=
  wdTimeDiffSec env.now f.startTime ≥ failoverCommandFinishTimeout

/-- `service_expired_failovers`. -/
def serviceExpiredFailovers (c : WdCluster) : WdCluster :=
  if ¬ c.localIs .coordinator then c
  else
    let needResign := (c.wdCurrentFailovers.filter (failoverExpired env)).any (needToResign env)
    let c := { c with wdCurrentFailovers := c.wdCurrentFailovers.filter fun f => !failoverExpired env f }
    if needResign then
      let c := { c with localNode := { c.localNode with wdPriority := -1 } }
      setState ctx env .joining
        (sendClusterServiceMessage ctx env none none clusterIamResigningFromMaster c).2
    else c

/-- Servicing expired proposals keeps a sublist of them: the unexpired ones,
or none once the coordinator resigns. -/
theorem serviceExpiredFailovers_sublist (c : WdCluster) :
    List.Sublist (serviceExpiredFailovers ctx env c).wdCurrentFailovers c.wdCurrentFailovers := by
  unfold serviceExpiredFailovers
  by_cases hc : c.localIs .coordinator
  swap
  · rw [if_pos hc]
  rw [if_neg (not_not.2 hc)]
  dsimp only
  split_ifs
  · rw [setState_joining_failovers ctx env _ ?_]
    · exact List.nil_sublist _
    · simpa [WdCluster.localIs, (sendsOnly_sendClusterServiceMessage ctx env _ _ _ _).localNode] using hc
  · exact List.filter_sublist _

end

/-! ## The proposal store over a sequence of calls -/

/-- A call of the proposal store: `add_failover` with a node list and its
length, as its callers pass them, `remove_failover_object`,
`clear_all_failovers` and `service_expired_failovers`. -/
inductive FailoverCall
  | addFailover (reqKind : PoolRequestKind) (nodeIdList : List Int) (wdNode : Nat) (flags : UInt8)
  | removeFailoverObject (k : Nat)
  | clearAllFailovers
  | serviceExpiredFailovers

/-- One call, in the world `env` of its turn. -/
def FailoverCall.run (ctx : Ctx) (env : Env) : FailoverCall → WdCluster → WdCluster
  | .addFailover reqKind nodeIdList wdNode flags, c =>
    (pgpool.watchdog.addFailover ctx.cfg env.now reqKind nodeIdList nodeIdList.length wdNode flags c).2.2
  | .removeFailoverObject k, c => pgpool.watchdog.removeFailoverObject k c
  | .clearAllFailovers, c => pgpool.watchdog.clearAllFailovers c
  | .serviceExpiredFailovers, c => pgpool.watchdog.serviceExpiredFailovers ctx env c

/-- The calls in order, each in the world of its turn. -/
def runFailoverCalls (ctx : Ctx) : WdCluster → List (Env × FailoverCall) → WdCluster
  | c, [] => c
  | c, (env, call) :: calls => runFailoverCalls ctx (call.run ctx env c) calls

theorem failoverStoreOk_run (ctx : Ctx) (env : Env) (call : FailoverCall) (c : WdCluster)
    (h : FailoverStoreOk ctx.cfg.allowMultipleFailoverRequestsFromNode c.wdCurrentFailovers) :
    FailoverStoreOk ctx.cfg.allowMultipleFailoverRequestsFromNode (call.run ctx env c).wdCurrentFailovers := by
  cases call with
  | addFailover reqKind nodeIdList wdNode flags =>
    exact failoverStoreOk_addFailover ctx.cfg env.now reqKind nodeIdList wdNode flags c h
  | removeFailoverObject k => exact failoverStoreOk_removeFailoverObject k c h
  | clearAllFailovers => exact .nil
  | serviceExpiredFailovers => exact h.sublist (serviceExpiredFailovers_sublist ctx env c)

theorem failoverStoreOk_runFailoverCalls (ctx : Ctx) :
    ∀ (calls : List (Env × FailoverCall)) (c : WdCluster),
      FailoverStoreOk ctx.cfg.allowMultipleFailoverRequestsFromNode c.wdCurrentFailovers →
      FailoverStoreOk ctx.cfg.allowMultipleFailoverRequestsFromNode
        (runFailoverCalls ctx c calls).wdCurrentFailovers
  | [], _, h => h
  | (env, call) :: calls, c, h =>
    failoverStoreOk_runFailoverCalls ctx calls _ (failoverStoreOk_run ctx env call c h)

/-- From an empty store, after any sequence of calls: no two proposals have
the same kind and the same multiset of ids, every proposal has a vote, and
when a node may not vote twice a proposal counts exactly its distinct
voters. -/
theorem failover_proposals_stay_distinct_and_counted (ctx : Ctx) (calls : List (Env × FailoverCall))
    (c : WdCluster) (h0 : c.wdCurrentFailovers = []) :
    ((runFailoverCalls ctx c calls).wdCurrentFailovers.map WDFailoverObject.key).Pairwise
      (fun a b => ¬ (a.1 = b.1 ∧ a.2.Perm b.2)) ∧
    ∀ f ∈ (runFailoverCalls ctx c calls).wdCurrentFailovers, 1 ≤ f.requestCount ∧
      (ctx.cfg.allowMultipleFailoverRequestsFromNode = false →
        f.requestingNodes.Nodup ∧ f.requestCount = f.requestingNodes.length) := by
  have h := failoverStoreOk_runFailoverCalls ctx calls c (h0 ▸ .nil)
  exact ⟨h.distinct, fun f hf => ⟨(h.proposals f hf).voted, (h.proposals f hf).voters⟩⟩

/-- Node 1 proposes a node-down for backends [1, 2]; node 2 asks for [1, 1],
which that proposal does not match, so a second proposal opens; node 2 then
votes for the first with [2, 1], and the second is removed. -/
def sampleFailoverCalls : List (Env × FailoverCall) :=
  [(quietEnv 100, .addFailover .nodeDownRequest [1, 2] 1 0),
   (quietEnv 100, .addFailover .nodeDownRequest [1, 1] 2 0),
   (quietEnv 101, .addFailover .nodeDownRequest [2, 1] 2 0),
   (quietEnv 102, .removeFailoverObject 1)]

theorem sampleFailoverCalls_keep_store :
    ((runFailoverCalls sampleCtx sampleCluster sampleFailoverCalls).wdCurrentFailovers.map
      fun f => (f.nodeList, f.requestingNodes)) = [([1, 2], [1, 2])] ∧
    (((runFailoverCalls sampleCtx sampleCluster sampleFailoverCalls).wdCurrentFailovers.map
        WDFailoverObject.key).Pairwise (fun a b => ¬ (a.1 = b.1 ∧ a.2.Perm b.2)) ∧
      ∀ f ∈ (runFailoverCalls sampleCtx sampleCluster sampleFailoverCalls).wdCurrentFailovers,
        1 ≤ f.requestCount ∧
        (sampleCtx.cfg.allowMultipleFailoverRequestsFromNode = false →
          f.requestingNodes.Nodup ∧ f.requestCount = f.requestingNodes.length)) :=
  ⟨by decide, failover_proposals_stay_distinct_and_counted sampleCtx sampleFailoverCalls sampleCluster rfl⟩

end pgpool.watchdog

namespace pgpool.watchdog

/-! ## A vote counted for another list -/

/-- The sample node as coordinator with one standby: the quorum holds, and a
failover needs two votes. -/
def voteCoordinator : WdCluster :=
  { sampleCluster with
    localNode := { sampleCluster.localNode with state := WDStates.coordinator.toInt },
    clusterMasterInfo := ⟨some 0, [some 1, none], 1, false⟩, quorumStatus := 1 }

/-- A world whose failover requests degenerate the backend ids their bytes spell. -/
def voteEnv : Env :=
  { quietEnv 100 with
    parseNodeFunction := fun d =>
      some ⟨"DEGENERATE_BACKEND_REQUEST", d.map fun b => (b.toNat : Int), d.length, 0⟩ }

/-- A failover request from a peer, for the backend ids `ids`. -/
def failoverRequestPacket (ids : List UInt8) : WDPacketData :=
  ⟨sampleCodes.failoverCommand, 7, ids.length, ids⟩

/-- The coordinator after node 1 (remote node 0) asked to take down backends
[1, 1]. -/
def votedForRepeatedIds : WdCluster :=
  processRemoteFailoverCommandOnCoordinator sampleCtx voteEnv 0 (failoverRequestPacket [1, 1]) voteCoordinator

/-- Node 2's request for [1, 2] finds the proposal for [1, 1], adds the second
vote, and proceeds: a failover of [1, 2] runs on one request for it. -/
theorem failover_proceeds_on_another_list :
    getMinimumVotesToResolveConsensus votedForRepeatedIds.remoteNodeCount false = 2 ∧
    votedForRepeatedIds.wdCurrentFailovers.map (fun f => (f.nodeList, f.requestingNodes)) =
      [([1, 1], [1])] ∧
    (computeFailoverConsensus sampleCtx voteEnv .nodeDownRequest [1, 2] 2 0 2 votedForRepeatedIds).1 =
      .proceed ∧
    ¬ [(1 : Int), 1].Perm [1, 2] := by
  decide

end pgpool.watchdog
