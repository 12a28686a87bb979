-- The coordinator's own data: the standby list, the escalation that holds
-- the delegate IP, and the record wd_cluster_initialize builds. Each
-- operation states once what it does to the coordinator view.
import Pgpool.Watchdog.Messages

namespace pgpool.watchdog

section
variable (env : Env)

/-! ## The standby list -/

/-- `standby_node_join_cluster` for remote node `i`. A node already listed
returns at once, before the local node's copy of the count is refreshed. -/
def standbyNodeJoinCluster (i : Nat) (c : WdCluster) : WdCluster :=
  let cm := c.clusterMasterInfo
  if c.localIs .coordinator then
    if (cm.standbyNodes.take cm.standbyNodesCount.toNat).contains (some (i + 1)) then c
    else
      let cm' := { cm with
        standbyNodes := cm.standbyNodes.set cm.standbyNodesCount.toNat (some (i + 1)),
        standbyNodesCount := cm.standbyNodesCount + 1 }
      { c with clusterMasterInfo := cm',
               localNode := { c.localNode with standbyNodesCount := cm'.standbyNodesCount } }
  else { c with localNode := { c.localNode with standbyNodesCount := cm.standbyNodesCount } }

/-- One turn of the loop of `standby_node_left_cluster`, at index `k`: the
entries, the count and the `removed` flag. Once the node is removed, each
later entry moves one place down. -/
def leftTurn (wdNode : Nat) (acc : List (Option Nat) × Int × Bool) (k : Nat) :
    List (Option Nat) × Int × Bool :=
  match acc.1.getD k none with
  | none => acc
  | some node =>
    if acc.2.2 then ((acc.1.set (k - 1) (some node)).set k none, acc.2.1, true)
    else if node = wdNode then (acc.1.set k none, acc.2.1 - 1, true)
    else acc

/-- `standby_node_left_cluster` for remote node `i`. -/
def standbyNodeLeftCluster (i : Nat) (c : WdCluster) : WdCluster :=
  let cm := c.clusterMasterInfo
  let cm' := if c.localIs .coordinator then
      let r := (List.range cm.standbyNodesCount.toNat).foldl (leftTurn (i + 1))
        (cm.standbyNodes, cm.standbyNodesCount, false)
      { cm with standbyNodes := r.1, standbyNodesCount := r.2.1 }
    else cm
  { c with clusterMasterInfo := cm',
           localNode := { c.localNode with standbyNodesCount := cm'.standbyNodesCount } }

/-- `clear_standby_nodes_list`; the array has one entry per remote node. -/
def clearStandbyNodesList (c : WdCluster) : WdCluster :=
  { c with
    clusterMasterInfo := { c.clusterMasterInfo with
      standbyNodes := c.clusterMasterInfo.standbyNodes.map fun _ => none, standbyNodesCount := 0 },
    localNode := { c.localNode with standbyNodesCount := 0 } }

/-! ## Escalation -/

/-- The wait loops of `start_escalated_node` and `resign_from_escalated_node`:
while they sleep, `wd_child_signal_handler` reaps the children that exited,
the de-escalation process first. -/
def reapChildren (c : WdCluster) : WdCluster :=
  { c with
    deEscalationPid := if env.childExited c.deEscalationPid then 0 else c.deEscalationPid,
    escalationPid :=
      if env.childExited c.escalationPid ∧ c.escalationPid ≠ c.deEscalationPid then 0
      else c.escalationPid }

/-- `start_escalated_node`: fork the escalation process; the node counts as
escalated, and holds the VIP when it has one, only if the fork succeeded. -/
def startEscalatedNode (c : WdCluster) : WdCluster :=
  if c.localNode.escalated then c
  else
    let c := if 0 < c.deEscalationPid then reapChildren env c else c
    let c := { c with escalationPid := env.escalationPid }
    if 0 < env.escalationPid then
      { c with
        localNode := { c.localNode with escalated := true },
        clusterMasterInfo := { c.clusterMasterInfo with
          holdingVip := if c.localNode.delegateIp ≠ "" then true else c.clusterMasterInfo.holdingVip } }
    else c

/-- `resign_from_escalated_node`: fork the de-escalation process and drop the
escalation and the VIP. -/
def resignFromEscalatedNode (c : WdCluster) : WdCluster :=
  if c.localNode.escalated = false then c
  else
    let c := if 0 < c.escalationPid then reapChildren env c else c
    { c with
      deEscalationPid := env.plungingPid,
      clusterMasterInfo := { c.clusterMasterInfo with holdingVip := false },
      localNode := { c.localNode with escalated := false } }

/-! ## The initial record -/

/-- A `SocketConnection` as `palloc0` leaves it. -/
def zeroSocket : SocketConnection := ⟨0, .uninitialized, "", 0⟩

/-- The record of a configured peer before anything is heard from it. -/
def initialRemoteNode (r : WdRemoteNodeInfo) : WatchdogNode :=
  { state := WDStates.dead.toInt, wdPriority := 0, startupTime := 0, currentStateTime := 0,
    escalated := false, standbyNodesCount := 0, quorumStatus := 0, wdPort := r.wdPort,
    pgpoolPort := r.pgpoolPort, hostname := r.hostname, delegateIp := "",
    clientSocket := zeroSocket, serverSocket := zeroSocket, lastSentTime := 0, lastRcvTime := 0 }

/-- `wd_cluster_initialize`. The escalation flag comes from shared memory
(`escalatedInShm`), and a restart after a crash (`needsCleanup`) resigns at
once. With no peer configured the `ereport(ERROR)`, raised before the loop
installs its handler, ends the process. -/
def wdClusterInitialize (cfg : PoolConfig) (escalatedInShm needsCleanup : Bool) : WdCluster :=
  let n := cfg.wdRemoteNodes.length
  let c : WdCluster :=
    { localNode :=
        { state := WDStates.dead.toInt, wdPriority := cfg.wdPriority, startupTime := env.now,
          currentStateTime := 0, escalated := escalatedInShm, standbyNodesCount := 0,
          quorumStatus := 0, wdPort := cfg.wdPort, pgpoolPort := cfg.port,
          hostname := cfg.wdHostname, delegateIp := cfg.delegateIP, clientSocket := zeroSocket,
          serverSocket := zeroSocket, lastSentTime := 0, lastRcvTime := 0 },
      remoteNodes := cfg.wdRemoteNodes.map initialRemoteNode,
      clusterMasterInfo := ⟨none, List.replicate n none, 0, false⟩,
      quorumStatus := -1, nextCommandID := 1, escalationPid := 0, deEscalationPid := 0,
      ipcAuthNeeded := cfg.wdAuthkey ≠ "", unidentifiedSocks := [], notifyClients := [],
      ipcCommandSocks := [], ipcCommands := [], clusterCommands := [], wdCurrentFailovers := [],
      timeoutSec := 0, tmSetTime := 0, openFds := [], ipcResults := [], exited := n = 0 }
  if needsCleanup then resignFromEscalatedNode env c else c

end

/-! ## What each operation does to the coordinator view -/

section
variable (env : Env) (c : WdCluster)

theorem core_standbyNodeJoinCluster (i : Nat) :
    (standbyNodeJoinCluster i c).core =
      { c.core with standbyNodesCount := (standbyNodeJoinCluster i c).clusterMasterInfo.standbyNodesCount } := by
  unfold standbyNodeJoinCluster
  dsimp only
  split_ifs <;> rfl

/-- Outside the coordinator state a join changes no count. -/
theorem standbyNodeJoinCluster_count (i : Nat) (h : ¬ c.localIs .coordinator) :
    (standbyNodeJoinCluster i c).clusterMasterInfo.standbyNodesCount =
      c.clusterMasterInfo.standbyNodesCount := by
  simp [standbyNodeJoinCluster, h]

theorem core_standbyNodeLeftCluster (i : Nat) :
    (standbyNodeLeftCluster i c).core =
      { c.core with standbyNodesCount := (standbyNodeLeftCluster i c).clusterMasterInfo.standbyNodesCount } := by
  unfold standbyNodeLeftCluster
  dsimp only
  split_ifs <;> rfl

theorem standbyNodeLeftCluster_count (i : Nat) (h : ¬ c.localIs .coordinator) :
    (standbyNodeLeftCluster i c).clusterMasterInfo.standbyNodesCount =
      c.clusterMasterInfo.standbyNodesCount := by
  simp [standbyNodeLeftCluster, h]

@[simp] theorem core_clearStandbyNodesList :
    (clearStandbyNodesList c).core = { c.core with standbyNodesCount := 0 } := rfl

theorem core_startEscalatedNode :
    (startEscalatedNode env c).core =
      if c.localNode.escalated = false ∧ 0 < env.escalationPid then
        { c.core with escalated := true,
                      holdingVip := if c.localNode.delegateIp ≠ "" then true else c.core.holdingVip }
      else c.core := by
  unfold startEscalatedNode
  by_cases he : c.localNode.escalated <;> by_cases hp : 0 < env.escalationPid <;>
    by_cases hd : 0 < c.deEscalationPid <;> simp [he, hp, hd, reapChildren, WdCluster.core]

theorem core_resignFromEscalatedNode :
    (resignFromEscalatedNode env c).core =
      if c.localNode.escalated then { c.core with escalated := false, holdingVip := false }
      else c.core := by
  unfold resignFromEscalatedNode
  by_cases he : c.localNode.escalated <;> by_cases hp : 0 < c.escalationPid <;>
    simp [he, hp, reapChildren, WdCluster.core]

@[simp] theorem resignFromEscalatedNode_state :
    (resignFromEscalatedNode env c).localNode.state = c.localNode.state := by
  have h := congrArg CoreView.state (core_resignFromEscalatedNode env c)
  split at h <;> exact h

@[simp] theorem resignFromEscalatedNode_master :
    (resignFromEscalatedNode env c).getMasterWatchdogNode = c.getMasterWatchdogNode := by
  have h := congrArg CoreView.masterNode (core_resignFromEscalatedNode env c)
  split at h <;> exact h

@[simp] theorem startEscalatedNode_state :
    (startEscalatedNode env c).localNode.state = c.localNode.state := by
  have h := congrArg CoreView.state (core_startEscalatedNode env c)
  split at h <;> exact h

end

end pgpool.watchdog

namespace pgpool.watchdog

/-! ## A sample watchdog

The runs that show a divergence start from these: a node configured with two
peers, codes and names standing for those of the headers src/ lacks, and a
world where every write succeeds, nothing connects or forks, and no JSON
parses. -/

/-- A node with two peers, consensus required and no authentication key. -/
def twoPeerConfig : PoolConfig :=
  { wdPort := 9000, port := 9999, wdHostname := "node0", delegateIP := "",
    wdRemoteNodes := [⟨"node1", 9000, 9999⟩, ⟨"node2", 9000, 9999⟩], wdPriority := 1,
    failoverWhenQuorumExists := true, failoverRequireConsensus := true,
    allowMultipleFailoverRequestsFromNode := false, enableConsensusWithHalfVotes := false,
    wdAuthkey := "" }

def sampleCodes : IpcCodes :=
  { failoverCommand := 'f'.toUInt8, onlineRecoveryCommand := 'r'.toUInt8,
    failoverLockingRequest := 's'.toUInt8, getMasterDataRequest := 'd'.toUInt8,
    getRuntimeVariableValue := 'v'.toUInt8, failoverIndication := 'i'.toUInt8,
    registerForNotification := '0'.toUInt8, nodeStatusChangeCommand := '2'.toUInt8,
    getNodesListCommand := '3'.toUInt8, cmdClusterInTran := '5'.toUInt8,
    cmdResultBad := '6'.toUInt8, cmdResultOk := '7'.toUInt8, cmdTimeout := '8'.toUInt8,
    lifecheckNodeStatusDead := 1, lifecheckNodeStatusAlive := 2, distinct := by decide }

def sampleNames : WdNames :=
  { functionFailbackRequest := "FAILBACK_REQUEST", functionDegenerateRequest := "DEGENERATE_BACKEND_REQUEST",
    functionPromoteRequest := "PROMOTE_BACKEND_REQUEST", functionStartRecovery := "START_RECOVERY",
    functionEndRecovery := "END_RECOVERY", dateReqPgBackendData := "BackendStatus",
    runtimeVarWdState := "WDState", runtimeVarQuorumState := "QuorumState",
    runtimeVarEscalationState := "Escalated" }

def sampleCtx : Ctx := ⟨twoPeerConfig, sampleCodes, sampleNames⟩

/-- The world at second `now` in which every write succeeds, no connect,
fork or request to the main process succeeds, and no JSON parses. -/
def quietEnv (now : Int) : Env :=
  { now, writeOk := fun _ _ => true, connectResult := fun _ => (-1, false), escalationPid := 0,
    plungingPid := 0, childExited := fun _ => false, localIps := ["10.0.0.1"],
    interfaceAvailable := true, primaryNodeId := 0, quarantinedPrimary := fun _ => false,
    failoverRequestOk := false, startRecoveryReply := none, ipcSharedKey := some 7,
    wdCalcHash := fun _ _ => "", nodeInfoJson := fun _ => [], beaconJson := fun _ => [],
    poolConfigJson := none, backendNodeStatusJson := none, failoverResultJson := fun _ _ => [],
    simpleMessageJson := fun _ => [], nodeListJson := fun _ => [], valueJson := fun _ _ => [],
    parseNodeInfo := fun _ => none, parseBeacon := fun _ => none, parseDataRequest := fun _ => none,
    parseNodeFunction := fun _ => none, parseIpcKeys := fun _ => none,
    parseFailoverFuncState := fun _ => none, parseNodeStatus := fun _ => none,
    parseNodeListRequest := fun _ => none, parseVariableName := fun _ => none }

/-- The sample node as `wd_cluster_initialize` leaves it at second 100. -/
def sampleCluster : WdCluster := wdClusterInitialize (quietEnv 100) twoPeerConfig false false

example : sampleCluster.quorumStatus = -1 ∧ sampleCluster.remoteNodeCount = 2 ∧
    sampleCluster.exited = false := by decide

end pgpool.watchdog
