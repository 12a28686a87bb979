-- The words of the watchdog: node states, events, message types and the
-- enums of its command tracker, as watchdog.c and pool.h declare them.
import Mathlib.Logic.Function.Basic

namespace pgpool.watchdog

/-! ## Node states -/

/-- `WD_STATES`, in the order of `wd_state_names`. -/
inductive WDStates
  | dead | loading | joining | initializing | coordinator | participateInElection
  | standForCoordinator | standby | lost | inNwTrouble | shutdown | addMessageSent
  deriving DecidableEq, Repr

/-- The C value of a state. A node's `state` field is an `int`, so a peer's
message can put any integer there; the local node only ever holds these. -/
def WDStates.toInt : WDStates → Int
  | dead => 0 | loading => 1 | joining => 2 | initializing => 3 | coordinator => 4
  | participateInElection => 5 | standForCoordinator => 6 | standby => 7 | lost => 8
  | inNwTrouble => 9 | shutdown => 10 | addMessageSent => 11

/-- The state an `int` names, if it names one. -/
def WDStates.ofInt? : Int → Option WDStates
  | 0 => some dead | 1 => some loading | 2 => some joining | 3 => some initializing
  | 4 => some coordinator | 5 => some participateInElection | 6 => some standForCoordinator
  | 7 => some standby | 8 => some lost | 9 => some inNwTrouble | 10 => some shutdown
  | 11 => some addMessageSent | _ => none

@[simp] theorem WDStates.ofInt?_toInt (s : WDStates) : WDStates.ofInt? s.toInt = some s := by
  cases s <;> rfl

theorem WDStates.toInt_of_ofInt? {x : Int} {s : WDStates} (h : WDStates.ofInt? x = some s) :
    s.toInt = x := by
  unfold WDStates.ofInt? at h
  split at h <;> cases h <;> rfl

theorem WDStates.toInt_injective : Function.Injective WDStates.toInt := by
  intro a b h
  simpa using congrArg WDStates.ofInt? h

@[simp] theorem WDStates.toInt_inj {a b : WDStates} : a.toInt = b.toInt ↔ a = b :=
  WDStates.toInt_injective.eq_iff

theorem WDStates.ofInt?_eq_none_iff {x : Int} : WDStates.ofInt? x = none ↔ x < 0 ∨ 12 ≤ x := by
  unfold WDStates.ofInt?
  split <;> simp
  simp only [imp_false] at *
  omega

/-- `wd_state_names`: the name of each state, at the index of its value. -/
def wdStateNames : List String :=
  ["DEAD", "LOADING", "JOINING", "INITIALIZING", "MASTER", "PARTICIPATING IN ELECTION", "STANDING FOR MASTER",
    "STANDBY", "LOST", "IN NETWORK TROUBLE", "SHUTDOWN", "ADD MESSAGE SENT"]

/-- `wd_state_names[state]`: the name at that index, or `none` where the C
code, which does not check the index, reads outside the array. -/
def wdStateName? (state : Int) : Option String :=
  if 0 ≤ state then wdStateNames[state.toNat]? else none

/-- The table names exactly the values of the states. -/
theorem wdStateName?_eq_none_iff {x : Int} : wdStateName? x = none ↔ WDStates.ofInt? x = none := by
  rw [WDStates.ofInt?_eq_none_iff, wdStateName?]
  split_ifs with h
  · rw [List.getElem?_eq_none_iff]
    simp only [wdStateNames, List.length_cons, List.length_nil]
    omega
  · simp only [true_iff]
    omega

/-! ## Message types -/

/-- The type byte of a watchdog message. -/
abbrev MsgType := UInt8

def wdNoMessage : MsgType := 0
def wdAddNodeMessage : MsgType := 'A'.toUInt8
def wdReqInfoMessage : MsgType := 'B'.toUInt8
def wdDeclareCoordinatorMessage : MsgType := 'C'.toUInt8
def wdDataMessage : MsgType := 'D'.toUInt8
def wdErrorMessage : MsgType := 'E'.toUInt8
def wdAcceptMessage : MsgType := 'G'.toUInt8
def wdInfoMessage : MsgType := 'I'.toUInt8
def wdJoinCoordinatorMessage : MsgType := 'J'.toUInt8
def wdIamCoordinatorMessage : MsgType := 'M'.toUInt8
def wdIamInNwTroubleMessage : MsgType := 'N'.toUInt8
def wdQuorumIsLost : MsgType := 'Q'.toUInt8
def wdRejectMessage : MsgType := 'R'.toUInt8
def wdStandForCoordinatorMessage : MsgType := 'S'.toUInt8
def wdRemoteFailoverRequest : MsgType := 'V'.toUInt8
def wdInformIAmGoingDown : MsgType := 'X'.toUInt8
def wdAskForPoolConfig : MsgType := 'Y'.toUInt8
def wdPoolConfigData : MsgType := 'Z'.toUInt8
def wdCmdReplyInData : MsgType := '-'.toUInt8
def wdClusterServiceMessage : MsgType := '#'.toUInt8
def wdFailoverStart : MsgType := 'F'.toUInt8
def wdFailoverEnd : MsgType := 'H'.toUInt8
def wdFailoverWaitingForConsensus : MsgType := 'K'.toUInt8

/-- `standard_packet_processor` has a `case WD_EVENT_REMOTE_NODE_FOUND` in its
switch on the packet type: the event's number, 11, read as a type byte. -/
def wdEventRemoteNodeFoundAsType : MsgType := 11

/-- The sub-codes of a cluster service message. -/
def clusterQuorumLost : UInt8 := 'L'.toUInt8
def clusterQuorumFound : UInt8 := 'F'.toUInt8
def clusterInSplitBrain : UInt8 := 'B'.toUInt8
def clusterNeedsElection : UInt8 := 'E'.toUInt8
def clusterIamTrueMaster : UInt8 := 'M'.toUInt8
def clusterIamNotTrueMaster : UInt8 := 'X'.toUInt8
def clusterIamResigningFromMaster : UInt8 := 'R'.toUInt8
def clusterNodeInvalidVersion : UInt8 := 'V'.toUInt8

/-- The codes of `wd_ipc_defines.h`, which src/ does not hold: the IPC
command and result types, some of which also travel between watchdogs when a
command is forwarded. The C switch statements need them distinct. -/
structure IpcCodes where
  failoverCommand : MsgType
  onlineRecoveryCommand : MsgType
  failoverLockingRequest : MsgType
  getMasterDataRequest : MsgType
  getRuntimeVariableValue : MsgType
  failoverIndication : MsgType
  registerForNotification : MsgType
  nodeStatusChangeCommand : MsgType
  getNodesListCommand : MsgType
  cmdClusterInTran : MsgType
  cmdResultBad : MsgType
  cmdResultOk : MsgType
  cmdTimeout : MsgType
  lifecheckNodeStatusDead : Int
  lifecheckNodeStatusAlive : Int
  distinct : [failoverCommand, onlineRecoveryCommand, failoverLockingRequest,
    getMasterDataRequest, getRuntimeVariableValue, failoverIndication,
    registerForNotification, nodeStatusChangeCommand, getNodesListCommand].Nodup

/-- The names of wd_json_data.h that watchdog.c compares with `strcasecmp`,
which src/ does not hold either. -/
structure WdNames where
  functionFailbackRequest : String
  functionDegenerateRequest : String
  functionPromoteRequest : String
  functionStartRecovery : String
  functionEndRecovery : String
  dateReqPgBackendData : String
  runtimeVarWdState : String
  runtimeVarQuorumState : String
  runtimeVarEscalationState : String

/-- `strcasecmp(a, b) == 0`: equal once ASCII letters are lowered. -/
def strcaseeq (a b : String) : Bool := a.data.map Char.toLower == b.data.map Char.toLower

/-! ## Sockets and the command tracker -/

/-- `WD_SOCK_STATE`. -/
inductive WDSockState
  | uninitialized | waitingForConnect | connected | error | closed
  deriving DecidableEq, Repr, Inhabited

/-- `WDNodeCommandState`: the state of one peer's slot in a command. -/
inductive WDNodeCommandState
  | init | sent | replied | sendError | doNotSend
  deriving DecidableEq, Repr

/-- `WDCommandStatus`. -/
inductive WDCommandStatus
  | empty | inProgress | finishedTimeout | finishedAllReplied | finishedNodeRejected
  | finishedSendFailed
  deriving DecidableEq, Repr

/-- `WDCommandSource`. -/
inductive WDCommandSource
  | ipc | local | remote | internal
  deriving DecidableEq, Repr

/-- `IPC_CMD_PREOCESS_RES`. -/
inductive IpcCmdPreocessRes
  | complete | processing | error | ok | tryAgain
  deriving DecidableEq, Repr

/-! ## Failover requests -/

/-- `POOL_REQUEST_KIND` of pool.h. -/
inductive PoolRequestKind
  | nodeUpRequest | nodeDownRequest | nodeRecoveryRequest | closeIdleRequest
  | promoteNodeRequest | nodeQuarantineRequest
  deriving DecidableEq, Repr

def reqDetailWatchdog : UInt8 := 0x02
def reqDetailConfirmed : UInt8 := 0x04

/-- `WDFailoverCMDResults`, the answers of the failover engine. -/
inductive WDFailoverCMDResults
  | noQuorum | consensusMayFail | notAllowed | invalidFunction | masterRejected
  | buildingConsensus | proceed | willBeDone | error | transition
  deriving DecidableEq, Repr

end pgpool.watchdog
