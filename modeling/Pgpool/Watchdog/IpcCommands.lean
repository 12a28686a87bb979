-- The IPC commands the watchdog holds while peers answer them: the result
-- frame written back to the client, the forwarding to peers and the resends,
-- the replies and peer losses that finish a command, and its clean-up.
import Pgpool.Watchdog.SetState

namespace pgpool.watchdog

instance : Inhabited WDCommandData :=
  ⟨⟨emptyPacket, emptyPacket, [], none, .empty, 0, 0, 0, 0, 0, .ipc, 0, 0, none⟩⟩

/-- `l` without the entries at the positions `ks`, counting from `n`: what
deleting a set of list cells by pointer leaves. -/
def withoutPositions {α : Type} (ks : List Nat) : List α → Nat → List α
  | [], _ => []
  | x :: xs, n => if n ∈ ks then withoutPositions ks xs (n + 1) else x :: withoutPositions ks xs (n + 1)

/-- `get_wd_command_from_reply`: the first command with the reply's id. -/
def getWdCommandFromReply (commands : List WDCommandData) (pkt : WDPacketData) : Option Nat :=
  commands.findIdx? fun cmd => cmd.commandPacket.commandId == pkt.commandId

/-- Record in slot `i` a reply of type `t`. -/
def WDCommandData.setReplied (cmd : WDCommandData) (i : Nat) (t : MsgType) : WDCommandData :=
  { cmd with nodeResults := cmd.nodeResults.modify (fun _ => ⟨.replied, t⟩) i }

section
variable (ctx : Ctx) (env : Env)

/-- `create_command_object` for a packet from `source`. -/
def createCommandObject (src : WDPacketData) (source : WDCommandSource) (sourceWdNode : Nat)
    (sock : Int) : WDCommandData :=
  { sourcePacket := src, commandPacket := emptyPacket, nodeResults := [], sendToNode := none,
    commandStatus := .empty, commandTimeoutSecs := 0, commandTime := env.now,
    commandSendToCount := 0, commandSendToErrorCount := 0, commandReplyFromCount := 0,
    commandSource := source, sourceIPCSocket := sock, sourceWdNode, errorMessage := none }

/-- `write_ipc_command_with_result_data`: a result frame on the socket of a
command that came over IPC and still has one. -/
def writeIpcCommandWithResultData (cmd : WDCommandData) (type : MsgType) (data : List UInt8)
    (c : WdCluster) : Bool × WdCluster :=
  if cmd.commandSource ≠ .ipc ∨ cmd.sourceIPCSocket ≤ 0 then (false, c)
  else
    let pkt : WDPacketData := ⟨type, 0, data.length, data⟩
    (env.writeOk cmd.sourceIPCSocket pkt,
      { c with ipcResults := c.ipcResults ++ [(cmd.sourceIPCSocket, pkt)] })

/-- The socket half of `cleanUpIPCCommand`: close the client's socket and drop
it from `ipc_command_socks`. -/
def closeIpcCommandSocket (cmd : WDCommandData) (c : WdCluster) : WdCluster :=
  if cmd.commandSource = .ipc ∧ 0 < cmd.sourceIPCSocket then
    { c with openFds := c.openFds.erase cmd.sourceIPCSocket,
             ipcCommandSocks := c.ipcCommandSocks.erase cmd.sourceIPCSocket }
  else c

/-- `cleanUpIPCCommand` for the command at position `k` of `ipc_commands`. -/
def cleanUpIPCCommand (k : Nat) (c : WdCluster) : WdCluster :=
  let c := closeIpcCommandSocket (c.ipcCommands.getD k default) c
  { c with ipcCommands := c.ipcCommands.eraseIdx k }

/-- `wd_command_is_complete`. No command sets `commandCompleteFunc`, so the
standard reply is always the one: a result frame to an IPC client, or an
accept or reject to the node that asked. -/
def wdCommandIsComplete (cmd : WDCommandData) (c : WdCluster) : WdCluster :=
  match cmd.commandSource with
  | .ipc =>
    let resType := match cmd.commandStatus with
      | .finishedAllReplied => ctx.codes.cmdResultOk
      | .finishedTimeout => ctx.codes.cmdTimeout
      | .finishedNodeRejected | .finishedSendFailed => ctx.codes.cmdResultBad
      | _ => ctx.codes.cmdResultOk
    (writeIpcCommandWithResultData env cmd resType [] c).2
  | .remote =>
    (replyWithMinimalMessage ctx env (some cmd.sourceWdNode)
      (if cmd.commandStatus = .finishedAllReplied then wdAcceptMessage else wdRejectMessage)
      (some cmd.commandPacket) c).2
  | _ => c

/-- `wd_command_processor_for_node_lost_event` for a command and lost remote
node `i`: the command's verdict, the command after, and the state. -/
def wdCommandProcessorForNodeLostEvent (cmd : WDCommandData) (i : Nat) (c : WdCluster) :
    IpcCmdPreocessRes × WDCommandData × WdCluster :=
  match cmd.sendToNode with
  | some n =>
    if n = i + 1 then
      let cmd := { cmd with commandStatus := .finishedSendFailed }
      (.error, cmd, wdCommandIsComplete ctx env cmd c)
    else (.processing, cmd, c)
  | none =>
    if (cmd.nodeResults[i]?.map (·.cmdState)) = some .sent then
      let cmd := { cmd.setSlot i .doNotSend with commandSendToCount := cmd.commandSendToCount - 1 }
      if cmd.commandSendToCount ≤ cmd.commandReplyFromCount then
        let cmd := { cmd with commandStatus := .finishedAllReplied }
        (.complete, cmd, wdCommandIsComplete ctx env cmd c)
      else (.processing, cmd, c)
    else (.processing, cmd, c)

/-- The first loop of `node_lost_while_ipc_command`: each command in turn,
collecting the positions of those that finished. -/
def nodeLostPass (i : Nat) : List Nat → WdCluster × List Nat → WdCluster × List Nat
  | [], acc => acc
  | k :: ks, (c, done) =>
    let r := wdCommandProcessorForNodeLostEvent ctx env (c.ipcCommands.getD k default) i c
    let c := { r.2.2 with ipcCommands := r.2.2.ipcCommands.set k r.2.1 }
    nodeLostPass i ks (c, if r.1 ≠ .processing then done ++ [k] else done)

/-- `node_lost_while_ipc_command` for lost remote node `i`: then each
finished command is cleaned up. -/
def nodeLostWhileIpcCommand (i : Nat) (c : WdCluster) : WdCluster :=
  let r := nodeLostPass ctx env i (List.range c.ipcCommands.length) (c, [])
  let c := r.2.foldl (fun c k => closeIpcCommandSocket (c.ipcCommands.getD k default) c) r.1
  { c with ipcCommands := withoutPositions r.2 c.ipcCommands 0 }

/-- One turn of the loop of `send_command_packet_to_remote_nodes`, for remote
node `i`. -/
def sendCommandSlot (sourceIncluded : Bool) (acc : WDCommandData × WdCluster) (i : Nat) :
    WDCommandData × WdCluster :=
  let cmd := acc.1
  let c := acc.2
  let n := c.remote i
  if cmd.sendToNode ≠ none ∧ cmd.sendToNode ≠ some (i + 1) then (cmd.setSlot i .doNotSend, c)
  else if sourceIncluded = false ∧ cmd.sourceWdNode = i + 1 ∧ cmd.commandSource = .remote then
    (cmd.setSlot i .doNotSend, c)
  else if isNodeActive n = false then (cmd.setSlot i .doNotSend, c)
  else if isNodeReachable n = false then
    ({ cmd.setSlot i .sendError with commandSendToErrorCount := cmd.commandSendToErrorCount + 1 }, c)
  else
    let r := sendMessageToNode ctx env i cmd.commandPacket c
    if r.1 then ({ cmd.setSlot i .sent with commandSendToCount := cmd.commandSendToCount + 1 }, r.2)
    else ({ cmd.setSlot i .sendError with commandSendToErrorCount := cmd.commandSendToErrorCount + 1 },
      r.2)

/-- `send_command_packet_to_remote_nodes`: the number of peers the command
went to, the command and the state. -/
def sendCommandPacketToRemoteNodes (cmd : WDCommandData) (sourceIncluded : Bool) (c : WdCluster) :
    Nat × WDCommandData × WdCluster :=
  let cmd := { cmd with
    commandSendToCount := 0, commandReplyFromCount := 0, commandSendToErrorCount := 0,
    nodeResults := if cmd.nodeResults = [] then List.replicate c.remoteNodeCount clearedResult
      else cmd.nodeResults }
  let r := (List.range c.remoteNodeCount).foldl (sendCommandSlot ctx env sourceIncluded) (cmd, c)
  (r.1.commandSendToCount.toNat, r.1, r.2)

/-- The inner loop of `service_ipc_commands` for one command: resend to every
peer whose send failed and that is back, until no failed send is left. -/
def resendIpcSlots : List Nat → WDCommandData × WdCluster → WDCommandData × WdCluster
  | [], acc => acc
  | i :: is, acc =>
    let cmd := acc.1
    if (cmd.nodeResults[i]?.map (·.cmdState)) = some .sendError ∧
        isNodeActiveAndReachable (acc.2.remote i) = true then
      let r := sendMessageToNode ctx env i cmd.commandPacket acc.2
      if r.1 then
        let cmd : WDCommandData := { cmd.setSlot i .sent with
          commandSendToErrorCount := cmd.commandSendToErrorCount - 1,
          commandSendToCount := cmd.commandSendToCount + 1 }
        if cmd.commandSendToErrorCount = 0 then (cmd, r.2) else resendIpcSlots is (cmd, r.2)
      else resendIpcSlots is (cmd, r.2)
    else resendIpcSlots is acc

/-- `service_ipc_commands`. -/
def serviceIpcCommands (c : WdCluster) : WdCluster :=
  (List.range c.ipcCommands.length).foldl (fun c k =>
    let cmd := c.ipcCommands.getD k default
    if cmd.commandSendToErrorCount ≠ 0 then
      let r := resendIpcSlots ctx env (List.range c.remoteNodeCount) (cmd, c)
      { r.2 with ipcCommands := r.2.ipcCommands.set k r.1 }
    else c) c

/-- `reply_is_received_for_pgpool_replicate_command`, for the reply of remote
node `i` to the IPC command at position `k`. The slot is marked replied and
counted whatever its state; a reply other than accept finishes the command. -/
def replyIsReceivedForPgpoolReplicateCommand (i : Nat) (pkt : WDPacketData) (k : Nat)
    (c : WdCluster) : Bool × WdCluster :=
  let cmd := c.ipcCommands.getD k default
  if i < c.remoteNodeCount ∧ i < cmd.nodeResults.length then
    let cmd : WDCommandData := { cmd.setReplied i pkt.type with
      commandReplyFromCount := cmd.commandReplyFromCount + 1 }
    let finish (status : WDCommandStatus) : WdCluster :=
      let cmd : WDCommandData := { cmd with commandStatus := status }
      let c := { c with ipcCommands := c.ipcCommands.set k cmd }
      cleanUpIPCCommand k (wdCommandIsComplete ctx env cmd c)
    if pkt.type ≠ wdAcceptMessage then (true, finish .finishedNodeRejected)
    else if cmd.commandReplyFromCount ≥ cmd.commandSendToCount then
      (true, finish .finishedAllReplied)
    else (true, { c with ipcCommands := c.ipcCommands.set k cmd })
  else (true, c)

/-- `process_remote_online_recovery_command`, for remote node `i`. What
pgpool's shared recovery state answers to a start request is `env`'s; `none`
leaves the answer to the timer. -/
def processRemoteOnlineRecoveryCommand (i : Nat) (pkt : WDPacketData) (c : WdCluster) : WdCluster :=
  let reply (t : MsgType) (c : WdCluster) : WdCluster :=
    (replyWithMinimalMessage ctx env (some (i + 1)) t (some pkt) c).2
  if pkt.data = [] ∨ pkt.len = 0 then reply wdErrorMessage c
  else match env.parseNodeFunction pkt.data with
    | none => reply wdErrorMessage c
    | some f =>
      if strcaseeq ctx.names.functionStartRecovery f.funcName then
        match env.startRecoveryReply with
        | some t => reply t c
        | none => c
      else if strcaseeq ctx.names.functionEndRecovery f.funcName then reply wdAcceptMessage c
      else reply wdErrorMessage c

end

/-! ## What the IPC commands leave alone

Writing a result, closing a client's socket and tracking a command change
the IPC lists and the sockets, never the coordinator view. -/

section
variable (ctx : Ctx) (env : Env)

@[simp] theorem core_writeIpcCommandWithResultData (cmd : WDCommandData) (t : MsgType)
    (d : List UInt8) (c : WdCluster) : (writeIpcCommandWithResultData env cmd t d c).2.core = c.core := by
  unfold writeIpcCommandWithResultData; split_ifs <;> rfl

@[simp] theorem core_closeIpcCommandSocket (cmd : WDCommandData) (c : WdCluster) :
    (closeIpcCommandSocket cmd c).core = c.core := by
  unfold closeIpcCommandSocket; split_ifs <;> rfl

@[simp] theorem core_cleanUpIPCCommand (k : Nat) (c : WdCluster) : (cleanUpIPCCommand k c).core = c.core :=
  core_closeIpcCommandSocket _ c

@[simp] theorem core_wdCommandIsComplete (cmd : WDCommandData) (c : WdCluster) :
    (wdCommandIsComplete ctx env cmd c).core = c.core := by
  unfold wdCommandIsComplete
  split
  · exact core_writeIpcCommandWithResultData env _ _ _ c
  · exact (sendsOnly_replyWithMinimalMessage ctx env _ _ _ c).core
  · rfl

theorem core_wdCommandProcessorForNodeLostEvent (cmd : WDCommandData) (i : Nat) (c : WdCluster) :
    (wdCommandProcessorForNodeLostEvent ctx env cmd i c).2.2.core = c.core := by
  unfold wdCommandProcessorForNodeLostEvent
  split
  · split_ifs <;> simp
  · dsimp only; split_ifs <;> simp

theorem core_nodeLostPass (i : Nat) :
    ∀ (ks : List Nat) (acc : WdCluster × List Nat), (nodeLostPass ctx env i ks acc).1.core = acc.1.core
  | [], _ => rfl
  | k :: ks, (c, _) => by
    rw [nodeLostPass, core_nodeLostPass i ks]
    exact core_wdCommandProcessorForNodeLostEvent ctx env _ i c

@[simp] theorem core_nodeLostWhileIpcCommand (i : Nat) (c : WdCluster) :
    (nodeLostWhileIpcCommand ctx env i c).core = c.core := by
  have hfold : ∀ (l : List Nat) (x : WdCluster),
      (l.foldl (fun c k => closeIpcCommandSocket (c.ipcCommands.getD k default) c) x).core = x.core := by
    intro l
    induction l with
    | nil => intro x; rfl
    | cons k l ih => intro x; rw [List.foldl_cons, ih, core_closeIpcCommandSocket]
  exact (hfold _ _).trans (core_nodeLostPass ctx env i _ (c, []))

theorem core_sendCommandSlot (b : Bool) (acc : WDCommandData × WdCluster) (i : Nat) :
    (sendCommandSlot ctx env b acc i).2.core = acc.2.core := by
  have h := fun pkt => (sendsOnly_sendMessageToNode ctx env i pkt acc.2).core
  unfold sendCommandSlot
  simp only [apply_ite (fun x : WDCommandData × WdCluster => x.2.core), h, ite_self]

@[simp] theorem core_sendCommandPacketToRemoteNodes (cmd : WDCommandData) (b : Bool) (c : WdCluster) :
    (sendCommandPacketToRemoteNodes ctx env cmd b c).2.2.core = c.core :=
  List.foldlRecOn (motive := fun x : WDCommandData × WdCluster => x.2.core = c.core) _ _ _ rfl
    fun x hx i _ => (core_sendCommandSlot ctx env b x i).trans hx

theorem core_resendIpcSlots :
    ∀ (is : List Nat) (acc : WDCommandData × WdCluster), (resendIpcSlots ctx env is acc).2.core = acc.2.core
  | [], _ => rfl
  | i :: is, acc => by
    unfold resendIpcSlots
    have h := (sendsOnly_sendMessageToNode ctx env i acc.1.commandPacket acc.2).core
    dsimp only
    split_ifs <;> simp only [core_resendIpcSlots is, h]

@[simp] theorem core_serviceIpcCommands (c : WdCluster) : (serviceIpcCommands ctx env c).core = c.core :=
  List.foldlRecOn (motive := fun x : WdCluster => x.core = c.core) _ _ _ rfl fun x hx k _ => by
    dsimp only
    split_ifs
    · exact (core_resendIpcSlots ctx env _ _).trans hx
    · exact hx

theorem core_replyIsReceivedForPgpoolReplicateCommand (i : Nat) (pkt : WDPacketData) (k : Nat)
    (c : WdCluster) : (replyIsReceivedForPgpoolReplicateCommand ctx env i pkt k c).2.core = c.core := by
  unfold replyIsReceivedForPgpoolReplicateCommand
  dsimp only
  split_ifs <;> first | rfl | (simp only [core_cleanUpIPCCommand, core_wdCommandIsComplete]; rfl)

theorem core_processRemoteOnlineRecoveryCommand (i : Nat) (pkt : WDPacketData) (c : WdCluster) :
    (processRemoteOnlineRecoveryCommand ctx env i pkt c).core = c.core := by
  have h := fun t => (sendsOnly_replyWithMinimalMessage ctx env (some (i + 1)) t (some pkt) c).core
  unfold processRemoteOnlineRecoveryCommand
  dsimp only
  split_ifs
  · exact h _
  · split
    · exact h _
    · split_ifs
      · split
        · exact h _
        · rfl
      · exact h _
      · exact h _

end

end pgpool.watchdog
