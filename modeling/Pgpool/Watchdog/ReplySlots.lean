-- The result slots of a cluster command under a reply. The search loop of
-- watchdog_internal_command_packet_processor clears every slot it passes on
-- its way to the replier's, so a reply from remote node i resets the slots
-- of the nodes before i to Init, whatever they held, and keeps those after
-- i. service_internal_command resends only the slots in SendError, so a
-- slot reset this way is never sent again.
import Pgpool.Watchdog.Loop

namespace pgpool.watchdog

/-! ## The search loop and the resend loop -/

/-- The search loop for the slot of node `i` clears the slots up to it. -/
theorem getElem?_clearSlotsThrough (i j : Nat) (rs : List WDCommandNodeResult) :
    (clearSlotsThrough i rs)[j]? = if j ≤ i then rs[j]?.map fun _ => clearedResult else rs[j]? := by
  induction rs generalizing i j with
  | nil => simp [clearSlotsThrough]
  | cons r rs ih => cases i <;> cases j <;> simp [clearSlotsThrough, ih]

/-- The slots other than the replier's after a reply from node `i`: cleared
before it, kept after it. -/
theorem getElem?_repliedSlots (i j : Nat) (t : MsgType) (rs : List WDCommandNodeResult) (hj : j ≠ i) :
    ((clearSlotsThrough i rs).set i ⟨.replied, t⟩)[j]? =
      if j < i then rs[j]?.map (fun _ => clearedResult) else rs[j]? := by
  rw [List.getElem?_set_ne (Ne.symm hj), getElem?_clearSlotsThrough]
  simp only [Nat.le_iff_lt_or_eq, hj, or_false]

section
variable (ctx : Ctx) (env : Env)

/-- The resend loop of `service_internal_command` writes only the slots in
`SendError`: every other slot keeps what it holds. -/
theorem resendClusterSlots_keeps_slot (j : Nat) :
    ∀ (is : List Nat) (acc : WDCommandData × WdCluster),
      acc.1.nodeResults[j]?.map (·.cmdState) ≠ some .sendError →
        (resendClusterSlots ctx env is acc).1.nodeResults[j]? = acc.1.nodeResults[j]?
  | [], _, _ => rfl
  | i :: is, (cmd, c), h => by
    have ih := resendClusterSlots_keeps_slot j is
    simp only [resendClusterSlots]
    split_ifs with hs hr
    · have hij : i ≠ j := fun e => h (e ▸ hs.1)
      have hslot : ({ cmd.setSlot i .sent with commandSendToCount := cmd.commandSendToCount + 1 } :
          WDCommandData).nodeResults[j]? = cmd.nodeResults[j]? :=
        List.getElem?_modify_ne _ _ hij
      rw [ih _ (by rwa [hslot]), hslot]
    · exact ih _ h
    · exact ih _ h

/-- An accept from remote node `i` for command `k`, in progress and still
waiting for more replies: the processor takes it and writes command `k`
back with the replier's slot marked replied, the slots before it cleared,
and one more reply counted. -/
theorem watchdogInternalCommandPacketProcessor_accept (c : WdCluster) (i k : Nat) (pkt : WDPacketData)
    (hk : getWdCommandFromReply c.clusterCommands pkt = some k)
    (hprog : (c.clusterCommands.getD k default).commandStatus = .inProgress)
    (hacc : pkt.type = wdAcceptMessage) (hi : i < c.remoteNodeCount)
    (hwait : (c.clusterCommands.getD k default).commandReplyFromCount + 1 <
      (c.clusterCommands.getD k default).commandSendToCount) :
    watchdogInternalCommandPacketProcessor ctx env i pkt c =
      (true, { c with clusterCommands :=
        c.clusterCommands.set k { c.clusterCommands.getD k default with
          nodeResults := (clearSlotsThrough i (c.clusterCommands.getD k default).nodeResults).set i
            ⟨.replied, pkt.type⟩,
          commandReplyFromCount := (c.clusterCommands.getD k default).commandReplyFromCount + 1 } }) := by
  simp only [watchdogInternalCommandPacketProcessor, hk, hprog, hacc, ne_eq, not_true_eq_false,
    false_and, and_false, if_false, eq_false (show wdAcceptMessage ≠ wdInfoMessage by decide),
    eq_false (show wdAcceptMessage ≠ wdRejectMessage by decide),
    eq_false (show wdAcceptMessage ≠ wdErrorMessage by decide), or_self, if_pos hi, ge_iff_le,
    UInt32.not_le.2 hwait]

/-- A reply touches the other nodes' slots. An accept from remote node `i`
that leaves its command in progress clears the slot of every node before
`i`, whatever state the slot was in, `SendError` included, and keeps the
slots after `i`; no later resend ever writes a slot so cleared. -/
theorem reply_clears_earlier_slots (c : WdCluster) (i k : Nat) (pkt : WDPacketData)
    (hk : getWdCommandFromReply c.clusterCommands pkt = some k)
    (hprog : (c.clusterCommands.getD k default).commandStatus = .inProgress)
    (hacc : pkt.type = wdAcceptMessage) (hi : i < c.remoteNodeCount)
    (hwait : (c.clusterCommands.getD k default).commandReplyFromCount + 1 <
      (c.clusterCommands.getD k default).commandSendToCount) :
    ∃ cmd : WDCommandData,
      watchdogInternalCommandPacketProcessor ctx env i pkt c =
        (true, { c with clusterCommands := c.clusterCommands.set k cmd }) ∧
      (∀ j ≠ i, cmd.nodeResults[j]? = if j < i then
        (c.clusterCommands.getD k default).nodeResults[j]?.map (fun _ => clearedResult)
        else (c.clusterCommands.getD k default).nodeResults[j]?) ∧
      ∀ j < i, ∀ (env' : Env) (is : List Nat) (c' : WdCluster),
        (resendClusterSlots ctx env' is (cmd, c')).1.nodeResults[j]? = cmd.nodeResults[j]? := by
  let cmd := c.clusterCommands.getD k default
  refine ⟨{ cmd with
      nodeResults := (clearSlotsThrough i cmd.nodeResults).set i ⟨.replied, pkt.type⟩,
      commandReplyFromCount := cmd.commandReplyFromCount + 1 },
    watchdogInternalCommandPacketProcessor_accept ctx env c i k pkt hk hprog hacc hi hwait,
    fun j hj => getElem?_repliedSlots i j pkt.type _ hj, fun j hj env' is c' => ?_⟩
  apply resendClusterSlots_keeps_slot
  rw [getElem?_repliedSlots i j _ _ (Nat.ne_of_lt hj), if_pos hj]
  cases (c.clusterCommands.getD k default).nodeResults[j]? <;> simp [clearedResult]

end

/-- Remote node 1 accepts the candidacy of the standing sample node, command
7 at index 1, sent to both peers: the accept clears remote node 0's slot,
`Sent` until then, to `Init`. -/
theorem accept_of_node1_clears_node0_slot :
    getWdCommandFromReply runStanding.clusterCommands (samplePacket wdAcceptMessage 7 []) = some 1 ∧
      (runStanding.clusterCommands.getD 1 default).commandStatus = .inProgress ∧
      (samplePacket wdAcceptMessage 7 []).type = wdAcceptMessage ∧ 1 < runStanding.remoteNodeCount ∧
      (runStanding.clusterCommands.getD 1 default).commandReplyFromCount + 1 <
        (runStanding.clusterCommands.getD 1 default).commandSendToCount ∧
      (runStanding.clusterCommands.getD 1 default).nodeResults.map (·.cmdState) = [.sent, .sent] ∧
      ((watchdogInternalCommandPacketProcessor sampleCtx (sampleEnv 112) 1
        (samplePacket wdAcceptMessage 7 []) runStanding).2.clusterCommands.getD 1 default).nodeResults.map
          (·.cmdState) = [.init, .replied] ∧
      ∃ cmd : WDCommandData,
        watchdogInternalCommandPacketProcessor sampleCtx (sampleEnv 112) 1 (samplePacket wdAcceptMessage 7 [])
          runStanding = (true, { runStanding with clusterCommands := runStanding.clusterCommands.set 1 cmd }) ∧
        (∀ j ≠ 1, cmd.nodeResults[j]? = if j < 1 then
          (runStanding.clusterCommands.getD 1 default).nodeResults[j]?.map (fun _ => clearedResult)
          else (runStanding.clusterCommands.getD 1 default).nodeResults[j]?) ∧
        ∀ j < 1, ∀ (env' : Env) (is : List Nat) (c' : WdCluster),
          (resendClusterSlots sampleCtx env' is (cmd, c')).1.nodeResults[j]? = cmd.nodeResults[j]? := by
  have hk : getWdCommandFromReply runStanding.clusterCommands (samplePacket wdAcceptMessage 7 []) = some 1 := by
    decide
  have hprog : (runStanding.clusterCommands.getD 1 default).commandStatus = .inProgress := by decide
  have hi : 1 < runStanding.remoteNodeCount := by decide
  have hwait : (runStanding.clusterCommands.getD 1 default).commandReplyFromCount + 1 <
      (runStanding.clusterCommands.getD 1 default).commandSendToCount := by decide
  exact ⟨hk, hprog, rfl, hi, hwait, by decide, by decide,
    reply_clears_earlier_slots sampleCtx (sampleEnv 112) runStanding 1 1 _ hk hprog rfl hi hwait⟩

end pgpool.watchdog
