-- Admission of a peer on an inbound connection: the unidentified_socks loop
-- of read_sockets. An AddNode binds the connection as the inbound one of the
-- first configured peer whose ports and host it names, when its payload
-- parses and its hash verifies, after that peer's old inbound connection is
-- closed. Any other AddNode is answered with Reject and leaves the peer table
-- as it was. A frame of another type never reaches that code:
-- read_packet_of_type closes the connection and hands back no packet.
import Pgpool.Watchdog.Loop
import Pgpool.Watchdog.Frames

namespace pgpool.watchdog

/-! ## The peer an AddNode names -/

/-- Remote node record `n` is the peer named by an `AddNode` that announces
`tempNode` on connection `conn`: the test of the `read_sockets` loop over the
peer table. -/
def NamesPeer (conn : SocketConnection) (tempNode n : WatchdogNode) : Prop :=
  n.wdPort = tempNode.wdPort ∧ n.pgpoolPort = tempNode.pgpoolPort ∧
    (n.hostname = conn.addr ∨ n.hostname = tempNode.hostname)

theorem namesPeer_iff (conn : SocketConnection) (tempNode n : WatchdogNode) :
    (n.wdPort == tempNode.wdPort && n.pgpoolPort == tempNode.pgpoolPort &&
      (n.hostname == conn.addr || n.hostname == tempNode.hostname)) = true ↔
      NamesPeer conn tempNode n := by
  simp [NamesPeer, and_assoc]

theorem remote_of_lt {c : WdCluster} {i : Nat} (h : i < c.remoteNodeCount) :
    c.remote i = c.remoteNodes[i] := by
  simp [WdCluster.remote, List.getD_eq_getElem?_getD, List.getElem?_eq_getElem h]

/-- The search of `read_sockets` finds the first peer the `AddNode` names. -/
theorem findIdx?_namesPeer {conn : SocketConnection} {tempNode : WatchdogNode} {c : WdCluster}
    {p : Nat} :
    c.remoteNodes.findIdx? (fun n => n.wdPort == tempNode.wdPort && n.pgpoolPort == tempNode.pgpoolPort &&
        (n.hostname == conn.addr || n.hostname == tempNode.hostname)) = some p ↔
      p < c.remoteNodeCount ∧ NamesPeer conn tempNode (c.remote p) ∧
        ∀ j < p, ¬ NamesPeer conn tempNode (c.remote j) := by
  rw [List.findIdx?_eq_some_iff_getElem]
  constructor
  · rintro ⟨hp, hm, hj⟩
    refine ⟨hp, ?_, fun j hjp => ?_⟩
    · rw [remote_of_lt hp, ← namesPeer_iff]; exact hm
    · rw [remote_of_lt (by simp only [WdCluster.remoteNodeCount]; omega), ← namesPeer_iff]; exact hj j hjp
  · rintro ⟨hp, hm, hj⟩
    refine ⟨hp, ?_, fun j hjp => ?_⟩
    · rw [remote_of_lt hp, ← namesPeer_iff] at hm; exact hm
    · have := hj j hjp
      rwa [remote_of_lt (by simp only [WdCluster.remoteNodeCount] at hp ⊢; omega), ← namesPeer_iff] at this

@[simp] theorem closeSocket_remoteNodes (c : WdCluster) (conn : SocketConnection) :
    (c.closeSocket conn).2.remoteNodes = c.remoteNodes := by
  unfold WdCluster.closeSocket; split <;> rfl

@[simp] theorem closeSocket_unidentifiedSocks (c : WdCluster) (conn : SocketConnection) :
    (c.closeSocket conn).2.unidentifiedSocks = c.unidentifiedSocks := by
  unfold WdCluster.closeSocket; split <;> rfl

theorem remote_modifyRemote_of_ne {c : WdCluster} {i j : Nat} (f : WatchdogNode → WatchdogNode)
    (h : j ≠ i) : (c.modifyRemote i f).remote j = c.remote j := by
  simp [WdCluster.remote, WdCluster.modifyRemote, List.getD_eq_getElem?_getD, List.getElem?_modify, h.symm]

section
variable (ctx : Ctx) (env : Env)

/-! ## An AddNode, bound or refused -/

/-- An `AddNode` that parses, verifies and names peer `p` first binds the
connection as `p`'s inbound one, after `p`'s old inbound connection is
closed, records the state it announces, and goes to the state machine; no
other peer's record changes. -/
theorem addNodeMessageReceived_of_namesPeer (conn : SocketConnection) (pkt : WDPacketData)
    (c : WdCluster) {tempNode : WatchdogNode} {authkey : Option String} {p : Nat}
    (hd : pkt.data ≠ []) (hl : 0 < pkt.len) (hparse : env.parseNodeInfo pkt.data = some (tempNode, authkey))
    (hv : verifyAuthhashForNode ctx env tempNode authkey = true) (hp : p < c.remoteNodeCount)
    (hm : NamesPeer conn tempNode (c.remote p)) (hfirst : ∀ j < p, ¬ NamesPeer conn tempNode (c.remote j)) :
    ∃ c', addNodeMessageReceived ctx env conn pkt c = watchdogStateMachine ctx env (.packetRcv p pkt) c' ∧
      (c'.remote p).serverSocket = { conn with sockState := .connected } ∧
      (c'.remote p).state = tempNode.state ∧ (∀ j, j ≠ p → c'.remote j = c.remote j) ∧
      c'.openFds = (c.closeSocket (c.remote p).serverSocket).2.openFds := by
  have hn : ¬ (pkt.data = [] ∨ pkt.len ≤ 0) := by rintro (h | h) <;> [exact hd h; omega]
  unfold addNodeMessageReceived
  rw [if_neg hn]
  dsimp only
  rw [hparse]
  dsimp only
  rw [if_pos hv, findIdx?_namesPeer.2 ⟨hp, hm, hfirst⟩]
  have hp' : p < (c.closeSocket (c.remote p).serverSocket).2.remoteNodeCount := by
    simpa [WdCluster.remoteNodeCount] using hp
  refine ⟨_, rfl, ?_, ?_, fun j hj => ?_, rfl⟩
  · rw [remote_modifyRemote_self _ hp']; split_ifs <;> rfl
  · rw [remote_modifyRemote_self _ hp']; split_ifs <;> rfl
  · rw [remote_modifyRemote_of_ne _ hj]
    simp [WdCluster.remote]

/-- An `AddNode` that does not parse, does not verify, or names no configured
peer is answered with Reject and its connection is closed. -/
theorem addNodeMessageReceived_of_refused (conn : SocketConnection) (pkt : WDPacketData) (c : WdCluster)
    (h : ∀ tempNode authkey, pkt.data ≠ [] → 0 < pkt.len →
      env.parseNodeInfo pkt.data = some (tempNode, authkey) →
      verifyAuthhashForNode ctx env tempNode authkey = true →
      ∀ p < c.remoteNodeCount, ¬ NamesPeer conn tempNode (c.remote p)) :
    addNodeMessageReceived ctx env conn pkt c = rejectUnidentified env conn pkt c := by
  unfold addNodeMessageReceived
  by_cases hn : pkt.data = [] ∨ pkt.len ≤ 0
  · rw [if_pos hn]
  rw [if_neg hn]
  dsimp only
  rcases hparse : env.parseNodeInfo pkt.data with _ | ⟨tempNode, authkey⟩
  · rfl
  dsimp only
  by_cases hv : verifyAuthhashForNode ctx env tempNode authkey = true
  · rw [if_pos hv]
    rcases hf : c.remoteNodes.findIdx? _ with _ | p
    · rfl
    obtain ⟨hp, hm, -⟩ := findIdx?_namesPeer.1 hf
    exact absurd hm (h tempNode authkey (fun e => hn (.inl e)) (by omega) hparse hv p hp)
  · rw [if_neg hv]

/-- The Reject written back carries the command id of the refused packet. -/
theorem getMinimumMessage_reply (type : MsgType) (pkt : WDPacketData) (c : WdCluster) :
    getMinimumMessage type (some pkt) c = (⟨type, pkt.commandId, 0, []⟩, c) := rfl

@[simp] theorem rejectUnidentified_remoteNodes (conn : SocketConnection) (pkt : WDPacketData) (c : WdCluster) :
    (rejectUnidentified env conn pkt c).remoteNodes = c.remoteNodes := by
  unfold rejectUnidentified sendMessageToConnection
  rw [getMinimumMessage_reply]
  dsimp only
  split_ifs <;> simp

@[simp] theorem rejectUnidentified_unidentifiedSocks (conn : SocketConnection) (pkt : WDPacketData)
    (c : WdCluster) : (rejectUnidentified env conn pkt c).unidentifiedSocks = c.unidentifiedSocks := by
  unfold rejectUnidentified sendMessageToConnection
  rw [getMinimumMessage_reply]
  dsimp only
  split_ifs <;> simp

/-! ## The loop over the unidentified connections -/

/-- A failed read, or a packet of another type, only closes the connection and
drops it from the list. -/
theorem unidentifiedSocketReady_of_not_addNode {k : Nat} {conn : SocketConnection} {c : WdCluster}
    (hk : c.unidentifiedSocks.getD k default = conn) (hs : 0 < conn.sock) (pkt : Option WDPacketData)
    (ht : ∀ p ∈ pkt, p.type ≠ wdAddNodeMessage) :
    unidentifiedSocketReady ctx env k pkt c =
      { (c.closeSocket conn).2 with unidentifiedSocks := c.unidentifiedSocks.eraseIdx k } := by
  unfold unidentifiedSocketReady
  rw [hk, if_neg (by omega)]
  rcases pkt with _ | pkt
  · simp
  · dsimp only; rw [if_neg (ht pkt rfl)]; simp

/-- An `AddNode` is handled by `addNodeMessageReceived`, and the connection
leaves the list. -/
theorem unidentifiedSocketReady_of_addNode {k : Nat} {conn : SocketConnection} {c : WdCluster}
    (hk : c.unidentifiedSocks.getD k default = conn) (hs : 0 < conn.sock) {pkt : WDPacketData}
    (ht : pkt.type = wdAddNodeMessage) :
    unidentifiedSocketReady ctx env k (some pkt) c =
      { addNodeMessageReceived ctx env conn pkt c with
        unidentifiedSocks := (addNodeMessageReceived ctx env conn pkt c).unidentifiedSocks.eraseIdx k } := by
  unfold unidentifiedSocketReady
  rw [hk, if_neg (by omega)]
  dsimp only
  rw [if_pos ht]

end

/-- After start-up the sample node accepts connection 30 from `node1`. -/
def runAccepted : WdCluster := step sampleCtx (sampleEnv 101) (.acceptPeer 30 "node1") runStart

end pgpool.watchdog
