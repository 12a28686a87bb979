-- The laws of the standby list. The coordinator keeps the standby nodes in
-- the array `standbyNodes`, one entry per remote node, and their number in
-- `standby_nodes_count`. The array stands for a list of distinct remote
-- nodes (`StandbyList`): the listed nodes first, in order, then null entries
-- to the end. Each of the three writers keeps that invariant, from any state,
-- and moves the list as `StandbyCall.update` says:
--   * a join at the coordinator appends a node that is absent;
--   * a leave at the coordinator erases the node, the others keeping their order;
--   * a clear empties the list;
--   * at a node that is not the coordinator, a join or a leave keeps the list.
-- The count never passes the number of remote nodes, which is the array's
-- length, so no write of the three falls outside the array.
import Mathlib.Data.List.Nodup
import Pgpool.Watchdog.Leader

namespace pgpool.watchdog

/-! ## The array a list of nodes stands for -/

/-- The entry of remote node `i` in the array: its node number `i + 1`. -/
def standbyEntry (i : Nat) : Option Nat := some (i + 1)

/-- The array of `n` entries that lists the remote nodes `l`, in order. -/
def standbyArray (n : Nat) (l : List Nat) : List (Option Nat) :=
  l.map standbyEntry ++ List.replicate (n - l.length) none

/-- The standby array of `c` lists the distinct remote nodes `l`. -/
structure StandbyList (c : WdCluster) (l : List Nat) : Prop where
  nodup : l.Nodup
  remote : ∀ i ∈ l, i < c.remoteNodeCount
  array : c.clusterMasterInfo.standbyNodes = standbyArray c.remoteNodeCount l
  count : c.clusterMasterInfo.standbyNodesCount = l.length

/-- Distinct remote nodes of `n` number at most `n`; with `i` absent, fewer. -/
theorem length_lt_of_not_mem {n i : Nat} {l : List Nat} (hl : l.Nodup) (hr : ∀ j ∈ l, j < n)
    (hi : i < n) (hn : i ∉ l) : l.length < n := by
  have hsub : (i :: l).Subperm (List.range n) :=
    List.subperm_of_subset (List.nodup_cons.2 ⟨hn, hl⟩) fun j hj => by
      rcases List.mem_cons.1 hj with rfl | hj
      exacts [List.mem_range.2 hi, List.mem_range.2 (hr j hj)]
  simpa using hsub.length_le

namespace StandbyList

variable {c : WdCluster} {l : List Nat}

theorem length_le (h : StandbyList c l) : l.length ≤ c.remoteNodeCount := by
  have hsub : l.Subperm (List.range c.remoteNodeCount) :=
    List.subperm_of_subset h.nodup fun j hj => List.mem_range.2 (h.remote j hj)
  simpa using hsub.length_le

theorem count_le (h : StandbyList c l) :
    c.clusterMasterInfo.standbyNodesCount ≤ c.remoteNodeCount := by
  have := h.length_le
  rw [h.count]
  omega

/-- The array has one entry per remote node. -/
theorem length_array (h : StandbyList c l) :
    c.clusterMasterInfo.standbyNodes.length = c.remoteNodeCount := by
  have := h.length_le
  simp only [h.array, standbyArray, List.length_append, List.length_map, List.length_replicate]
  omega

/-- The first `standby_nodes_count` entries are the listed nodes. -/
theorem take_count (h : StandbyList c l) :
    c.clusterMasterInfo.standbyNodes.take c.clusterMasterInfo.standbyNodesCount.toNat =
      l.map standbyEntry := by
  rw [h.array, h.count, Int.toNat_ofNat, standbyArray, List.take_left' (List.length_map _ _)]

/-- The entries after the first `standby_nodes_count` are null. -/
theorem drop_count (h : StandbyList c l) :
    c.clusterMasterInfo.standbyNodes.drop c.clusterMasterInfo.standbyNodesCount.toNat =
      List.replicate (c.remoteNodeCount - l.length) none := by
  rw [h.array, h.count, Int.toNat_ofNat, standbyArray, List.drop_left' (List.length_map _ _)]

end StandbyList

/-- Resigning the escalation drops the VIP and keeps the standby list. -/
theorem StandbyList.resignFromEscalatedNode (env : Env) {c : WdCluster} {l : List Nat}
    (h : StandbyList c l) : StandbyList (resignFromEscalatedNode env c) l := by
  unfold pgpool.watchdog.resignFromEscalatedNode
  split
  · exact h
  · split <;> exact ⟨h.nodup, h.remote, h.array, h.count⟩

/-- `wd_cluster_initialize` allocates the array with every entry null. -/
theorem standbyList_wdClusterInitialize (env : Env) (cfg : PoolConfig) (escalatedInShm needsCleanup : Bool) :
    StandbyList (wdClusterInitialize env cfg escalatedInShm needsCleanup) [] := by
  cases needsCleanup
  · exact ⟨List.nodup_nil, nofun, by simp [wdClusterInitialize, standbyArray, WdCluster.remoteNodeCount], rfl⟩
  · exact StandbyList.resignFromEscalatedNode env
      ⟨List.nodup_nil, nofun, by simp [standbyArray, WdCluster.remoteNodeCount], rfl⟩

/-! ## The three writers -/

section
variable {c : WdCluster} {l : List Nat}

/-- A join at the coordinator: an absent node is written at index
`standby_nodes_count`, inside the array. -/
theorem standbyList_join (i : Nat) (h : StandbyList c l) (hi : i < c.remoteNodeCount)
    (hc : c.localIs .coordinator) (hn : i ∉ l) :
    StandbyList (standbyNodeJoinCluster i c) (l ++ [i]) := by
  have hlt := length_lt_of_not_mem h.nodup h.remote hi hn
  have hcontains : ¬ (c.clusterMasterInfo.standbyNodes.take
      c.clusterMasterInfo.standbyNodesCount.toNat).contains (some (i + 1)) := by
    simpa [h.take_count, standbyEntry] using hn
  have hset : c.clusterMasterInfo.standbyNodes.set c.clusterMasterInfo.standbyNodesCount.toNat
      (some (i + 1)) = standbyArray c.remoteNodeCount (l ++ [i]) := by
    obtain ⟨m, hm⟩ : ∃ m, c.remoteNodeCount - l.length = m + 1 := ⟨_, (Nat.succ_pred_eq_of_pos (by omega)).symm⟩
    rw [h.array, h.count, Int.toNat_ofNat, standbyArray, hm, List.replicate_succ,
      List.set_append_right _ _ (by simp)]
    simp [standbyArray, standbyEntry, show c.remoteNodeCount - (l.length + 1) = m by omega]
  simp only [standbyNodeJoinCluster, if_pos hc, hcontains]
  refine ⟨List.nodup_append.2 ⟨h.nodup, List.nodup_singleton i, by simpa using hn⟩, ?_, hset, ?_⟩
  · simp only [List.mem_append, List.mem_singleton]
    rintro j (hj | rfl)
    exacts [h.remote j hj, hi]
  · simp [h.count]

/-- A join of a listed node, or at a node that is not the coordinator, keeps
the array. -/
theorem standbyNodeJoinCluster_master (i : Nat) (h : StandbyList c l)
    (hk : ¬ (c.localIs .coordinator ∧ i ∉ l)) :
    (standbyNodeJoinCluster i c).clusterMasterInfo = c.clusterMasterInfo := by
  unfold standbyNodeJoinCluster
  by_cases hc : c.localIs .coordinator
  · have hl : (c.clusterMasterInfo.standbyNodes.take
        c.clusterMasterInfo.standbyNodesCount.toNat).contains (some (i + 1)) := by
      simpa [h.take_count, standbyEntry] using not_not.1 (not_and.1 hk hc)
    simp only [if_pos hc, if_pos hl]
  · simp only [if_neg hc]

end

/-! ## The loop of `standby_node_left_cluster`

The loop takes its turns at indices `0 .. standby_nodes_count - 1`. Once the
node is met, its entry is nulled and every later entry moves one place
down, so the null travels to the end of the listed nodes. -/

/-- A turn before the node is met: the node is nulled when it is the entry. -/
theorem leftTurn_kept (w node : Nat) (q rest : List (Option Nat)) (cnt : Int) :
    leftTurn w (q ++ some node :: rest, cnt, false) q.length =
      if node = w then (q ++ none :: rest, cnt - 1, true) else (q ++ some node :: rest, cnt, false) := by
  simp only [leftTurn, List.getD_eq_getElem?_getD, List.getElem?_append_right (Nat.le_refl _),
    Nat.sub_self, List.getElem?_cons_zero, Option.getD_some, Bool.false_eq_true, if_false,
    List.set_append_right _ _ (Nat.le_refl _), List.set_cons_zero]

/-- A turn after the node is met: the entry moves one place down. -/
theorem leftTurn_removed (w node : Nat) (q rest : List (Option Nat)) (cnt : Int) :
    leftTurn w (q ++ none :: some node :: rest, cnt, true) (q.length + 1) =
      (q ++ some node :: none :: rest, cnt, true) := by
  simp only [leftTurn, List.getD_eq_getElem?_getD, List.getElem?_append_right (Nat.le_add_right _ 1),
    Nat.add_sub_cancel_left, List.getElem?_cons_succ, List.getElem?_cons_zero, Option.getD_some,
    if_true, Nat.add_sub_cancel, List.set_append_right _ _ (Nat.le_refl _),
    List.set_append_right _ _ (Nat.le_add_right _ 1), Nat.sub_self, List.set_cons_zero, List.set_cons_succ]

/-- The loop's array, count and flag once it has taken the turns at the
indices of `p`, the first entries of the list `p ++ s`: the node `i` was
removed when it is in `p`. -/
def leftLoopState (n i : Nat) (p s : List Nat) : List (Option Nat) × Int × Bool :=
  if i ∈ p then
    ((p.erase i).map standbyEntry ++ none :: (s.map standbyEntry ++ List.replicate (n - (p ++ s).length) none),
      ((p ++ s).length : Int) - 1, true)
  else
    ((p ++ s).map standbyEntry ++ List.replicate (n - (p ++ s).length) none, (p ++ s).length, false)

/-- One turn of the loop moves the first unvisited node into the prefix. -/
theorem leftTurn_leftLoopState (n i x : Nat) (p s : List Nat) :
    leftTurn (i + 1) (leftLoopState n i p (x :: s)) p.length = leftLoopState n i (p ++ [x]) s := by
  have hlen : (p ++ [x] ++ s).length = (p ++ x :: s).length := by simp
  by_cases hp : i ∈ p
  · obtain ⟨q, hq⟩ : ∃ q, p.erase i = q := ⟨_, rfl⟩
    have hql : p.length = q.length + 1 := by
      rw [← hq, List.length_erase_of_mem hp]
      exact (Nat.succ_pred_eq_of_pos (List.length_pos_of_mem hp)).symm
    have hturn := leftTurn_removed (i + 1) (x + 1) (q.map standbyEntry)
      (s.map standbyEntry ++ List.replicate (n - (p ++ x :: s).length) none)
      ((p ++ x :: s).length - 1)
    simp only [List.length_map] at hturn
    simp only [leftLoopState, if_pos hp, if_pos (List.mem_append_left [x] hp), hq, hql,
      List.erase_append_left [x] hp, hlen, List.map_cons, List.map_append, standbyEntry] at hturn ⊢
    simpa using hturn
  · have hturn := leftTurn_kept (i + 1) (x + 1) (p.map standbyEntry)
      (s.map standbyEntry ++ List.replicate (n - (p ++ x :: s).length) none) (p ++ x :: s).length
    simp only [List.length_map] at hturn
    by_cases hx : x = i
    · subst hx
      simp only [leftLoopState, if_neg hp, List.mem_append, List.mem_singleton, or_true, if_true,
        List.erase_append_right [x] hp, List.erase_cons_head, List.append_nil, hlen] at hturn ⊢
      simpa [standbyEntry] using hturn
    · have hx' : i ∉ p ++ [x] := by simpa [hp] using Ne.symm hx
      simp only [leftLoopState, if_neg hp, if_neg hx', hlen] at hturn ⊢
      simpa [standbyEntry, hx] using hturn

/-- The loop, from any turn on: the turns at the indices of `s` move all of
`s` into the prefix. -/
theorem foldl_leftTurn (n i : Nat) (p s : List Nat) :
    (List.range' p.length s.length).foldl (leftTurn (i + 1)) (leftLoopState n i p s) =
      leftLoopState n i (p ++ s) [] := by
  induction s generalizing p with
  | nil => simp
  | cons x s ih =>
    rw [List.length_cons, List.range'_succ, List.foldl_cons, leftTurn_leftLoopState]
    simpa using ih (p ++ [x])

/-- The whole loop, on the array of `l`, leaves the array of `l.erase i`. -/
theorem leftLoop_erase (n i : Nat) (l : List Nat) (hn : l.length ≤ n) :
    (List.range l.length).foldl (leftTurn (i + 1)) (standbyArray n l, (l.length : Int), false) =
      (standbyArray n (l.erase i), ((l.erase i).length : Int), decide (i ∈ l)) := by
  have h0 : (standbyArray n l, (l.length : Int), false) = leftLoopState n i [] l := by
    simp [leftLoopState, standbyArray]
  rw [h0, List.range_eq_range', ← List.length_nil, foldl_leftTurn, List.nil_append]
  by_cases hi : i ∈ l
  · have hpos := List.length_pos_of_mem hi
    have hrep : n - (l.length - 1) = n - l.length + 1 := by omega
    simp [leftLoopState, hi, standbyArray, List.length_erase_of_mem hi, hrep, List.replicate_succ]
    omega
  · simp [leftLoopState, hi, standbyArray, List.erase_of_not_mem hi]

/-- Removing the middle one of three listed nodes. -/
example : (List.range 3).foldl (leftTurn 1) ([some 3, some 1, some 2, none], 3, false) =
    ([some 3, some 2, none, none], 2, true) := by decide

section
variable {c : WdCluster} {l : List Nat}

/-- A leave at the coordinator erases the node from the list. -/
theorem standbyList_left (i : Nat) (h : StandbyList c l) (hc : c.localIs .coordinator) :
    StandbyList (standbyNodeLeftCluster i c) (l.erase i) := by
  have hloop := leftLoop_erase c.remoteNodeCount i l h.length_le
  simp only [standbyNodeLeftCluster, if_pos hc, h.array, h.count, Int.toNat_ofNat, hloop]
  exact ⟨h.nodup.erase i, fun j hj => h.remote j ((List.erase_subset _ _) hj), rfl, rfl⟩

/-- A leave at a node that is not the coordinator keeps the array. -/
theorem standbyNodeLeftCluster_master (i : Nat) (hc : ¬ c.localIs .coordinator) :
    (standbyNodeLeftCluster i c).clusterMasterInfo = c.clusterMasterInfo := by
  simp only [standbyNodeLeftCluster, if_neg hc]

theorem standbyList_clear (h : StandbyList c l) : StandbyList (clearStandbyNodesList c) [] := by
  refine ⟨List.nodup_nil, nofun, ?_, rfl⟩
  show c.clusterMasterInfo.standbyNodes.map (fun _ => none) = standbyArray c.remoteNodeCount []
  rw [List.map_const', h.length_array]
  simp [standbyArray]

end

/-! ## Runs of the three writers -/

/-- A call of one of the three functions that write the standby list. -/
inductive StandbyCall
  | join (i : Nat)
  | left (i : Nat)
  | clear
  deriving DecidableEq, Repr

namespace StandbyCall

/-- The call on the cluster record. -/
def apply : StandbyCall → WdCluster → WdCluster
  | join i => standbyNodeJoinCluster i
  | left i => standbyNodeLeftCluster i
  | clear => clearStandbyNodesList

/-- The call names one of the `n` remote nodes. -/
def Remote (n : Nat) : StandbyCall → Prop
  | join i | left i => i < n
  | clear => True

instance (n : Nat) : DecidablePred (Remote n)
  | join i | left i => inferInstanceAs (Decidable (i < n))
  | clear => isTrue trivial

/-- What the call does to the list, at the coordinator (`coord`) or at any
other node. -/
def update (coord : Bool) : StandbyCall → List Nat → List Nat
  | join i, l => if coord ∧ i ∉ l then l ++ [i] else l
  | left i, l => if coord then l.erase i else l
  | clear, _ => []

@[simp] theorem apply_remoteNodeCount (k : StandbyCall) (c : WdCluster) :
    (k.apply c).remoteNodeCount = c.remoteNodeCount := by
  cases k <;> simp only [apply, standbyNodeJoinCluster, standbyNodeLeftCluster] <;> (try split_ifs) <;> rfl

@[simp] theorem apply_state (k : StandbyCall) (c : WdCluster) :
    (k.apply c).localNode.state = c.localNode.state := by
  cases k <;> simp only [apply, standbyNodeJoinCluster, standbyNodeLeftCluster] <;> (try split_ifs) <;> rfl

theorem apply_localIs (k : StandbyCall) (c : WdCluster) (s : WDStates) :
    (k.apply c).localIs s ↔ c.localIs s := by
  simp only [WdCluster.localIs, apply_state]

/-- One call keeps the invariant, and moves the list as `update` says. -/
theorem standbyList_apply {c : WdCluster} {l : List Nat} (k : StandbyCall)
    (h : StandbyList c l) (hk : k.Remote c.remoteNodeCount) :
    StandbyList (k.apply c) (k.update (decide (c.localIs .coordinator)) l) := by
  have hkeep : ∀ c', c'.clusterMasterInfo = c.clusterMasterInfo →
      c'.remoteNodeCount = c.remoteNodeCount → StandbyList c' l := fun c' hm hr =>
    ⟨h.nodup, hr ▸ h.remote, hm ▸ hr ▸ h.array, hm ▸ h.count⟩
  cases k with
  | join i =>
    by_cases hj : c.localIs .coordinator ∧ i ∉ l
    · simpa [update, hj] using standbyList_join i h hk hj.1 hj.2
    · have hu : (join i).update (decide (c.localIs .coordinator)) l = l := by
        simp only [update, decide_eq_true_eq, hj, if_false]
      rw [hu]
      exact hkeep _ (standbyNodeJoinCluster_master i h hj) (apply_remoteNodeCount (join i) c)
  | left i =>
    by_cases hc : c.localIs .coordinator
    · simpa [update, hc] using standbyList_left i h hc
    · simpa [update, hc] using
        hkeep _ (standbyNodeLeftCluster_master i hc) (apply_remoteNodeCount (left i) c)
  | clear => exact standbyList_clear h

end StandbyCall

/-- The calls of `calls`, in order. -/
def runStandbyCalls (calls : List StandbyCall) (c : WdCluster) : WdCluster :=
  calls.foldl (fun c k => k.apply c) c

/-- The list after the calls of `calls`, at the coordinator or elsewhere. -/
def standbyRun (coord : Bool) (calls : List StandbyCall) (l : List Nat) : List Nat :=
  calls.foldl (fun l k => k.update coord l) l

/-- Every run of the three writers keeps the invariant; the list moves as the
calls' `update` says, the node being the coordinator or not throughout. -/
theorem standbyList_runStandby (calls : List StandbyCall) {c : WdCluster} {l : List Nat}
    (h : StandbyList c l) (hr : ∀ k ∈ calls, k.Remote c.remoteNodeCount) :
    StandbyList (runStandbyCalls calls c) (standbyRun (decide (c.localIs .coordinator)) calls l) := by
  induction calls generalizing c l with
  | nil => exact h
  | cons k ks ih =>
    have hk := k.standbyList_apply h (hr k (List.mem_cons_self _ _))
    have hrest : ∀ k' ∈ ks, k'.Remote (k.apply c).remoteNodeCount := fun k' hk' => by
      simpa using hr k' (List.mem_cons_of_mem _ hk')
    have hstep := ih hk hrest
    simp only [StandbyCall.apply_localIs] at hstep
    exact hstep

/-- The sample node of two peers, as coordinator. -/
def sampleCoordinator : WdCluster :=
  { sampleCluster with localNode := { sampleCluster.localNode with state := WDStates.coordinator.toInt } }

/-- Both peers join, the first joins again, leaves, and joins once more. -/
def sampleStandbyCalls : List StandbyCall := [.join 0, .join 1, .join 0, .left 0, .join 0]

end pgpool.watchdog
