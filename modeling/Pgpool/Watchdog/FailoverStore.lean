-- The coordinator's store of failover proposals: the lookup of a proposal
-- for a request, the recording of a vote, and the removals. A request finds a
-- proposal of its kind and size whose ids all occur among its own ids.
import Pgpool.Watchdog.Quorum
import Mathlib.Data.List.Perm.Subperm
import Mathlib.Data.List.Nodup

namespace pgpool.watchdog

/-! ## The pure model -/

/-- `does_int_array_contains_value`: `value` is among the first `count` entries. -/
def doesIntArrayContainsValue (intArray : List Int) (count : Int) (value : Int) : Bool :=
  (intArray.take count.toNat).contains value

/-- The test `get_failover_object` applies to one proposal: the same kind and
the same count, and each of the proposal's ids among the request's ids. -/
def failoverMatches (reqKind : PoolRequestKind) (nodesCount : Int) (nodeList : List Int)
    (f : WDFailoverObject) : Bool :=
  f.reqKind == reqKind && f.nodesCount == nodesCount &&
    (f.nodeList.take nodesCount.toNat).all (doesIntArrayContainsValue nodeList nodesCount)

/-- `get_failover_object`: the position of the first proposal that matches. -/
def getFailoverObject (fs : List WDFailoverObject) (reqKind : PoolRequestKind)
    (nodesCount : Int) (nodeList : List Int) : Option Nat :=
  fs.findIdx? (failoverMatches reqKind nodesCount nodeList)

/-- The tail of `add_failover`: one more vote, from `wdNode`. -/
def recordVote (wdNode : Nat) (f : WDFailoverObject) : WDFailoverObject :=
  { f with requestCount := f.requestCount + 1, requestingNodes := f.requestingNodes ++ [wdNode] }

/-- The proposal `add_failover` allocates for a request that matches none. -/
def newFailoverObject (reqKind : PoolRequestKind) (nodeIdList : List Int) (nodeCount : Int)
    (flags : UInt8) (failoverID : UInt32) (now : Int) : WDFailoverObject :=
  { reqKind, reqFlags := flags, nodesCount := nodeCount, failoverID,
    nodeList := if 0 < nodeCount then nodeIdList.take nodeCount.toNat else [],
    requestingNodes := [], requestCount := 0, startTime := now }

instance : Inhabited WDFailoverObject :=
  ⟨newFailoverObject .nodeUpRequest [] 0 0 0 0⟩

/-- `c` with `g` applied to the proposal at position `k`. -/
def WdCluster.modifyFailover (c : WdCluster) (k : Nat) (g : WDFailoverObject → WDFailoverObject) :
    WdCluster :=
  { c with wdCurrentFailovers := c.wdCurrentFailovers.modify g k }

/-- `add_failover`: the position of the proposal the vote went to, whether
`wdNode` had voted for it before, and the new state. -/
def addFailover (cfg : PoolConfig) (now : Int) (reqKind : PoolRequestKind)
    (nodeIdList : List Int) (nodeCount : Int) (wdNode : Nat) (flags : UInt8)
    (c : WdCluster) : Nat × Bool × WdCluster :=
  match getFailoverObject c.wdCurrentFailovers reqKind nodeCount nodeIdList with
  | some k =>
    if wdNode ∈ (c.wdCurrentFailovers.getD k default).requestingNodes then
      if cfg.allowMultipleFailoverRequestsFromNode then
        (k, true, c.modifyFailover k fun f => { f with requestCount := f.requestCount + 1 })
      else (k, true, c)
    else (k, false, c.modifyFailover k (recordVote wdNode))
  | none =>
    let (id, c) := c.getNextCommandID
    (c.wdCurrentFailovers.length, false,
      { c with wdCurrentFailovers := c.wdCurrentFailovers ++
        [recordVote wdNode (newFailoverObject reqKind nodeIdList nodeCount flags id now)] })

/-- `remove_failover_object`, for the proposal at position `k`. -/
def removeFailoverObject (k : Nat) (c : WdCluster) : WdCluster :=
  { c with wdCurrentFailovers := c.wdCurrentFailovers.eraseIdx k }

/-- `clear_all_failovers`. -/
def clearAllFailovers (c : WdCluster) : WdCluster := { c with wdCurrentFailovers := [] }

/-! ## Matching a request -/

theorem doesIntArrayContainsValue_length (l : List Int) (v : Int) :
    doesIntArrayContainsValue l l.length v = (l.contains v) := by
  simp [doesIntArrayContainsValue]

/-- A proposal matches a whole request list exactly when it has the request's
kind and length and each of its ids occurs in the list. -/
theorem failoverMatches_iff (k : PoolRequestKind) (l : List Int) (f : WDFailoverObject)
    (hf : f.nodeList.length = l.length) :
    failoverMatches k l.length l f = true ↔
      f.reqKind = k ∧ f.nodesCount = l.length ∧ ∀ x ∈ f.nodeList, x ∈ l := by
  have ht : f.nodeList.take l.length = f.nodeList := by
    simp [← hf]
  simp [failoverMatches, ht, doesIntArrayContainsValue_length, and_assoc]

/-- On lists without repeated ids, matching is equality of the id multisets:
the lookup confuses two requests only when one of them repeats an id. -/
theorem failoverMatches_iff_perm (k : PoolRequestKind) (l : List Int) (f : WDFailoverObject)
    (hf : f.nodeList.length = l.length) (hn : f.nodeList.Nodup) :
    failoverMatches k l.length l f = true ↔
      f.reqKind = k ∧ f.nodesCount = l.length ∧ f.nodeList.Perm l := by
  rw [failoverMatches_iff k l f hf]
  refine and_congr_right fun _ => and_congr_right fun _ => ⟨fun hs => ?_, fun hp x hx => hp.subset hx⟩
  exact (List.subperm_of_subset hn hs).perm_of_length_le hf.ge

/-! ## What the store does to the coordinator view -/

theorem core_addFailover (cfg : PoolConfig) (now : Int) (reqKind : PoolRequestKind)
    (nodeIdList : List Int) (nodeCount : Int) (wdNode : Nat) (flags : UInt8) (c : WdCluster) :
    (addFailover cfg now reqKind nodeIdList nodeCount wdNode flags c).2.2.core =
      { c.core with
        failovers := (addFailover cfg now reqKind nodeIdList nodeCount wdNode flags c).2.2.wdCurrentFailovers } := by
  unfold addFailover
  split
  · split_ifs <;> rfl
  · rfl

@[simp] theorem core_removeFailoverObject (k : Nat) (c : WdCluster) :
    (removeFailoverObject k c).core = { c.core with failovers := c.wdCurrentFailovers.eraseIdx k } := rfl

/-! ## The representation invariant of the store

`add_failover` is called with a node list and its length. A proposal then
keeps the length of its ids, has at least one vote, and, when a node may not
vote twice, counts exactly its distinct voters; no two proposals have the same
kind and the same multiset of ids. -/

/-- What `get_failover_object` looks a proposal up by: its kind and its ids. -/
def WDFailoverObject.key (f : WDFailoverObject) : PoolRequestKind × List Int := (f.reqKind, f.nodeList)

/-- One proposal as `add_failover` keeps it. -/
structure ProposalOk (allowMultiple : Bool) (f : WDFailoverObject) : Prop where
  nodesCount : f.nodesCount = f.nodeList.length
  voted : 1 ≤ f.requestCount
  voters : allowMultiple = false →
    f.requestingNodes.Nodup ∧ f.requestCount = f.requestingNodes.length

/-- The proposal list as the store keeps it. -/
structure FailoverStoreOk (allowMultiple : Bool) (fs : List WDFailoverObject) : Prop where
  proposals : ∀ f ∈ fs, ProposalOk allowMultiple f
  distinct : (fs.map WDFailoverObject.key).Pairwise fun a b => ¬ (a.1 = b.1 ∧ a.2.Perm b.2)

section
variable {allowMultiple : Bool} {fs : List WDFailoverObject}

theorem FailoverStoreOk.nil : FailoverStoreOk allowMultiple [] := ⟨by simp, by simp⟩

/-- Dropping proposals keeps the invariant. -/
theorem FailoverStoreOk.sublist (h : FailoverStoreOk allowMultiple fs) {fs' : List WDFailoverObject}
    (hs : List.Sublist fs' fs) : FailoverStoreOk allowMultiple fs' :=
  ⟨fun f hf => h.proposals f (hs.subset hf), h.distinct.sublist (hs.map _)⟩

/-- A change to one proposal that keeps its kind and ids keeps the invariant
when it keeps that proposal's own. -/
theorem FailoverStoreOk.modify (h : FailoverStoreOk allowMultiple fs) (k : Nat)
    (g : WDFailoverObject → WDFailoverObject) (hkey : ∀ f, (g f).key = f.key)
    (hg : ProposalOk allowMultiple (fs.getD k default) →
      ProposalOk allowMultiple (g (fs.getD k default))) :
    FailoverStoreOk allowMultiple (fs.modify g k) := by
  by_cases hk : k < fs.length
  swap
  · rwa [List.modify_eq_self (by omega)]
  obtain ⟨l₁, f, l₂, rfl, rfl, hm⟩ := List.exists_of_modify g hk
  have hf : (l₁ ++ f :: l₂).getD l₁.length default = f := by
    rw [List.getD_eq_getElem?_getD, List.getElem?_append_right (le_refl _), Nat.sub_self]; simp
  rw [hf] at hg
  rw [hm]
  refine ⟨fun f' hf' => ?_, ?_⟩
  · simp only [List.mem_append, List.mem_cons] at hf'
    rcases hf' with hf' | rfl | hf'
    · exact h.proposals f' (by simp [hf'])
    · exact hg (h.proposals f (by simp))
    · exact h.proposals f' (by simp [hf'])
  · simpa [hkey] using h.distinct

/-- A new proposal keeps the invariant when no proposal has its kind and the
same multiset of ids. -/
theorem FailoverStoreOk.append (h : FailoverStoreOk allowMultiple fs) {f : WDFailoverObject}
    (hf : ProposalOk allowMultiple f)
    (hnew : ∀ g ∈ fs, ¬ (g.reqKind = f.reqKind ∧ g.nodeList.Perm f.nodeList)) :
    FailoverStoreOk allowMultiple (fs ++ [f]) := by
  refine ⟨fun g hg => ?_, ?_⟩
  · rcases List.mem_append.1 hg with hg | hg
    · exact h.proposals g hg
    · rw [List.mem_singleton.1 hg]; exact hf
  · simp only [List.map_append, List.map_cons, List.map_nil, List.pairwise_append, List.mem_map,
      List.mem_singleton]
    refine ⟨h.distinct, List.pairwise_singleton _ _, ?_⟩
    rintro _ ⟨g, hg, rfl⟩ _ rfl
    exact hnew g hg

end

/-- A vote from a node that has not voted keeps a proposal's invariant. -/
theorem ProposalOk.recordVote {allowMultiple : Bool} {f : WDFailoverObject} {wdNode : Nat}
    (hp : ProposalOk allowMultiple f) (hm : wdNode ∉ f.requestingNodes) :
    ProposalOk allowMultiple (recordVote wdNode f) where
  nodesCount := hp.nodesCount
  voted := by have := hp.voted; simp only [pgpool.watchdog.recordVote]; omega
  voters hf := by
    obtain ⟨hn, hc⟩ := hp.voters hf
    refine ⟨by simpa [pgpool.watchdog.recordVote] using hn.concat hm, ?_⟩
    simp only [pgpool.watchdog.recordVote, List.length_append, List.length_singleton]
    omega

/-- The ids of a new proposal for a whole node list are the list. -/
theorem newFailoverObject_nodeList (reqKind : PoolRequestKind) (l : List Int) (flags : UInt8)
    (id : UInt32) (now : Int) :
    (newFailoverObject reqKind l l.length flags id now).nodeList = l := by
  cases l <;> simp [newFailoverObject]

/-- `add_failover` for a node list keeps the invariant: a request that matches
no proposal has no proposal of its kind and multiset of ids, and a vote
changes neither. -/
theorem failoverStoreOk_addFailover (cfg : PoolConfig) (now : Int) (reqKind : PoolRequestKind)
    (nodeIdList : List Int) (wdNode : Nat) (flags : UInt8) (c : WdCluster)
    (h : FailoverStoreOk cfg.allowMultipleFailoverRequestsFromNode c.wdCurrentFailovers) :
    FailoverStoreOk cfg.allowMultipleFailoverRequestsFromNode
      (addFailover cfg now reqKind nodeIdList nodeIdList.length wdNode flags c).2.2.wdCurrentFailovers := by
  unfold addFailover
  split
  · rename_i k _
    split_ifs with hm ha
    · exact h.modify k _ (fun _ => rfl) fun hp =>
        ⟨hp.nodesCount, by have := hp.voted; dsimp only; omega, fun hf => absurd ha (by simp [hf])⟩
    · exact h
    · exact h.modify k _ (fun _ => rfl) fun hp => hp.recordVote hm
  · rename_i hn
    have hnew : ProposalOk cfg.allowMultipleFailoverRequestsFromNode
        (recordVote wdNode (newFailoverObject reqKind nodeIdList nodeIdList.length flags
          (c.getNextCommandID.1) now)) :=
      ⟨by simp only [recordVote, newFailoverObject_nodeList]; rfl,
        by simp [recordVote, newFailoverObject], fun _ => by simp [recordVote, newFailoverObject]⟩
    refine h.append hnew ?_
    rintro g hg ⟨hk, hp⟩
    simp only [recordVote, newFailoverObject_nodeList] at hk hp
    have hgl : g.nodeList.length = nodeIdList.length := hp.length_eq
    have hmatch : failoverMatches reqKind nodeIdList.length nodeIdList g = true :=
      (failoverMatches_iff reqKind nodeIdList g hgl).2
        ⟨hk, by rw [(h.proposals g hg).nodesCount, hgl], fun x hx => hp.subset hx⟩
    simp [List.findIdx?_eq_none_iff.1 hn g hg] at hmatch

theorem failoverStoreOk_removeFailoverObject {allowMultiple : Bool} (k : Nat) (c : WdCluster)
    (h : FailoverStoreOk allowMultiple c.wdCurrentFailovers) :
    FailoverStoreOk allowMultiple (removeFailoverObject k c).wdCurrentFailovers :=
  h.sublist (List.eraseIdx_sublist _ _)

end pgpool.watchdog
