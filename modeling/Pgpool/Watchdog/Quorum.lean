-- The quorum arithmetic of the watchdog: how many remote nodes make a
-- quorum, how many votes make a consensus, and the quorum status that
-- update_quorum_status computes from the standby count.
import Pgpool.Watchdog.Cluster
import Mathlib.Order.Bounds.Basic

namespace pgpool.watchdog

/-- `get_mimimum_remote_nodes_required_for_quorum`. -/
def getMimimumRemoteNodesRequiredForQuorum (remoteNodeCount : Nat) : Nat :=
  if remoteNodeCount % 2 = 0 then remoteNodeCount / 2 else (remoteNodeCount - 1) / 2

/-- `get_minimum_votes_to_resolve_consensus`. -/
def getMinimumVotesToResolveConsensus (remoteNodeCount : Nat) (halfVotes : Bool) : Nat :=
  let required := getMimimumRemoteNodesRequiredForQuorum remoteNodeCount + 1
  if remoteNodeCount % 2 ≠ 0 ∧ halfVotes = false then required + 1 else required

/-- The value `update_quorum_status` gives `quorum_status` for a standby count. -/
def quorumStatusFor (remoteNodeCount : Nat) (standbyNodesCount : Int) (halfVotes : Bool) : Int :=
  let required : Int := getMimimumRemoteNodesRequiredForQuorum remoteNodeCount
  if standbyNodesCount > required then 1
  else if standbyNodesCount = required then
    (if remoteNodeCount % 2 ≠ 0 then (if halfVotes then 0 else -1) else 1)
  else -1

theorem quorumStatusFor_mem (r : Nat) (s : Int) (h : Bool) :
    quorumStatusFor r s h = -1 ∨ quorumStatusFor r s h = 0 ∨ quorumStatusFor r s h = 1 := by
  unfold quorumStatusFor
  dsimp only
  split_ifs <;> simp

theorem one_le_getMinimumVotesToResolveConsensus (r : Nat) (h : Bool) :
    1 ≤ getMinimumVotesToResolveConsensus r h := by
  unfold getMinimumVotesToResolveConsensus
  dsimp only
  split_ifs <;> omega

/-! ## The thresholds against the majority of the cluster

The cluster has `r + 1` nodes, the local one included. Both functions split on
the parity of `r`; on either side the required remote count is `r / 2`. -/

@[simp] theorem getMimimumRemoteNodesRequiredForQuorum_eq (r : Nat) :
    getMimimumRemoteNodesRequiredForQuorum r = r / 2 := by
  unfold getMimimumRemoteNodesRequiredForQuorum
  split_ifs <;> omega

/-- The quorum status for `s` standbys: `1` when the standbys and the local
node are a strict majority, `0` on an exact half when half votes count, `-1`
otherwise. -/
theorem quorumStatusFor_eq_majority (r : Nat) (s : Int) (halfVotes : Bool) :
    quorumStatusFor r s halfVotes =
      if (r + 1 : Int) < 2 * (s + 1) then 1
      else if 2 * (s + 1) = (r + 1 : Int) ∧ halfVotes = true then 0 else -1 := by
  unfold quorumStatusFor
  simp only [getMimimumRemoteNodesRequiredForQuorum_eq]
  cases halfVotes <;> simp only [Bool.false_eq_true, and_false, and_true, if_false, if_true] <;>
    split_ifs <;> omega

theorem quorumStatusFor_mono (r : Nat) (halfVotes : Bool) {s s' : Int} (hs : s ≤ s') :
    quorumStatusFor r s halfVotes ≤ quorumStatusFor r s' halfVotes := by
  simp only [quorumStatusFor_eq_majority]
  split_ifs <;> simp_all <;> omega

/-- The votes a consensus needs: the least strict majority of the cluster, or
the least half of it when the cluster is even and half votes count. -/
theorem getMinimumVotesToResolveConsensus_isLeast (r : Nat) (halfVotes : Bool) :
    IsLeast {v | if (r + 1) % 2 = 0 ∧ halfVotes = true then r + 1 ≤ 2 * v else r + 1 < 2 * v}
      (getMinimumVotesToResolveConsensus r halfVotes) := by
  unfold getMinimumVotesToResolveConsensus
  simp only [getMimimumRemoteNodesRequiredForQuorum_eq]
  refine ⟨?_, fun v hv => ?_⟩ <;> cases halfVotes <;>
    simp only [Set.mem_setOf_eq, Bool.false_eq_true, Bool.true_eq_false, and_false, and_true,
      if_false, if_true] at * <;> split_ifs at * <;> omega

/-- Quorum and consensus thresholds, for every remote count, standby count and
setting of `enable_consensus_with_half_votes`. -/
theorem quorum_and_votes_follow_majority (r : Nat) (s : Int) (halfVotes : Bool) :
    (quorumStatusFor r s halfVotes = 1 ↔ (r + 1 : Int) < 2 * (s + 1)) ∧
    (quorumStatusFor r s halfVotes = 0 ↔ 2 * (s + 1) = (r + 1 : Int) ∧ halfVotes = true) ∧
    (quorumStatusFor r s halfVotes = -1 ↔
      ¬ (r + 1 : Int) < 2 * (s + 1) ∧ ¬ (2 * (s + 1) = (r + 1 : Int) ∧ halfVotes = true)) ∧
    (∀ s', s ≤ s' → quorumStatusFor r s halfVotes ≤ quorumStatusFor r s' halfVotes) ∧
    IsLeast {v | if (r + 1) % 2 = 0 ∧ halfVotes = true then r + 1 ≤ 2 * v else r + 1 < 2 * v}
      (getMinimumVotesToResolveConsensus r halfVotes) ∧
    1 ≤ getMinimumVotesToResolveConsensus r halfVotes ∧
    getMinimumVotesToResolveConsensus r halfVotes ≤ r + 1 := by
  have hv := getMinimumVotesToResolveConsensus_isLeast r halfVotes
  refine ⟨?_, ?_, ?_, fun s' => quorumStatusFor_mono r halfVotes, hv,
    one_le_getMinimumVotesToResolveConsensus r halfVotes, hv.2 ?_⟩
  on_goal 4 => simp only [Set.mem_setOf_eq]; split_ifs <;> omega
  all_goals
    rw [quorumStatusFor_eq_majority]
    by_cases hA : (r + 1 : Int) < 2 * (s + 1)
    · have hB : ¬ 2 * (s + 1) = (r + 1 : Int) := by omega
      simp [hA, hB]
    · by_cases hB : 2 * (s + 1) = (r + 1 : Int) ∧ halfVotes = true <;> simp [hA, hB]

/-- The four-node cluster of the comment in watchdog.c: two votes with half
votes, three without. -/
example : getMinimumVotesToResolveConsensus 3 true = 2 ∧ getMinimumVotesToResolveConsensus 3 false = 3 := by
  decide

end pgpool.watchdog
