-- The choice of the load balancing node when a client connects:
-- select_load_balancing_node and choose_db_node_id of child.c. Two
-- redirect lists may suggest a node for the session's database or
-- application name; a random rate against the entry's weight decides
-- whether the suggestion is taken; otherwise a second random draw picks a
-- node by weight. The laws:
--   * the weighted draw is a roulette wheel: with the weights of the nodes
--     it may pick laid end to end, a draw u in [0, 1) picks the node whose
--     stretch holds u times the total, and MASTER_NODE_ID when no node may
--     be picked; random() / RAND_MAX is 1 when random() returns RAND_MAX,
--     and that draw picks the last node that may be picked;
--   * a suggested node is taken exactly when the rate is within its
--     weight, and is left out of the draw otherwise; a suggested standby
--     sends the session to the primary beyond the weight, and the draw
--     then leaves the primary out;
--   * a match in the application name list does not drop the database
--     list's node: when the application's node cannot be used, the
--     database's node is kept and weighed with the application's weight;
--   * choose_db_node_id reads any other word that starts with a letter as
--     node 0.
import Mathlib.Algebra.Order.Field.Rat
import Mathlib.Algebra.Order.BigOperators.Group.List
import Mathlib.Tactic.Linarith

namespace pgpool.protocol

/-! ## What the choice reads -/

/-- A backend as `select_load_balancing_node` reads it: `backend_weight`,
`VALID_BACKEND_RAW` (its status is `CON_UP` or `CON_CONNECT_WAIT`) and
`VALID_BACKEND`, whose `pool_is_node_to_be_sent_in_current_query` is not in
the source. The weight, a `double`, is a rational. -/
structure BackendInfo where
  backendWeight : ℚ
  validRaw : Bool
  valid : Bool

/-- An entry of `database_redirect_preference_list` or
`app_name_redirect_preference_list`: the node word and the weight. -/
structure RedirectToken where
  rightToken : String
  weightToken : ℚ

/-- What the choice reads of the configuration and of shared memory. The
entries that the database and the application name match are given, since
`regex_array_match` is not in the source; an unset list matches nothing. -/
structure LbContext where
  backends : List BackendInfo
  /-- `Req_info->primary_node_id` -/
  primaryNodeId : Int
  /-- `Req_info->master_node_id` -/
  masterNodeId : Int
  /-- `MASTER_NODE_ID`, from `pool_virtual_master_db_node_id` -/
  virtualMasterNodeId : Int
  slMode : Bool
  dbToken : Option RedirectToken
  applicationName : String
  appToken : Option RedirectToken

namespace LbContext

/-- The backend of a node id; past the configured ones a backend is unused. -/
def backend (ctx : LbContext) (i : Int) : BackendInfo := ctx.backends.getD i.toNat ⟨0, false, false⟩

/-- `VALID_BACKEND(i)` -/
def validBackend (ctx : LbContext) (i : Int) : Bool := (ctx.backend i).valid

/-- `VALID_BACKEND_RAW(i)` -/
def validBackendRaw (ctx : LbContext) (i : Int) : Bool := (ctx.backend i).validRaw

/-- `PRIMARY_NODE_ID`: the primary when there is a live one, the master otherwise. -/
def primaryNode (ctx : LbContext) : Int :=
  if ctx.primaryNodeId ≥ 0 ∧ ctx.validBackendRaw ctx.primaryNodeId = true then ctx.primaryNodeId
  else ctx.masterNodeId

end LbContext

/-! ## choose_db_node_id -/

/-- The white space `isspace` skips in the C locale. -/
def isCSpace (c : Char) : Bool :=
  c = ' ' || c = '\t' || c = '\n' || c = '\x0b' || c = '\x0c' || c = '\r'

/-- The value of the decimal digits at the head of a list of characters,
after the digits `acc` already read. -/
def digitsValue (acc : Nat) : List Char → Nat
  | c :: cs => if c.isDigit then digitsValue (acc * 10 + (c.toNat - '0'.toNat)) cs else acc
  | [] => acc

/-- `atoi` of the C library: white space, a sign, then the digits up to the
first other character. -/
def atoi (s : String) : Int :=
  match s.toList.dropWhile isCSpace with
  | '-' :: cs => -(digitsValue 0 cs : Int)
  | '+' :: cs => digitsValue 0 cs
  | cs => digitsValue 0 cs

/-- `choose_db_node_id`: the primary, `-1` for any standby, a node number
in range, or `MASTER_NODE_ID`. -/
def chooseDbNodeId (ctx : LbContext) (str : String) : Int :=
  if str = "primary" ∧ ctx.primaryNode ≥ 0 then ctx.primaryNode
  else if str = "standby" then -1
  else
    let tmp := atoi str
    if tmp ≥ 0 ∧ tmp < ctx.backends.length then tmp else ctx.virtualMasterNodeId

/-! ## Words that name no node -/

theorem toNat_of_isAlpha {c : Char} (h : c.isAlpha = true) : 65 ≤ c.toNat := by
  simp only [Char.isAlpha, Char.isUpper, Char.isLower, Bool.or_eq_true, Bool.and_eq_true, decide_eq_true_eq,
    UInt32.le_def, BitVec.le_def, UInt32.toBitVec_ofNat, BitVec.toNat_ofNat] at h
  simp only [Char.toNat, UInt32.toNat]
  omega

theorem toNat_of_isDigit {c : Char} (h : c.isDigit = true) : 48 ≤ c.toNat ∧ c.toNat ≤ 57 := by
  simp only [Char.isDigit, Bool.and_eq_true, decide_eq_true_eq,
    UInt32.le_def, BitVec.le_def, UInt32.toBitVec_ofNat, BitVec.toNat_ofNat] at h
  simp only [Char.toNat, UInt32.toNat]
  omega

/-- `atoi` of a string whose first character comes after `-` in the code
table: there is no white space or sign to skip, and the digits are read from
the start. -/
theorem atoi_of_head {str : String} {d : Char} {ds : List Char} (h : str.toList = d :: ds) (hd : 45 < d.toNat) :
    atoi str = digitsValue 0 (d :: ds) := by
  have hne : ∀ e : Char, e.toNat ≤ 45 → d ≠ e := fun e he h' => by rw [h'] at hd; omega
  have hsp : isCSpace d = false := by
    simp only [isCSpace, Bool.or_eq_false_iff, decide_eq_false_iff_not]
    exact ⟨⟨⟨⟨⟨hne _ (by decide), hne _ (by decide)⟩, hne _ (by decide)⟩, hne _ (by decide)⟩, hne _ (by decide)⟩,
      hne _ (by decide)⟩
  unfold atoi
  rw [h, List.dropWhile_cons_of_neg (by simp [hsp])]
  split
  · exact absurd (List.cons.inj ‹_›).1 (hne _ (by decide))
  · exact absurd (List.cons.inj ‹_›).1 (hne _ (by decide))
  · rfl

/-- `atoi` reads no number from a word that starts with a letter. -/
theorem atoi_of_isAlpha {str : String} {c : Char} (hc : str.toList.head? = some c) (h : c.isAlpha = true) :
    atoi str = 0 := by
  have hn := toNat_of_isAlpha h
  obtain ⟨cs, hcs⟩ := List.head?_eq_some_iff.1 hc
  have hdig : c.isDigit = false := Bool.eq_false_iff.2 fun hd => by have := toNat_of_isDigit hd; omega
  rw [atoi_of_head hcs (by omega)]
  simp [digitsValue, hdig]

/-- `choose_db_node_id` reads a word that starts with a letter, other than
`primary` (with a primary) and `standby`, as node 0, and not as
`MASTER_NODE_ID`: `Standby`, `stanby` or `replica` all send the session to
node 0. -/
theorem chooseDbNodeId_reads_word_as_node_zero {ctx : LbContext} {str : String} {c : Char}
    (hc : str.toList.head? = some c) (halpha : c.isAlpha = true) (hp : ¬ (str = "primary" ∧ ctx.primaryNode ≥ 0))
    (hsb : str ≠ "standby") (hn : 0 < ctx.backends.length) :
    chooseDbNodeId ctx str = 0 := by
  unfold chooseDbNodeId
  rw [if_neg hp, if_neg hsb, atoi_of_isAlpha hc halpha]
  simp [hn]

/-! ## The redirect lists -/

/-- What the redirect lists leave: the entries whose weight counts
(`index_db`, `index_app`) and `suggested_node_id` (`-2` for none, `-1` for
any standby). -/
structure Redirect where
  indexDb : Option RedirectToken
  indexApp : Option RedirectToken
  suggestedNodeId : Int

/-- `tmp == -1 || (tmp >= 0 && VALID_BACKEND(tmp))` -/
def LbContext.takesSuggestion (ctx : LbContext) (tmp : Int) : Bool :=
  tmp = -1 || (tmp ≥ 0 && ctx.validBackend tmp)

/-- The checks of `database_redirect_preference_list`, then of
`app_name_redirect_preference_list`; a match of the application name sets
`index_db` back to `-1`. -/
def redirectOf (ctx : LbContext) : Redirect :=
  let db : Redirect :=
    match ctx.slMode, ctx.dbToken with
    | true, some t =>
      let tmp := chooseDbNodeId ctx t.rightToken
      ⟨some t, none, if ctx.takesSuggestion tmp then tmp else -2⟩
    | _, _ => ⟨none, none, -2⟩
  match ctx.slMode && !ctx.applicationName.isEmpty, ctx.appToken with
  | true, some t =>
    let tmp := chooseDbNodeId ctx t.rightToken
    ⟨none, some t, if ctx.takesSuggestion tmp then tmp else db.suggestedNodeId⟩
  | _, _ => db

/-- `(index_db >= 0 && r <= weight) || (index_app >= 0 && r <= weight)` -/
def Redirect.withinWeight (red : Redirect) (r : ℚ) : Bool :=
  red.indexDb.any (fun t => decide (r ≤ t.weightToken)) || red.indexApp.any (fun t => decide (r ≤ t.weightToken))

/-- `(index_db >= 0 && r > weight) || (index_app >= 0 && r > weight)` -/
def Redirect.beyondWeight (red : Redirect) (r : ℚ) : Bool :=
  red.indexDb.any (fun t => decide (r > t.weightToken)) || red.indexApp.any (fun t => decide (r > t.weightToken))

/-! ## The weighted draw -/

/-- What the two loops of the draw leave out: `no_load_balance_node_id`,
and `PRIMARY_NODE_ID` when a standby was asked for. -/
structure DrawExclusion where
  noLoadBalanceNodeId : Int
  standby : Bool
  primary : Int

/-- The first loop: the total weight of the live backends the draw may take. -/
def totalWeight (x : DrawExclusion) : Nat → List BackendInfo → ℚ
  | _, [] => 0
  | i, b :: bs =>
    (if b.validRaw then
      if (i : Int) = x.noLoadBalanceNodeId then 0
      else if x.standby then (if (i : Int) ≠ x.primary then b.backendWeight else 0)
      else b.backendWeight
    else 0) + totalWeight x (i + 1) bs

/-- The second loop, from backend `i` with the weight `total` laid so far
and the slot `selected` so far: a backend of positive weight is taken while
`r` is at or past the weight before it, and the loop breaks at the first
one it is not. -/
def chooseSlot (r : ℚ) (x : DrawExclusion) : Nat → List BackendInfo → ℚ → Int → Int
  | _, [], _, selected => selected
  | i, b :: bs, total, selected =>
    if (x.standby ∧ (i : Int) = x.primary) ∨ (i : Int) = x.noLoadBalanceNodeId then
      chooseSlot r x (i + 1) bs total selected
    else if b.validRaw ∧ b.backendWeight > 0 then
      if r ≥ total then chooseSlot r x (i + 1) bs (total + b.backendWeight) i
      else selected
    else chooseSlot r x (i + 1) bs total selected

/-- `select_load_balancing_node`, given the two random rates `random() /
RAND_MAX` it draws. -/
def selectLoadBalancingNode (ctx : LbContext) (r u : ℚ) : Int :=
  let red := redirectOf ctx
  if red.suggestedNodeId ≥ 0 ∧ red.withinWeight r then red.suggestedNodeId
  else
    let x : DrawExclusion :=
      ⟨if red.suggestedNodeId ≥ 0 then red.suggestedNodeId else -2, red.suggestedNodeId = -1, ctx.primaryNode⟩
    if red.suggestedNodeId = -1 ∧ red.beyondWeight r then ctx.primaryNode
    else chooseSlot (u * totalWeight x 0 ctx.backends) x 0 ctx.backends 0 ctx.virtualMasterNodeId

/-! ## The roulette wheel -/

/-- Whether the draw may land on backend `i`. -/
def DrawExclusion.takes (x : DrawExclusion) (i : Nat) (b : BackendInfo) : Prop :=
  ¬ ((x.standby ∧ (i : Int) = x.primary) ∨ (i : Int) = x.noLoadBalanceNodeId) ∧ b.validRaw ∧ b.backendWeight > 0

instance DrawExclusion.decidableTakes (x : DrawExclusion) (i : Nat) (b : BackendInfo) :
    Decidable (x.takes i b) := inferInstanceAs (Decidable (¬ _ ∧ _))

/-- The backends the draw may land on, from backend `i` on, with their weights. -/
def candidates (x : DrawExclusion) : Nat → List BackendInfo → List (Nat × ℚ)
  | _, [] => []
  | i, b :: bs => if x.takes i b then (i, b.backendWeight) :: candidates x (i + 1) bs else candidates x (i + 1) bs

/-- The weights of a list of candidates. -/
def weightSum (cs : List (Nat × ℚ)) : ℚ := (cs.map Prod.snd).sum

/-- The roulette wheel: lay the weights end to end from zero and take the
candidate whose stretch holds `r`. -/
def wheelPick : List (Nat × ℚ) → ℚ → Option Nat
  | [], _ => none
  | (i, w) :: cs, r => if r < w then some i else wheelPick cs (r - w)

/-- The last candidate, or `selected` when there is none. -/
def lastOr (selected : Int) : List (Nat × ℚ) → Int
  | [] => selected
  | (i, _) :: cs => lastOr i cs

@[simp] theorem weightSum_nil : weightSum [] = 0 := rfl

@[simp] theorem weightSum_cons (i : Nat) (w : ℚ) (cs : List (Nat × ℚ)) :
    weightSum ((i, w) :: cs) = w + weightSum cs := rfl

/-! ## The loops against the wheel -/

section
variable {r t : ℚ} {x : DrawExclusion} {i : Nat} {bs : List BackendInfo} {sel : Int}

/-- Once `r` is short of the weight laid, the loop keeps the slot it has. -/
theorem chooseSlot_of_lt (h : r < t) : chooseSlot r x i bs t sel = sel := by
  induction bs generalizing i with
  | nil => rfl
  | cons b bs ih =>
    unfold chooseSlot
    split_ifs with _ _ hr
    · exact ih
    · exact absurd hr (not_le.2 h)
    · rfl
    · exact ih

/-- From a weight laid at or below `r`, the loop ends on the candidate whose
stretch holds `r`, or on the last candidate when `r` is past them all. -/
theorem chooseSlot_eq (h : t ≤ r) :
    chooseSlot r x i bs t sel =
      ((wheelPick (candidates x i bs) (r - t)).map Int.ofNat).getD (lastOr sel (candidates x i bs)) := by
  induction bs generalizing i t sel with
  | nil => rfl
  | cons b bs ih =>
    unfold chooseSlot candidates
    by_cases hs : (x.standby ∧ (i : Int) = x.primary) ∨ (i : Int) = x.noLoadBalanceNodeId
    · rw [if_pos hs, if_neg fun h' => h'.1 hs, ih h]
    · by_cases hb : b.validRaw ∧ b.backendWeight > 0
      · rw [if_neg hs, if_pos hb, if_pos h, if_pos ⟨hs, hb⟩]
        simp only [wheelPick, lastOr]
        by_cases hw : r - t < b.backendWeight
        · rw [if_pos hw, chooseSlot_of_lt (by linarith)]
          rfl
        · rw [if_neg hw, ih (by linarith), sub_sub]
      · rw [if_neg hs, if_neg hb, if_neg fun h' => hb h'.2, ih h]

/-- Without a negative weight, the first loop adds up the weights of the
candidates. -/
theorem totalWeight_eq (hw : ∀ b ∈ bs, 0 ≤ b.backendWeight) : totalWeight x i bs = weightSum (candidates x i bs) := by
  induction bs generalizing i with
  | nil => rfl
  | cons b bs ih =>
    have hb := hw b (List.mem_cons_self _ _)
    rw [totalWeight, candidates, ih fun b' h' => hw b' (List.mem_cons_of_mem _ h')]
    unfold DrawExclusion.takes
    by_cases hv : b.validRaw
    · by_cases hn : (i : Int) = x.noLoadBalanceNodeId
      · simp [hv, hn]
      · rcases hb.lt_or_eq with hpos | hzero
        · by_cases hst : x.standby
          · by_cases hp : (i : Int) = x.primary <;> simp [hv, hn, hst, hp, hpos]
          · simp [hv, hn, hst, hpos]
        · simp [← hzero]
    · simp [hv]

end

/-! ## The wheel -/

section
variable {cs : List (Nat × ℚ)} {r : ℚ} {j : Nat} {sel : Int}

theorem weightSum_nonneg (hpos : ∀ c ∈ cs, 0 < c.2) : 0 ≤ weightSum cs :=
  List.sum_nonneg fun a ha => by
    obtain ⟨c, hc, rfl⟩ := List.mem_map.1 ha
    exact (hpos c hc).le

/-- A rate on the wheel lands on some candidate. -/
theorem wheelPick_isSome (h0 : 0 ≤ r) (h : r < weightSum cs) : (wheelPick cs r).isSome := by
  induction cs generalizing r with
  | nil => exact absurd h (not_lt.2 h0)
  | cons c cs ih =>
    obtain ⟨i, w⟩ := c
    simp only [wheelPick, weightSum_cons] at h ⊢
    split_ifs with hw
    · rfl
    · exact ih (by linarith) (by linarith)

/-- A rate of the wheel's whole length lands past every candidate. -/
theorem wheelPick_weightSum (hpos : ∀ c ∈ cs, 0 < c.2) : wheelPick cs (weightSum cs) = none := by
  induction cs with
  | nil => rfl
  | cons c cs ih =>
    obtain ⟨i, w⟩ := c
    have hs : 0 ≤ weightSum cs := weightSum_nonneg fun d hd => hpos d (List.mem_cons_of_mem _ hd)
    simp only [wheelPick, weightSum_cons, if_neg (not_lt.2 (le_add_of_nonneg_right hs)), add_sub_cancel_left]
    exact ih fun d hd => hpos d (List.mem_cons_of_mem _ hd)

theorem wheelPick_mem (h : wheelPick cs r = some j) : ∃ w, (j, w) ∈ cs := by
  induction cs generalizing r with
  | nil => cases h
  | cons c cs ih =>
    simp only [wheelPick] at h
    split_ifs at h
    · cases h
      exact ⟨c.2, List.mem_cons_self _ _⟩
    · obtain ⟨w, hw⟩ := ih h
      exact ⟨w, List.mem_cons_of_mem _ hw⟩

/-- The wheel lands on `j` exactly when `r` falls in a stretch of `j`: past
the weights before it and short of them plus its own. -/
theorem wheelPick_eq_some_iff (hpos : ∀ c ∈ cs, 0 < c.2) (h0 : 0 ≤ r) :
    wheelPick cs r = some j ↔
      ∃ pre w post, cs = pre ++ (j, w) :: post ∧ weightSum pre ≤ r ∧ r < weightSum pre + w := by
  induction cs generalizing r with
  | nil => simp [wheelPick]
  | cons c cs ih =>
    obtain ⟨i, v⟩ := c
    have hc : 0 < v := hpos _ (List.mem_cons_self _ _)
    have hpos' : ∀ d ∈ cs, 0 < d.2 := fun d hd => hpos d (List.mem_cons_of_mem _ hd)
    simp only [wheelPick]
    constructor
    · split_ifs with hw
      · rintro ⟨⟩
        exact ⟨[], v, cs, rfl, by simpa using h0, by simpa using hw⟩
      · intro h
        obtain ⟨pre, w, post, rfl, h1, h2⟩ := (ih hpos' (by linarith)).1 h
        exact ⟨(i, v) :: pre, w, post, rfl, by simp; linarith, by simp; linarith⟩
    · rintro ⟨_ | ⟨d, pre⟩, w, post, hcs, h1, h2⟩
      · obtain ⟨⟨⟩, rfl⟩ := List.cons.inj hcs
        simp only [weightSum_nil, zero_add] at h2
        rw [if_pos h2]
      · obtain ⟨rfl, rfl⟩ := List.cons.inj hcs
        have hpre := weightSum_nonneg fun e he => hpos' e (List.mem_append_left _ he)
        simp only [weightSum_cons] at h1 h2
        rw [if_neg (by linarith)]
        exact (ih hpos' (by linarith)).2 ⟨pre, w, post, rfl, by linarith, by linarith⟩

/-- Past all the candidates, the loop ends on the last one. -/
theorem lastOr_mem (h : cs ≠ []) : ∃ k w, (k, w) ∈ cs ∧ lastOr sel cs = k := by
  induction cs generalizing sel with
  | nil => exact absurd rfl h
  | cons c cs ih =>
    rcases cs with _ | ⟨d, cs⟩
    · exact ⟨c.1, c.2, List.mem_cons_self _ _, rfl⟩
    · obtain ⟨k, w, hm, he⟩ := @ih c.1 (List.cons_ne_nil _ _)
      exact ⟨k, w, List.mem_cons_of_mem _ hm, he⟩

end

section
variable {x : DrawExclusion} {i : Nat} {bs : List BackendInfo}

theorem mem_candidates {c : Nat × ℚ} (h : c ∈ candidates x i bs) :
    ∃ b, x.takes c.1 b ∧ c.2 = b.backendWeight := by
  induction bs generalizing i with
  | nil => cases h
  | cons b bs ih =>
    unfold candidates at h
    split_ifs at h with ht
    · rcases List.mem_cons.1 h with rfl | h
      · exact ⟨b, ht, rfl⟩
      · exact ih h
    · exact ih h

theorem candidates_pos : ∀ c ∈ candidates x i bs, 0 < c.2 := fun _ h => by
  obtain ⟨b, ht, he⟩ := mem_candidates h
  exact he ▸ ht.2.2

theorem candidates_not_excluded {c : Nat × ℚ} (h : c ∈ candidates x i bs) :
    ¬ ((x.standby ∧ (c.1 : Int) = x.primary) ∨ (c.1 : Int) = x.noLoadBalanceNodeId) :=
  (mem_candidates h).elim fun _ hb => hb.1.1

theorem weightSum_pos {cs : List (Nat × ℚ)} (hpos : ∀ c ∈ cs, 0 < c.2) (h : cs ≠ []) : 0 < weightSum cs := by
  obtain ⟨⟨i, w⟩, cs, rfl⟩ := List.exists_cons_of_ne_nil h
  have := weightSum_nonneg fun d hd => hpos d (List.mem_cons_of_mem _ hd)
  have := hpos _ (List.mem_cons_self _ _)
  simp only [weightSum_cons] at this ⊢
  linarith

/-! ## The weighted draw is a roulette wheel -/

/-- For a draw `u` in `[0, 1)` and no negative weight, the weighted draw
ends on `selected` when no backend may be drawn, and otherwise on node `j`
exactly when `u` times the total weight falls in the stretch of `j`. -/
theorem weighted_draw_is_roulette_wheel {u : ℚ} {sel : Int} (hw : ∀ b ∈ bs, 0 ≤ b.backendWeight) (hu : 0 ≤ u)
    (hu1 : u < 1) (j : Nat) :
    (candidates x 0 bs = [] → chooseSlot (u * totalWeight x 0 bs) x 0 bs 0 sel = sel) ∧
    (candidates x 0 bs ≠ [] → (chooseSlot (u * totalWeight x 0 bs) x 0 bs 0 sel = j ↔
      ∃ pre w post, candidates x 0 bs = pre ++ (j, w) :: post ∧
        weightSum pre ≤ u * totalWeight x 0 bs ∧ u * totalWeight x 0 bs < weightSum pre + w)) := by
  have hpos : ∀ c ∈ candidates x 0 bs, 0 < c.2 := candidates_pos
  rw [totalWeight_eq hw]
  have h0 : 0 ≤ u * weightSum (candidates x 0 bs) := mul_nonneg hu (weightSum_nonneg hpos)
  rw [chooseSlot_eq h0, sub_zero]
  refine ⟨fun hcs => by rw [hcs]; rfl, fun hcs => ?_⟩
  have hlt : u * weightSum (candidates x 0 bs) < weightSum (candidates x 0 bs) :=
    mul_lt_of_lt_one_left (weightSum_pos hpos hcs) hu1
  obtain ⟨k, hk⟩ := Option.isSome_iff_exists.1 (wheelPick_isSome h0 hlt)
  rw [← wheelPick_eq_some_iff hpos h0, hk]
  simp

/-- Four backends: node 0 the primary, nodes 1 and 2 standbys of weights 1
and 3, and node 3 down. -/
def sampleBackends : List BackendInfo :=
  [⟨0, true, true⟩, ⟨1, true, true⟩, ⟨3, true, true⟩, ⟨2, false, false⟩]

theorem sampleBackends_nonneg : ∀ b ∈ sampleBackends, 0 ≤ b.backendWeight := by
  simp [sampleBackends]

/-- With the primary left out, the wheel holds node 1 on `[0, 1)` and node 2
on `[1, 4)`: the draw `1/2` lands on node 2. -/
theorem weighted_draw_sample :
    chooseSlot (1 / 2 * totalWeight ⟨-2, true, 0⟩ 0 sampleBackends) ⟨-2, true, 0⟩ 0 sampleBackends 0 0 = 2 := by
  have hc : candidates ⟨-2, true, 0⟩ 0 sampleBackends = [(1, 1), (2, 3)] := by
    simp [candidates, sampleBackends, DrawExclusion.takes]
  have ht : totalWeight ⟨-2, true, 0⟩ 0 sampleBackends = 4 := by
    norm_num [totalWeight, sampleBackends]
  exact ((weighted_draw_is_roulette_wheel sampleBackends_nonneg (by norm_num) (by norm_num) 2).2
    (by simp [hc])).2 ⟨[(1, 1)], 3, [], hc, by rw [ht, weightSum_cons, weightSum_nil]; norm_num,
      by rw [ht, weightSum_cons, weightSum_nil]; norm_num⟩

/-- `random()` may return `RAND_MAX`: the draw `u = 1` falls past the end of
the wheel, and the loop ends on the last node that may be drawn. -/
theorem chooseSlot_draw_one {sel : Int} (hw : ∀ b ∈ bs, 0 ≤ b.backendWeight) :
    chooseSlot (1 * totalWeight x 0 bs) x 0 bs 0 sel = lastOr sel (candidates x 0 bs) := by
  rw [totalWeight_eq hw, one_mul, chooseSlot_eq (weightSum_nonneg candidates_pos), sub_zero,
    wheelPick_weightSum candidates_pos]
  rfl

/-- The draw lands on a node it leaves out only as `selected`, when it can
land nowhere else. -/
theorem chooseSlot_eq_excluded_iff {r : ℚ} {sel j : Int} (hr : 0 ≤ r)
    (hj : (x.standby ∧ j = x.primary) ∨ j = x.noLoadBalanceNodeId) :
    chooseSlot r x 0 bs 0 sel = j ↔ candidates x 0 bs = [] ∧ sel = j := by
  rw [chooseSlot_eq hr, sub_zero]
  rcases hcs : candidates x 0 bs with _ | ⟨c, cs⟩
  · simp [wheelPick, lastOr]
  · have hk : ∃ k w, (k, w) ∈ c :: cs ∧
        ((wheelPick (c :: cs) r).map Int.ofNat).getD (lastOr sel (c :: cs)) = k := by
      cases hp : wheelPick (c :: cs) r with
      | none =>
        obtain ⟨k, w, hm, he⟩ : ∃ k w, (k, w) ∈ c :: cs ∧ lastOr sel (c :: cs) = k :=
          lastOr_mem (List.cons_ne_nil c cs)
        exact ⟨k, w, hm, by simp [he]⟩
      | some k =>
        obtain ⟨w, hm⟩ := wheelPick_mem hp
        exact ⟨k, w, hm, rfl⟩
    obtain ⟨k, w, hm, he⟩ := hk
    rw [he]
    simp only [reduceCtorEq, false_and, iff_false]
    rintro rfl
    exact candidates_not_excluded (hcs ▸ hm : (k, w) ∈ candidates x 0 bs) hj

end

/-! ## The whole choice -/

/-- The sample backends, node 0 primary and master: the database list sends
the session's database to node 1 with weight 0, and the application list
sends its application name to the down node 3 with weight 1. -/
def sampleLbContext : LbContext :=
  ⟨sampleBackends, 0, 0, 0, true, some ⟨"1", 0⟩, "psql", some ⟨"3", 1⟩⟩

section
variable {ctx : LbContext} {r u : ℚ}

theorem totalWeight_nonneg {x : DrawExclusion} {bs : List BackendInfo} (hw : ∀ b ∈ bs, 0 ≤ b.backendWeight) :
    0 ≤ totalWeight x 0 bs := by
  rw [totalWeight_eq hw]
  exact weightSum_nonneg candidates_pos

/-- With no negative weight and a draw `u ≥ 0`, a suggested node is chosen
exactly when the rate is within the weight of the entry that counts, or, the
suggestion left out of the draw, when it is `MASTER_NODE_ID` and no other
node may be drawn. -/
theorem suggested_node_chosen_iff_within_weight (hw : ∀ b ∈ ctx.backends, 0 ≤ b.backendWeight) (hu : 0 ≤ u)
    (hs : 0 ≤ (redirectOf ctx).suggestedNodeId) :
    selectLoadBalancingNode ctx r u = (redirectOf ctx).suggestedNodeId ↔
      (redirectOf ctx).withinWeight r = true ∨
        (candidates ⟨(redirectOf ctx).suggestedNodeId, false, ctx.primaryNode⟩ 0 ctx.backends = [] ∧
          ctx.virtualMasterNodeId = (redirectOf ctx).suggestedNodeId) := by
  unfold selectLoadBalancingNode
  generalize redirectOf ctx = red at hs ⊢
  have hx : decide (red.suggestedNodeId = -1) = false := decide_eq_false (by omega)
  by_cases hwin : red.withinWeight r = true
  · simp [hs, hwin]
  · simp only [hs, hwin, hx, and_false, if_false, if_true, false_or, ge_iff_le, Bool.false_eq_true,
      show ¬ red.suggestedNodeId = -1 by omega]
    exact chooseSlot_eq_excluded_iff (mul_nonneg hu (totalWeight_nonneg hw)) (.inr rfl)

/-- Node 1 suggested with weight `1/2`: the rate `1/4` is within it. -/
theorem suggested_node_chosen_sample :
    selectLoadBalancingNode { sampleLbContext with dbToken := some ⟨"1", 1 / 2⟩, appToken := none } (1 / 4) (1 / 2) = 1 := by
  have hred : redirectOf { sampleLbContext with dbToken := some ⟨"1", 1 / 2⟩, appToken := none } =
      ⟨some ⟨"1", 1 / 2⟩, none, 1⟩ := rfl
  have h := (@suggested_node_chosen_iff_within_weight _ (1 / 4) (1 / 2) sampleBackends_nonneg
    (by norm_num) (by rw [hred]; decide)).2 (.inl (by rw [hred]; simp [Redirect.withinWeight]; norm_num))
  rwa [hred] at h

/-- A suggested standby sends the session to the primary when the rate is
beyond the weight of the entry that counts; otherwise the draw leaves the
primary out, and it is chosen only as `MASTER_NODE_ID` when no other node
may be drawn. -/
theorem standby_suggestion_primary_iff_beyond_weight (hw : ∀ b ∈ ctx.backends, 0 ≤ b.backendWeight) (hu : 0 ≤ u)
    (hs : (redirectOf ctx).suggestedNodeId = -1) :
    selectLoadBalancingNode ctx r u = ctx.primaryNode ↔
      (redirectOf ctx).beyondWeight r = true ∨
        (candidates ⟨-2, true, ctx.primaryNode⟩ 0 ctx.backends = [] ∧ ctx.virtualMasterNodeId = ctx.primaryNode) := by
  unfold selectLoadBalancingNode
  generalize redirectOf ctx = red at hs ⊢
  by_cases hb : red.beyondWeight r = true
  · simp [hs, hb]
  · simp only [hs, hb, and_false, if_false, false_or, decide_True, and_true, Bool.false_eq_true,
      show ¬ (0 : Int) ≤ -1 by omega, ge_iff_le]
    exact chooseSlot_eq_excluded_iff (mul_nonneg hu (totalWeight_nonneg hw)) (.inl ⟨rfl, rfl⟩)

/-- Any standby suggested with weight `1/2`: the rate `3/4` is beyond it,
and the session goes to the primary, node 0. -/
theorem standby_suggestion_sample :
    selectLoadBalancingNode { sampleLbContext with dbToken := some ⟨"standby", 1 / 2⟩, appToken := none }
      (3 / 4) (1 / 2) = 0 := by
  have hred : redirectOf { sampleLbContext with dbToken := some ⟨"standby", 1 / 2⟩, appToken := none } =
      ⟨some ⟨"standby", 1 / 2⟩, none, -1⟩ := rfl
  exact (@standby_suggestion_primary_iff_beyond_weight _ (3 / 4) (1 / 2) sampleBackends_nonneg (by norm_num)
    (by rw [hred])).2 (.inl (by rw [hred]; simp [Redirect.beyondWeight]; norm_num))


/-- When the application name matches an entry whose node cannot be used,
the node of the database's entry stays suggested, and the application
entry's weight decides: the session goes to the database's node whenever
the rate is within that weight, whatever the database entry's own weight. -/
theorem app_entry_keeps_database_node {d a : RedirectToken} (hsl : ctx.slMode = true) (hd : ctx.dbToken = some d)
    (hname : ctx.applicationName.isEmpty = false) (ha : ctx.appToken = some a)
    (hna : ctx.takesSuggestion (chooseDbNodeId ctx a.rightToken) = false)
    (hs : 0 ≤ chooseDbNodeId ctx d.rightToken) (hv : ctx.validBackend (chooseDbNodeId ctx d.rightToken) = true) :
    redirectOf ctx = ⟨none, some a, chooseDbNodeId ctx d.rightToken⟩ ∧
      (r ≤ a.weightToken → selectLoadBalancingNode ctx r u = chooseDbNodeId ctx d.rightToken) := by
  have hdb : ctx.takesSuggestion (chooseDbNodeId ctx d.rightToken) = true := by
    simp [LbContext.takesSuggestion, hs, hv]
  have hred : redirectOf ctx = ⟨none, some a, chooseDbNodeId ctx d.rightToken⟩ := by
    simp [redirectOf, hsl, hd, hname, ha, hna, hdb]
  refine ⟨hred, fun hr => ?_⟩
  unfold selectLoadBalancingNode
  simp [hred, hs, Redirect.withinWeight, hr]

end

end pgpool.protocol
