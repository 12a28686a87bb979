-- The children of pgpool and the connection counter they share. Each child
-- runs the accept loop of do_child: it waits for a client, counts it up in
-- Req_info->conn_counter, refuses it when the count read back passes
-- num_init_children - reserved_connections, and otherwise serves it and
-- counts it down. A signal, a FATAL error or child_exit ends a child between
-- any two statements, and child_will_go_down then counts down once more when
-- the accepted flag is set. The children run in any interleaving; two ghost
-- counts follow the counter: the counts leaked (taken and never returned)
-- and the counts returned twice. The laws:
--   * the counter is never above the counts the children owe plus those
--     leaked, and never below that less the counts returned twice;
--   * the children serving a client are at most the admission limit plus
--     the counts returned twice; the error path of do_child returns a count
--     twice when the child exits before the next turn resets accepted, and
--     one more client then gets in;
--   * a cancel request leaks its count, and once the leaked counts reach
--     the admission limit, with none returned twice, every client is
--     refused; with no count leaked, a client is refused only when more
--     children than the limit hold a count.
import Mathlib.Data.List.Basic

namespace pgpool.protocol

/-! ## One child -/

/-- Where a child of `do_child` stands between two statements that another
child, a signal or the parent can come between. -/
inductive ChildPc
  /-- The head of the accept loop, before `check_stop_request`. -/
  | loopTop
  /-- In `wait_for_new_connections`, with `accepted` reset. -/
  | waiting
  /-- `connection_count_up` has counted the client; its read of the counter is next. -/
  | counted
  /-- The count read passed the limit: `pool_open`, then `connection_count_down`. -/
  | rejecting
  /-- `accepted` is set: the startup packet, authentication and the queries. -/
  | serving
  /-- The session is over and `accepted` reset; `connection_count_down` is next. -/
  | ending
  /-- `child_exit` was called; `child_will_go_down` runs next. -/
  | exiting
  /-- The process has exited; the parent forks the next child into its slot. -/
  | gone
  deriving DecidableEq, Repr

/-- A child process: its place in the loop, the statics of `child.c` the
loop reads, and a ghost flag for the count it has taken and not returned. -/
structure Child where
  pc : ChildPc
  accepted : Bool
  connected : Bool
  connectionsCount : Nat
  owes : Bool
  deriving DecidableEq, Repr

/-- A child as `fork` starts it: at the head of the loop, nothing accepted. -/
def Child.fresh : Child := ⟨.loopTop, false, false, 0, false⟩

/-- The settings of `pool_config` the loop reads. -/
structure ChildConfig where
  numInitChildren : Nat
  reservedConnections : Nat
  childMaxConnections : Nat
  childLifeTime : Nat

/-- The count above which `do_child` refuses a client. -/
def ChildConfig.limit (cfg : ChildConfig) : Int :=
  (cfg.numInitChildren : Int) - cfg.reservedConnections

/-- What `wait_for_new_connections` gives back: `OPERATION_TIMEOUT`, `RETRY`,
an `ereport(ERROR)`, or an accepted descriptor. -/
inductive WaitResult
  | timeout
  | retry
  | failed
  | client
  deriving DecidableEq, Repr

/-- How a session ends: `pool_process_query` stops, an `ereport(ERROR)` is
raised (after a backend connection was made or not), or
`get_backend_connection` returns `NULL` for a cancel request. -/
inductive SessionEnd
  | done
  | failed (backendConnected : Bool)
  | noBackend
  deriving DecidableEq, Repr

/-- What a child does next, as its environment decides: the two checks at
the head of the loop, the outcome of the wait, the read of the counter, the
outcome of `pool_open` on a refused client, the end of a session, the count
down after it, an exit, or the fork of a new child into an exited slot. -/
inductive ChildInput
  | loopCheck (exitRequest needToRestart : Bool)
  | waitResult (r : WaitResult)
  | readCount
  | poolOpen (ok : Bool)
  | sessionEnd (e : SessionEnd)
  | countDown
  | exit
  | fork
  deriving DecidableEq, Repr

/-! ## The pool of children -/

/-- The children and `Req_info->conn_counter`, with the two ghost counts. -/
structure Pool where
  connCounter : Nat
  children : List Child
  leaked : Nat
  returnedTwice : Nat
  deriving DecidableEq, Repr

/-- All children fresh and the counter at zero, as the parent starts them. -/
def Pool.init (cfg : ChildConfig) : Pool :=
  ⟨0, List.replicate cfg.numInitChildren Child.fresh, 0, 0⟩

def Pool.child (k : Nat) (p : Pool) : Child := p.children.getD k Child.fresh

def Pool.setChild (k : Nat) (ch : Child) (p : Pool) : Pool := { p with children := p.children.set k ch }

/-- The counts the children owe. -/
def Pool.owing (p : Pool) : Nat := p.children.countP (·.owes)

/-- The children serving a client they admitted. -/
def Pool.serving (p : Pool) : Nat := p.children.countP (·.pc = .serving)

/-- `connection_count_up` by child `k`: the counter counts its client, which
the child now owes. -/
def Pool.countUp (k : Nat) (p : Pool) : Pool :=
  { p.setChild k { p.child k with owes := true } with connCounter := p.connCounter + 1 }

/-- `connection_count_down` by child `k`, which decrements the counter only
when it is positive, as subtraction on `Nat` does: the child returns the count
it owes, or returns one twice. -/
def Pool.countDown (k : Nat) (p : Pool) : Pool :=
  if (p.child k).owes then { p.setChild k { p.child k with owes := false } with connCounter := p.connCounter - 1 }
  else { p with connCounter := p.connCounter - 1, returnedTwice := p.returnedTwice + 1 }

/-- Ghost: child `k` can no longer return the count it owes. -/
def Pool.dropCount (k : Nat) (p : Pool) : Pool :=
  if (p.child k).owes then { p.setChild k { p.child k with owes := false } with leaked := p.leaked + 1 }
  else p

/-- Child `k` moves to `pc`. -/
def Pool.goto (k : Nat) (pc : ChildPc) (p : Pool) : Pool := p.setChild k { p.child k with pc := pc }

section
variable (cfg : ChildConfig) (k : Nat)

/-- The error handler of `do_child`, where an `ereport(ERROR)` lands: count
down when `accepted` is set, count the connection, and exit at
`child_max_connections`. `accepted` keeps its value until the next turn. -/
def errorHandler (p : Pool) : Pool :=
  let p := if (p.child k).accepted then p.countDown k else p
  let ch := p.child k
  let n := if cfg.childMaxConnections > 0 then ch.connectionsCount + 1 else ch.connectionsCount
  p.setChild k { ch with
    connectionsCount := n,
    pc := if cfg.childMaxConnections > 0 ∧ n ≥ cfg.childMaxConnections then .exiting else .loopTop }

/-- `child_will_go_down`, run by `exit`: count down when `accepted` is set. -/
def childWillGoDown (p : Pool) : Pool :=
  (if (p.child k).accepted then p.countDown k else p.dropCount k).goto k .gone

/-- One step of child `k`. An input its place in the loop does not take
leaves the pool as it is. -/
def childStep (inp : ChildInput) (p : Pool) : Pool :=
  let ch := p.child k
  match ch.pc, inp with
  | .loopTop, .loopCheck exitRequest needToRestart =>
    -- `check_stop_request` exits on any request, `idle` being set here;
    -- then `check_restart_request`, then `accepted = 0`
    if exitRequest ∨ needToRestart then p.goto k .exiting
    else (p.dropCount k).setChild k { (p.dropCount k).child k with accepted := false, pc := .waiting }
  | .waiting, .waitResult .timeout =>
    p.goto k (if cfg.childLifeTime > 0 ∧ ch.connected then .exiting else .loopTop)
  | .waiting, .waitResult .retry => p.goto k .loopTop
  | .waiting, .waitResult .failed => errorHandler cfg k p
  | .waiting, .waitResult .client => (p.countUp k).goto k .counted
  | .counted, .readCount =>
    if (p.connCounter : Int) > cfg.limit then p.goto k .rejecting
    else p.setChild k { ch with accepted := true, pc := .serving }
  | .rejecting, .poolOpen ok =>
    -- a refused client that opens gets the fatal message, then `ereport(ERROR)`
    if ok then errorHandler cfg k (p.countDown k) else (p.countDown k).goto k .loopTop
  | .serving, .sessionEnd .done => p.setChild k { ch with accepted := false, connected := true, pc := .ending }
  | .serving, .sessionEnd (.failed b) => errorHandler cfg k (p.setChild k { ch with connected := ch.connected || b })
  | .serving, .sessionEnd .noBackend => p.goto k .loopTop
  | .ending, .countDown =>
    let p := p.countDown k
    let ch := p.child k
    let n := if cfg.childMaxConnections > 0 then ch.connectionsCount + 1 else ch.connectionsCount
    p.setChild k { ch with
      connectionsCount := n,
      pc := if cfg.childMaxConnections > 0 ∧ n ≥ cfg.childMaxConnections then .exiting else .loopTop }
  | .gone, .fork => p.setChild k Child.fresh
  | .gone, _ => p
  | _, .exit => childWillGoDown k p
  | _, _ => p

end

/-- The pools the children reach from the start, one step of one child at a
time in any order. -/
inductive PoolReach (cfg : ChildConfig) : Pool → Prop
  | init : PoolReach cfg (Pool.init cfg)
  | step {p : Pool} (k : Nat) (inp : ChildInput) (hk : k < p.children.length) :
      PoolReach cfg p → PoolReach cfg (childStep cfg k inp p)

/-! ## What each operation does to the counts -/

namespace Pool
variable {p : Pool} {k : Nat}

theorem child_eq_getElem (hk : k < p.children.length) : p.child k = p.children[k] := by
  simp [child, hk]

@[simp] theorem length_setChild (ch : Child) : (p.setChild k ch).children.length = p.children.length :=
  List.length_set _ _ _

theorem child_setChild_self (hk : k < p.children.length) (ch : Child) : (p.setChild k ch).child k = ch := by
  simp [child, setChild, hk]

theorem child_setChild_ne {j : Nat} (hj : j ≠ k) (ch : Child) : (p.setChild k ch).child j = p.child j := by
  simp [child, setChild, List.getElem?_set_ne (Ne.symm hj)]

/-- Setting child `k` trades its old record for the new one in every count. -/
theorem countP_setChild (hk : k < p.children.length) (P : Child → Bool) (ch : Child) :
    (p.setChild k ch).children.countP P + (if P (p.child k) then 1 else 0) =
      p.children.countP P + (if P ch then 1 else 0) := by
  show (p.children.set k ch).countP P + _ = _
  rw [List.countP_set _ _ _ _ hk, child_eq_getElem hk]
  have := List.boole_getElem_le_countP P p.children k hk
  omega

theorem owing_setChild (hk : k < p.children.length) (ch : Child) :
    (p.setChild k ch).owing + (if (p.child k).owes then 1 else 0) = p.owing + (if ch.owes then 1 else 0) :=
  countP_setChild hk _ ch

theorem serving_setChild (hk : k < p.children.length) (ch : Child) :
    (p.setChild k ch).serving + (if (p.child k).pc = .serving then 1 else 0) =
      p.serving + (if ch.pc = .serving then 1 else 0) := by
  simpa using countP_setChild hk (fun ch => decide (ch.pc = .serving)) ch

/-! Each operation on child `k` leaves the other children as they are. -/

theorem child_countUp_ne {j : Nat} (hj : j ≠ k) : (p.countUp k).child j = p.child j :=
  child_setChild_ne hj _

theorem child_countDown_ne {j : Nat} (hj : j ≠ k) : (p.countDown k).child j = p.child j := by
  unfold countDown; split
  · exact child_setChild_ne hj _
  · rfl

theorem child_dropCount_ne {j : Nat} (hj : j ≠ k) : (p.dropCount k).child j = p.child j := by
  unfold dropCount; split
  · exact child_setChild_ne hj _
  · rfl

@[simp] theorem length_countUp : (p.countUp k).children.length = p.children.length := length_setChild _

@[simp] theorem length_countDown : (p.countDown k).children.length = p.children.length := by
  unfold countDown; split <;> simp

@[simp] theorem length_dropCount : (p.dropCount k).children.length = p.children.length := by
  unfold dropCount; split <;> simp

@[simp] theorem length_goto (pc : ChildPc) : (p.goto k pc).children.length = p.children.length :=
  length_setChild _

/-! What the operations make of child `k`: the counter operations touch only
its ghost flag. -/

theorem child_countUp (hk : k < p.children.length) : (p.countUp k).child k = { p.child k with owes := true } :=
  child_setChild_self hk _

theorem child_countDown (hk : k < p.children.length) :
    (p.countDown k).child k = { p.child k with owes := false } := by
  unfold countDown; split
  · exact child_setChild_self hk _
  · rename_i ho
    show p.child k = _
    cases h : p.child k
    simp_all

theorem child_dropCount (hk : k < p.children.length) :
    (p.dropCount k).child k = { p.child k with owes := false } := by
  unfold dropCount; split
  · exact child_setChild_self hk _
  · rename_i ho
    cases h : p.child k
    simp_all

theorem child_goto (hk : k < p.children.length) (pc : ChildPc) : (p.goto k pc).child k = { p.child k with pc := pc } :=
  child_setChild_self hk _

/-! The shared fields under each operation. -/

@[simp] theorem connCounter_setChild (ch : Child) : (p.setChild k ch).connCounter = p.connCounter := rfl
@[simp] theorem leaked_setChild (ch : Child) : (p.setChild k ch).leaked = p.leaked := rfl
@[simp] theorem returnedTwice_setChild (ch : Child) : (p.setChild k ch).returnedTwice = p.returnedTwice := rfl
@[simp] theorem connCounter_goto (pc : ChildPc) : (p.goto k pc).connCounter = p.connCounter := rfl
@[simp] theorem leaked_goto (pc : ChildPc) : (p.goto k pc).leaked = p.leaked := rfl
@[simp] theorem returnedTwice_goto (pc : ChildPc) : (p.goto k pc).returnedTwice = p.returnedTwice := rfl
@[simp] theorem connCounter_countUp : (p.countUp k).connCounter = p.connCounter + 1 := rfl
@[simp] theorem leaked_countUp : (p.countUp k).leaked = p.leaked := rfl
@[simp] theorem returnedTwice_countUp : (p.countUp k).returnedTwice = p.returnedTwice := rfl

@[simp] theorem connCounter_countDown : (p.countDown k).connCounter = p.connCounter - 1 := by
  unfold countDown; split <;> rfl

@[simp] theorem leaked_countDown : (p.countDown k).leaked = p.leaked := by
  unfold countDown; split <;> rfl

theorem returnedTwice_countDown :
    (p.countDown k).returnedTwice = p.returnedTwice + (if (p.child k).owes then 0 else 1) := by
  unfold countDown; split <;> simp_all

@[simp] theorem connCounter_dropCount : (p.dropCount k).connCounter = p.connCounter := by
  unfold dropCount; split <;> rfl

theorem leaked_dropCount : (p.dropCount k).leaked = p.leaked + (if (p.child k).owes then 1 else 0) := by
  unfold dropCount; split <;> simp_all

@[simp] theorem returnedTwice_dropCount : (p.dropCount k).returnedTwice = p.returnedTwice := by
  unfold dropCount; split <;> rfl

theorem owing_countUp (hk : k < p.children.length) (ho : (p.child k).owes = false) :
    (p.countUp k).owing = p.owing + 1 := by
  have hw := owing_setChild hk { p.child k with owes := true }
  rw [ho] at hw
  simpa using hw

theorem owing_countDown (hk : k < p.children.length) (ho : (p.child k).owes = true) :
    (p.countDown k).owing + 1 = p.owing := by
  have hw := owing_setChild hk { p.child k with owes := false }
  rw [ho] at hw
  simpa [countDown, ho] using hw

theorem owing_dropCount (hk : k < p.children.length) (ho : (p.child k).owes = true) :
    (p.dropCount k).owing + 1 = p.owing := by
  have hw := owing_setChild hk { p.child k with owes := false }
  rw [ho] at hw
  simpa [dropCount, ho] using hw

theorem returnedTwice_countDown_ge : p.returnedTwice ≤ (p.countDown k).returnedTwice := by
  rw [returnedTwice_countDown]; omega

end Pool

/-! ## The ledger of the counter -/

/-- The counter counts what the children owe and what leaked, less what was
returned twice, and never more. -/
def Ledger (p : Pool) : Prop :=
  p.connCounter ≤ p.owing + p.leaked ∧ p.owing + p.leaked ≤ p.connCounter + p.returnedTwice

namespace Ledger
variable {p : Pool} {k : Nat}

theorem countUp (hk : k < p.children.length) (ho : (p.child k).owes = false) (h : Ledger p) :
    Ledger (p.countUp k) := by
  have hw := Pool.owing_countUp hk ho
  unfold Ledger at h ⊢
  simp only [Pool.connCounter_countUp, Pool.leaked_countUp, Pool.returnedTwice_countUp, hw]
  omega

theorem countDown (hk : k < p.children.length) (h : Ledger p) : Ledger (p.countDown k) := by
  unfold Ledger at h ⊢
  simp only [Pool.connCounter_countDown, Pool.leaked_countDown, Pool.returnedTwice_countDown]
  by_cases ho : (p.child k).owes = true
  · have hw := Pool.owing_countDown hk ho
    simp only [ho, if_true]
    omega
  · have hw : (p.countDown k).owing = p.owing := by simp only [Pool.countDown, ho]; rfl
    simp only [Bool.not_eq_true] at ho
    simp only [ho, hw, Bool.false_eq_true, if_false]
    omega

theorem dropCount (hk : k < p.children.length) (h : Ledger p) : Ledger (p.dropCount k) := by
  unfold Ledger at h ⊢
  simp only [Pool.connCounter_dropCount, Pool.leaked_dropCount, Pool.returnedTwice_dropCount]
  by_cases ho : (p.child k).owes = true
  · have hw := Pool.owing_dropCount hk ho
    simp only [ho, if_true]
    omega
  · have hw : (p.dropCount k).owing = p.owing := by simp only [Pool.dropCount, ho]; rfl
    simp only [Bool.not_eq_true] at ho
    simp only [ho, hw, Bool.false_eq_true, if_false]
    omega

theorem setChild (hk : k < p.children.length) {ch : Child} (ho : ch.owes = (p.child k).owes) (h : Ledger p) :
    Ledger (p.setChild k ch) := by
  have hw := Pool.owing_setChild hk ch
  rw [ho, Nat.add_right_cancel_iff] at hw
  unfold Ledger at h ⊢
  exact hw ▸ h

theorem goto (hk : k < p.children.length) (pc : ChildPc) (h : Ledger p) : Ledger (p.goto k pc) :=
  setChild hk rfl h

end Ledger

/-! ## A step touches one child -/

/-- `q` differs from `p` at most in child `k` and the shared fields, keeps
the ledger, and takes back no count returned twice. -/
structure Touches (k : Nat) (p q : Pool) : Prop where
  length : q.children.length = p.children.length
  frame : ∀ j, j ≠ k → q.child j = p.child j
  ledger : Ledger p → Ledger q
  twice : p.returnedTwice ≤ q.returnedTwice

namespace Touches
variable {p q r : Pool} {k : Nat}

theorem refl (p : Pool) (k : Nat) : Touches k p p := ⟨rfl, fun _ _ => rfl, id, le_rfl⟩

theorem trans (h₁ : Touches k p q) (h₂ : Touches k q r) : Touches k p r :=
  ⟨h₂.length.trans h₁.length, fun j hj => (h₂.frame j hj).trans (h₁.frame j hj),
    h₂.ledger ∘ h₁.ledger, h₁.twice.trans h₂.twice⟩

theorem countUp (hk : k < p.children.length) (ho : (p.child k).owes = false) : Touches k p (p.countUp k) :=
  ⟨Pool.length_countUp, fun _ hj => Pool.child_countUp_ne hj, Ledger.countUp hk ho, le_rfl⟩

theorem countDown (hk : k < p.children.length) : Touches k p (p.countDown k) :=
  ⟨Pool.length_countDown, fun _ hj => Pool.child_countDown_ne hj, Ledger.countDown hk,
    Pool.returnedTwice_countDown_ge⟩

theorem dropCount (hk : k < p.children.length) : Touches k p (p.dropCount k) :=
  ⟨Pool.length_dropCount, fun _ hj => Pool.child_dropCount_ne hj, Ledger.dropCount hk,
    Pool.returnedTwice_dropCount.ge⟩

theorem setChild (hk : k < p.children.length) {ch : Child} (ho : ch.owes = (p.child k).owes) :
    Touches k p (p.setChild k ch) :=
  ⟨Pool.length_setChild ch, fun _ hj => Pool.child_setChild_ne hj ch, Ledger.setChild hk ho, le_rfl⟩

theorem goto (hk : k < p.children.length) (pc : ChildPc) : Touches k p (p.goto k pc) :=
  setChild hk rfl

/-- The pool after the step is the pool before with child `k` replaced. -/
theorem children_eq (h : Touches k p q) (hk : k < p.children.length) :
    q.children = p.children.set k (q.child k) := by
  apply List.ext_getElem (by simp [h.length])
  intro j hj _
  by_cases hjk : j = k
  · subst hjk
    simp [Pool.child_eq_getElem (h.length ▸ hk : j < q.children.length)]
  · rw [List.getElem_set_ne (Ne.symm hjk), ← Pool.child_eq_getElem hj, h.frame j hjk,
      Pool.child_eq_getElem (h.length ▸ hj)]

/-- Only a child that comes to serve adds to the children serving. -/
theorem serving_eq (h : Touches k p q) (hk : k < p.children.length) :
    q.serving + (if (p.child k).pc = .serving then 1 else 0) =
      p.serving + (if (q.child k).pc = .serving then 1 else 0) := by
  have := Pool.serving_setChild hk (q.child k)
  rwa [Pool.setChild, ← h.children_eq hk] at this

end Touches

/-! ## The invariant of the pool -/

/-- Where a child stands decides whether it owes a count and whether
`accepted` is set. At the head of the loop and on the way out, `accepted`
may be stale, set for a count already returned; a child that owes there has
it set. -/
def ChildOk (ch : Child) : Prop :=
  match ch.pc with
  | .waiting => ch.owes = false ∧ ch.accepted = false
  | .counted | .rejecting | .ending => ch.owes = true ∧ ch.accepted = false
  | .serving => ch.owes = true ∧ ch.accepted = true
  | .loopTop | .exiting => ch.owes = true → ch.accepted = true
  | .gone => ch.owes = false

structure PoolOk (cfg : ChildConfig) (p : Pool) : Prop where
  children : ∀ j < p.children.length, ChildOk (p.child j)
  ledger : Ledger p
  serving_le : p.serving ≤ cfg.limit.toNat + p.returnedTwice

theorem poolOk_init (cfg : ChildConfig) : PoolOk cfg (Pool.init cfg) where
  children j hj := by
    simp only [Pool.init, List.length_replicate] at hj
    simp [Pool.child, Pool.init, hj, Child.fresh, ChildOk]
  ledger := by simp [Ledger, Pool.init, Pool.owing, List.countP_replicate, Child.fresh]
  serving_le := by simp [Pool.init, Pool.serving, List.countP_replicate, Child.fresh]

/-- A step that touches child `k` only, leaves it in good standing and does
not make it serve keeps the invariant. -/
theorem PoolOk.of_touches {cfg : ChildConfig} {p q : Pool} {k : Nat} (h : PoolOk cfg p)
    (hk : k < p.children.length) (ht : Touches k p q) (hok : ChildOk (q.child k))
    (hs : (q.child k).pc = .serving → (p.child k).pc = .serving) : PoolOk cfg q where
  children j hj := by
    by_cases hjk : j = k
    · exact hjk ▸ hok
    · rw [ht.frame j hjk]; exact h.children j (ht.length ▸ hj)
  ledger := ht.ledger h.ledger
  serving_le := by
    have he := ht.serving_eq hk
    have h1 := h.serving_le
    have h2 := ht.twice
    by_cases hq : (q.child k).pc = .serving
    · simp only [hq, hs hq, if_true] at he
      omega
    · simp only [hq, if_false] at he
      split at he <;> omega

/-! ## The error handler and the exit -/

section
variable {cfg : ChildConfig} {p : Pool} {k : Nat}

/-- The error handler touches only the child that raised the error, and
leaves it at the head of the loop or on its way out, never serving. -/
theorem errorHandler_spec (cfg : ChildConfig) (hk : k < p.children.length)
    (hpre : (p.child k).owes = true → (p.child k).accepted = true) :
    Touches k p (errorHandler cfg k p) ∧ ChildOk ((errorHandler cfg k p).child k) ∧
      ((errorHandler cfg k p).child k).pc ≠ .serving := by
  have h1 : Touches k p (if (p.child k).accepted then p.countDown k else p) ∧
      ((if (p.child k).accepted then p.countDown k else p).child k).accepted = (p.child k).accepted ∧
      (((if (p.child k).accepted then p.countDown k else p).child k).owes = true →
        (p.child k).accepted = true) := by
    split
    · exact ⟨Touches.countDown hk, by rw [Pool.child_countDown hk], fun _ => ‹_›⟩
    · exact ⟨Touches.refl p k, rfl, hpre⟩
  unfold errorHandler
  generalize (if (p.child k).accepted then p.countDown k else p) = p₁ at h1 ⊢
  obtain ⟨ht, hacc, ho⟩ := h1
  have hk₁ : k < p₁.children.length := ht.length ▸ hk
  refine ⟨ht.trans (Touches.setChild hk₁ rfl), ?_, ?_⟩ <;> rw [Pool.child_setChild_self hk₁]
  · split_ifs <;> exact fun h => hacc.trans (ho h)
  · split_ifs <;> nofun

/-- `child_will_go_down` touches only the exiting child, which owes nothing
once gone. -/
theorem childWillGoDown_spec (hk : k < p.children.length) :
    Touches k p (childWillGoDown k p) ∧ ((childWillGoDown k p).child k).pc = .gone ∧
      ((childWillGoDown k p).child k).owes = false := by
  have h1 : Touches k p (if (p.child k).accepted then p.countDown k else p.dropCount k) ∧
      ((if (p.child k).accepted then p.countDown k else p.dropCount k).child k).owes = false := by
    split
    · exact ⟨Touches.countDown hk, by rw [Pool.child_countDown hk]⟩
    · exact ⟨Touches.dropCount hk, by rw [Pool.child_dropCount hk]⟩
  unfold childWillGoDown
  generalize (if (p.child k).accepted then p.countDown k else p.dropCount k) = p₁ at h1 ⊢
  have hk₁ : k < p₁.children.length := h1.1.length ▸ hk
  exact ⟨h1.1.trans (Touches.goto hk₁ _), by rw [Pool.child_goto hk₁], by rw [Pool.child_goto hk₁]; exact h1.2⟩

end

/-- Among the elements of a list, those of a property that implies a second
are fewer than those of the second when one element has only the second. -/
theorem countP_add_one_le {α : Type} {P Q : α → Bool} :
    ∀ {l : List α} {k : Nat} (hk : k < l.length), (∀ x ∈ l, P x → Q x) → Q l[k] → P l[k] = false →
      l.countP P + 1 ≤ l.countP Q
  | a :: l, 0, _, hPQ, hQ, hP => by
    have : l.countP P ≤ l.countP Q := List.countP_mono_left fun x hx => hPQ x (List.mem_cons_of_mem _ hx)
    simp only [List.getElem_cons_zero] at hQ hP
    simp [List.countP_cons, hQ, hP]
    omega
  | a :: l, k + 1, hk, hPQ, hQ, hP => by
    have := countP_add_one_le (Nat.lt_of_succ_lt_succ hk) (fun x hx => hPQ x (List.mem_cons_of_mem _ hx)) hQ hP
    have ha := hPQ a (List.mem_cons_self _ _)
    rw [List.countP_cons, List.countP_cons]
    cases hpa : P a
    · rw [if_neg Bool.false_ne_true]
      split <;> omega
    · rw [if_pos rfl, if_pos (ha hpa)]
      omega

/-- The children serving are fewer than the counts owed while one more child
owes a count without serving. -/
theorem serving_add_one_le_owing {cfg : ChildConfig} {p : Pool} {k : Nat} (h : PoolOk cfg p)
    (hk : k < p.children.length) (ho : (p.child k).owes = true) (hs : (p.child k).pc ≠ .serving) :
    p.serving + 1 ≤ p.owing := by
  refine countP_add_one_le hk (fun x hx hsx => ?_) ((Pool.child_eq_getElem hk) ▸ ho)
    (by rw [← Pool.child_eq_getElem hk]; simpa using hs)
  obtain ⟨j, hj, rfl⟩ := List.mem_iff_getElem.1 hx
  have := h.children j hj
  rw [Pool.child_eq_getElem hj] at this
  simp only [decide_eq_true_eq] at hsx
  unfold ChildOk at this
  rw [hsx] at this
  exact this.1

/-! ## Every step keeps the invariant -/

section
variable {cfg : ChildConfig} {p : Pool} {k : Nat}

/-- A child reading a count within the limit comes to serve, and the
children serving stay within the limit plus the counts returned twice: it
owes its own count, and so do all the children serving before it. -/
theorem PoolOk.admit (h : PoolOk cfg p) (hk : k < p.children.length) (hc : (p.child k).pc = .counted)
    (hle : ¬ (p.connCounter : Int) > cfg.limit) :
    PoolOk cfg (p.setChild k { p.child k with accepted := true, pc := .serving }) := by
  have hck := h.children k hk
  unfold ChildOk at hck
  rw [hc] at hck
  have ht : Touches k p (p.setChild k { p.child k with accepted := true, pc := .serving }) :=
    Touches.setChild hk rfl
  have he := ht.serving_eq hk
  rw [Pool.child_setChild_self hk, hc] at he
  have hlt := serving_add_one_le_owing h hk hck.1 (by rw [hc]; nofun)
  have hl := h.ledger
  unfold Ledger at hl
  refine ⟨fun j hj => ?_, ht.ledger h.ledger, ?_⟩
  · by_cases hjk : j = k
    · subst hjk
      rw [Pool.child_setChild_self hk]
      exact ⟨hck.1, rfl⟩
    · rw [ht.frame j hjk]; exact h.children j (ht.length ▸ hj)
  · simp only [Pool.returnedTwice_setChild, if_true, reduceCtorEq, if_false] at he ⊢
    omega

/-- A child that owes nothing and stands at the head of the loop or on its
way out is in good standing, whatever `accepted` says. -/
theorem ChildOk.of_idle {ch : Child} (hpc : ch.pc = .loopTop ∨ ch.pc = .exiting) (ho : ch.owes = false) :
    ChildOk ch := by
  unfold ChildOk
  rcases hpc with hpc | hpc <;> rw [hpc] <;> simp [ho]

/-- Replacing child `k` by one in good standing that keeps its debt and does
not serve keeps the invariant. -/
theorem PoolOk.setChild (h : PoolOk cfg p) (hk : k < p.children.length) {ch : Child}
    (ho : ch.owes = (p.child k).owes) (hok : ChildOk ch) (hs : ch.pc ≠ .serving) :
    PoolOk cfg (p.setChild k ch) :=
  h.of_touches hk (Touches.setChild hk ho) (by rw [Pool.child_setChild_self hk]; exact hok)
    (by rw [Pool.child_setChild_self hk]; exact fun h' => absurd h' hs)

/-- Every step of every child keeps the invariant. -/
theorem PoolOk.childStep (h : PoolOk cfg p) (hk : k < p.children.length) (inp : ChildInput) :
    PoolOk cfg (childStep cfg k inp p) := by
  have hc := h.children k hk
  unfold ChildOk at hc
  unfold pgpool.protocol.childStep
  dsimp only
  split
  next _ _ _ hpc =>
    -- loop top: stop, restart, or wait for a client
    rw [hpc] at hc
    split_ifs
    · exact h.setChild hk rfl hc nofun
    · have ht : Touches k p (p.dropCount k) := Touches.dropCount hk
      have hk₁ : k < (p.dropCount k).children.length := ht.length ▸ hk
      refine h.of_touches hk (ht.trans (Touches.setChild hk₁ rfl)) ?_ ?_ <;>
        rw [Pool.child_setChild_self hk₁, Pool.child_dropCount hk]
      · exact ⟨rfl, rfl⟩
      · nofun
  next _ hpc =>
    -- wait timed out
    rw [hpc] at hc
    exact h.setChild hk rfl (ChildOk.of_idle (by split <;> simp) hc.1) (by split <;> nofun)
  next _ hpc =>
    -- wait to be retried
    rw [hpc] at hc
    exact h.setChild hk rfl (ChildOk.of_idle (.inl rfl) hc.1) nofun
  next _ hpc =>
    -- accept failed
    rw [hpc] at hc
    obtain ⟨ht, hok, hs⟩ := errorHandler_spec cfg hk fun ho => absurd (hc.1 ▸ ho) (by decide)
    exact h.of_touches hk ht hok fun h' => absurd h' hs
  next _ hpc =>
    -- a client: count up
    rw [hpc] at hc
    have ht := Touches.countUp hk hc.1
    have hk₁ : k < (p.countUp k).children.length := ht.length ▸ hk
    refine h.of_touches hk (ht.trans (Touches.goto hk₁ _)) ?_ ?_ <;>
      rw [Pool.child_goto hk₁, Pool.child_countUp hk]
    · exact ⟨rfl, hc.2⟩
    · nofun
  next _ hpc =>
    -- read the counter: refuse over the limit, or serve
    split_ifs with hle
    · rw [hpc] at hc
      exact h.setChild hk rfl hc nofun
    · exact h.admit hk hpc hle
  next _ ok hpc =>
    -- a refused client: count down, then the fatal message
    rw [hpc] at hc
    have ht : Touches k p (p.countDown k) := Touches.countDown hk
    have hk₁ : k < (p.countDown k).children.length := ht.length ▸ hk
    have ho : ((p.countDown k).child k).owes = false := by rw [Pool.child_countDown hk]
    split_ifs
    · obtain ⟨ht₁, hok, hs⟩ := errorHandler_spec cfg hk₁ fun h' => absurd (ho ▸ h') (by decide)
      exact h.of_touches hk (ht.trans ht₁) hok fun h' => absurd h' hs
    · refine h.of_touches hk (ht.trans (Touches.goto hk₁ _)) ?_ ?_ <;> rw [Pool.child_goto hk₁]
      · exact ChildOk.of_idle (.inl rfl) ho
      · nofun
  next _ hpc =>
    -- the session ended well
    rw [hpc] at hc
    exact h.setChild hk rfl ⟨hc.1, rfl⟩ nofun
  next _ b hpc =>
    -- the session failed
    rw [hpc] at hc
    have ht : Touches k p (p.setChild k { p.child k with connected := (p.child k).connected || b }) :=
      Touches.setChild hk rfl
    have hk₁ := ht.length ▸ hk
    obtain ⟨ht₁, hok, hs⟩ := errorHandler_spec cfg hk₁ fun _ => by
      rw [Pool.child_setChild_self hk]; exact hc.2
    exact h.of_touches hk (ht.trans ht₁) hok fun h' => absurd h' hs
  next _ hpc =>
    -- no backend
    rw [hpc] at hc
    exact h.setChild hk rfl (fun _ => hc.2) nofun
  next _ hpc =>
    -- the session is over: count down
    rw [hpc] at hc
    have ht : Touches k p (p.countDown k) := Touches.countDown hk
    have hk₁ : k < (p.countDown k).children.length := ht.length ▸ hk
    have ho : ((p.countDown k).child k).owes = false := by rw [Pool.child_countDown hk]
    refine h.of_touches hk (ht.trans (Touches.setChild hk₁ rfl)) ?_ ?_ <;> rw [Pool.child_setChild_self hk₁]
    · exact ChildOk.of_idle (by split_ifs <;> simp) ho
    · split_ifs <;> nofun
  next _ hpc =>
    -- a new child in place of the one gone
    rw [hpc] at hc
    exact h.setChild hk hc.symm nofun nofun
  next => exact h
  next =>
    -- exit
    obtain ⟨ht, hpc, ho⟩ := childWillGoDown_spec hk
    refine h.of_touches hk ht ?_ (by rw [hpc]; nofun)
    unfold ChildOk
    rw [hpc]
    exact ho
  next => exact h


/-! ## What a step does to the lengths and to the counts returned twice -/

@[simp] theorem length_errorHandler : (errorHandler cfg k p).children.length = p.children.length := by
  unfold errorHandler
  split <;> simp

@[simp] theorem length_childWillGoDown : (childWillGoDown k p).children.length = p.children.length := by
  unfold childWillGoDown
  split <;> simp

@[simp] theorem length_childStep (inp : ChildInput) :
    (childStep cfg k inp p).children.length = p.children.length := by
  unfold pgpool.protocol.childStep
  dsimp only
  split <;> (try split_ifs) <;> simp

theorem returnedTwice_errorHandler :
    (errorHandler cfg k p).returnedTwice =
      p.returnedTwice + if (p.child k).accepted = true ∧ (p.child k).owes = false then 1 else 0 := by
  unfold errorHandler
  cases ha : (p.child k).accepted <;> cases ho : (p.child k).owes <;> simp [ha, ho, Pool.returnedTwice_countDown]

theorem returnedTwice_childWillGoDown :
    (childWillGoDown k p).returnedTwice =
      p.returnedTwice + if (p.child k).accepted = true ∧ (p.child k).owes = false then 1 else 0 := by
  unfold childWillGoDown
  cases ha : (p.child k).accepted <;> cases ho : (p.child k).owes <;> simp [ha, ho, Pool.returnedTwice_countDown]

/-- A count is returned twice only by the exit of a child whose `accepted`
flag is still set for a count it has already returned. -/
theorem returnedTwice_childStep (h : PoolOk cfg p) (hk : k < p.children.length) (inp : ChildInput) :
    (childStep cfg k inp p).returnedTwice = p.returnedTwice +
      if inp = .exit ∧ (p.child k).pc ≠ .gone ∧ (p.child k).accepted = true ∧ (p.child k).owes = false
      then 1 else 0 := by
  have hc := h.children k hk
  unfold ChildOk at hc
  unfold pgpool.protocol.childStep
  dsimp only
  split <;> simp_all [apply_ite Pool.returnedTwice, returnedTwice_errorHandler, returnedTwice_childWillGoDown,
    Pool.returnedTwice_countDown, Pool.child_countDown hk, Pool.child_setChild_self hk]

/-! ## Every reachable pool -/

/-- Every pool the children reach keeps the invariant. -/
theorem PoolReach.poolOk (h : PoolReach cfg p) : PoolOk cfg p := by
  induction h with
  | init => exact poolOk_init cfg
  | step k inp hk _ ih => exact ih.childStep hk inp

end

/-- The pool after the children take the given steps, in order. -/
def runPool (cfg : ChildConfig) : List (Nat × ChildInput) → Pool → Pool
  | [], p => p
  | (k, inp) :: steps, p => runPool cfg steps (childStep cfg k inp p)

/-- Steps of children that exist lead from a reachable pool to a reachable pool. -/
theorem PoolReach.run {cfg : ChildConfig} (steps : List (Nat × ChildInput)) :
    ∀ {p : Pool}, PoolReach cfg p → (∀ s ∈ steps, s.1 < p.children.length) →
      PoolReach cfg (runPool cfg steps p) := by
  induction steps with
  | nil => exact fun h _ => h
  | cons s steps ih =>
    intro p h hs
    have hk := hs s (List.mem_cons_self _ _)
    exact ih (PoolReach.step s.1 s.2 hk h) fun t ht => by
      rw [length_childStep]; exact hs t (List.mem_cons_of_mem _ ht)

/-- Three children, one of them reserved, each exiting after one connection. -/
def doubleReturnConfig : ChildConfig := ⟨3, 1, 1, 0⟩

/-- Child 1 serves a client whose session fails, and exits with `accepted`
still set; then child 0 and the new child 1 are admitted; child 1 exits
before the last four steps. -/
def doubleReturnSteps : List (Nat × ChildInput) :=
  [(1, .loopCheck false false), (1, .waitResult .client), (1, .readCount), (1, .sessionEnd (.failed false)),
   (0, .loopCheck false false), (0, .waitResult .client), (0, .readCount), (1, .exit),
   (1, .fork), (1, .loopCheck false false), (1, .waitResult .client), (1, .readCount),
   (2, .loopCheck false false), (2, .waitResult .client), (2, .readCount)]

/-- The pool after the first `n` steps of `doubleReturnSteps`. -/
def doubleReturnPool (n : Nat) : Pool :=
  runPool doubleReturnConfig (doubleReturnSteps.take n) (Pool.init doubleReturnConfig)

theorem reach_doubleReturnPool (n : Nat) : PoolReach doubleReturnConfig (doubleReturnPool n) :=
  PoolReach.run _ .init fun s hs =>
    (by decide : ∀ s ∈ doubleReturnSteps, s.1 < (Pool.init doubleReturnConfig).children.length) s
      (List.mem_of_mem_take hs)

/-- One child, none reserved: a client sends a cancel request, and the next
client has counted itself up. -/
def leakConfig : ChildConfig := ⟨1, 0, 0, 0⟩

def leakSteps : List (Nat × ChildInput) :=
  [(0, .loopCheck false false), (0, .waitResult .client), (0, .readCount), (0, .sessionEnd .noBackend),
   (0, .loopCheck false false), (0, .waitResult .client)]

def leakPool : Pool := runPool leakConfig leakSteps (Pool.init leakConfig)

theorem reach_leakPool : PoolReach leakConfig leakPool :=
  PoolReach.run _ .init (by decide)

/-- Two children, one reserved: child 0 serves, and child 1 has counted a
second client up. -/
def busyConfig : ChildConfig := ⟨2, 1, 0, 0⟩

def busyPool : Pool :=
  runPool busyConfig
    [(0, .loopCheck false false), (0, .waitResult .client), (0, .readCount),
     (1, .loopCheck false false), (1, .waitResult .client)] (Pool.init busyConfig)

theorem reach_busyPool : PoolReach busyConfig busyPool :=
  PoolReach.run _ .init (by decide)

section
variable {cfg : ChildConfig} {p : Pool} {k : Nat}

/-- In every reachable pool the counter is at most the counts the children
owe plus those leaked, and at least those less the counts returned twice. -/
theorem connCounter_ledger (h : PoolReach cfg p) :
    p.connCounter ≤ p.owing + p.leaked ∧ p.owing + p.leaked ≤ p.connCounter + p.returnedTwice :=
  h.poolOk.ledger

/-- In every reachable pool the children serving a client are at most the
admission limit plus the counts returned twice. -/
theorem serving_le_limit_add_returnedTwice (h : PoolReach cfg p) :
    p.serving ≤ cfg.limit.toNat + p.returnedTwice :=
  h.poolOk.serving_le

theorem serving_le_limit_add_returnedTwice_doubleReturn :
    doubleReturnConfig.limit.toNat < (doubleReturnPool 15).serving ∧
      (doubleReturnPool 15).serving ≤ doubleReturnConfig.limit.toNat + (doubleReturnPool 15).returnedTwice :=
  ⟨by decide, serving_le_limit_add_returnedTwice (reach_doubleReturnPool 15)⟩

/-- In every reachable pool, a step returns a count twice exactly when it is
the exit of a live child whose `accepted` flag is still set for a count it no
longer holds. -/
theorem count_returned_twice_only_by_stale_exit (h : PoolReach cfg p) (hk : k < p.children.length)
    (inp : ChildInput) :
    (childStep cfg k inp p).returnedTwice = p.returnedTwice +
      if inp = .exit ∧ (p.child k).pc ≠ .gone ∧ (p.child k).accepted = true ∧ (p.child k).owes = false
      then 1 else 0 :=
  returnedTwice_childStep h.poolOk hk inp

theorem count_returned_twice_by_exit_after_error :
    (childStep doubleReturnConfig 1 .exit (doubleReturnPool 7)).returnedTwice =
      (doubleReturnPool 7).returnedTwice + 1 :=
  (count_returned_twice_only_by_stale_exit (reach_doubleReturnPool 7) (by decide) .exit).trans (by decide)

/-- A child that has counted a client up refuses it when the counter it
reads is past the limit, and serves it otherwise. -/
theorem pc_readCount (hk : k < p.children.length) (hc : (p.child k).pc = .counted) :
    ((childStep cfg k .readCount p).child k).pc =
      if (p.connCounter : Int) > cfg.limit then .rejecting else .serving := by
  unfold pgpool.protocol.childStep
  simp only [hc]
  split_ifs
  · rw [Pool.child_goto hk]
  · rw [Pool.child_setChild_self hk]

/-- With no count leaked, a child refuses a client only when more children
than the admission limit hold a count, the refused client's own among them. -/
theorem refusal_only_past_limit_without_leaks (h : PoolReach cfg p) (hk : k < p.children.length)
    (hc : (p.child k).pc = .counted) (hleak : p.leaked = 0)
    (hr : ((childStep cfg k .readCount p).child k).pc = .rejecting) : cfg.limit < p.owing := by
  rw [pc_readCount hk hc] at hr
  split_ifs at hr with hover
  have := (connCounter_ledger h).1
  omega

theorem refusal_with_both_children_counted :
    ((childStep busyConfig 1 .readCount busyPool).child 1).pc = .rejecting ∧ busyConfig.limit < busyPool.owing :=
  ⟨by decide, @refusal_only_past_limit_without_leaks busyConfig busyPool 1 reach_busyPool (by decide) (by decide)
    (by decide) (by decide)⟩

/-- Once the counts leaked reach the admission limit, with none returned
twice, a child that has counted a client up refuses it. -/
theorem client_refused_once_leaks_reach_limit (h : PoolReach cfg p) (hk : k < p.children.length)
    (hc : (p.child k).pc = .counted) (htwice : p.returnedTwice = 0) (hleak : cfg.limit ≤ p.leaked) :
    ((childStep cfg k .readCount p).child k).pc = .rejecting := by
  have hok := h.poolOk
  have hck := hok.children k hk
  unfold ChildOk at hck
  rw [hc] at hck
  have howing : 0 < p.owing :=
    List.countP_pos_iff.2 ⟨p.children[k], List.getElem_mem _, by rw [← Pool.child_eq_getElem hk]; exact hck.1⟩
  have hover : (p.connCounter : Int) > cfg.limit := by
    have := (connCounter_ledger h).2
    omega
  rw [pc_readCount hk hc, if_pos hover]

theorem client_refused_after_cancel_request :
    leakPool.owing = 1 ∧ ((childStep leakConfig 0 .readCount leakPool).child 0).pc = .rejecting :=
  ⟨by decide, client_refused_once_leaks_reach_limit reach_leakPool (by decide) (by decide) (by decide)
    (by decide)⟩

end

end pgpool.protocol
