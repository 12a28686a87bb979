-- The search and the forwarding of cancel_request in child.c, after the
-- process id and the cancel key are read from the packet (cancelRequest of
-- StartupPacket). Three loops look through the connection info of every
-- child, pool slot and backend for the pid and key, and leave at the first
-- match; then a cancel packet goes to each live backend of the slot found,
-- with the pid and key of that backend, until one cannot be reached. The
-- laws:
--   * the search finds the first pool slot, children first, one of whose
--     backends holds the pid and the key;
--   * the forwarding writes, to each valid backend of that slot in turn
--     until the first one that cannot be connected to or opened, the
--     request's protocol word and that backend's own pid and key; with no
--     slot found nothing is written.
import Pgpool.Protocol.StartupPacket

namespace pgpool.protocol

/-! ## The table and the targets -/

/-- What `pool_coninfo(i, j, k)` holds that `cancel_request` reads: the
process id and the cancel key backend `k` gave pool slot `j` of child `i`,
as numbers. -/
structure ConnectionInfo where
  pid : Nat
  key : Nat
  deriving DecidableEq, Repr

/-- `c->pid == sp->pid && c->key == sp->key` -/
def ConnectionInfo.holds (c : ConnectionInfo) (pid key : Nat) : Bool := c.pid == pid && c.key == key

/-- What forwarding meets at a backend: `VALID_BACKEND(i)`, whether the
socket to it connects, and whether `pool_open` takes the socket. -/
structure CancelTarget where
  valid : Bool
  connects : Bool
  opens : Bool
  deriving DecidableEq, Repr

/-- A cancel packet written to backend `backend`: `cp.protoVersion`,
`cp.pid` and `cp.key`. -/
structure ForwardedCancel where
  backend : Nat
  protoVersion : Nat
  pid : Nat
  key : Nat
  deriving DecidableEq, Repr

/-! ## The search -/

/-- The loop over the backends `k` of one pool slot. -/
def backendsHold (pid key : Nat) : List ConnectionInfo → Bool
  | [] => false
  | c :: cs => c.holds pid key || backendsHold pid key cs

/-- The loop over the pool slots `j` of child `i`, from slot `j`. -/
def searchPools (pid key i : Nat) : Nat → List (List ConnectionInfo) → Option (Nat × Nat)
  | _, [] => none
  | j, slot :: slots => if backendsHold pid key slot then some (i, j) else searchPools pid key i (j + 1) slots

/-- The loop over the children `i`, from child `i`; the `goto found` leaves
all three loops at the first match. -/
def searchChildren (pid key : Nat) : Nat → List (List (List ConnectionInfo)) → Option (Nat × Nat)
  | _, [] => none
  | i, child :: children => (searchPools pid key i 0 child).or (searchChildren pid key (i + 1) children)

/-! ## The forwarding -/

/-- The loop over the backends from backend `i`, with `c` the connection
info of backend `i` on (`i++, c++`): an invalid backend is passed over, a
socket that does not connect or open ends the request. -/
def forwardCancel (protoVersion : Nat) : Nat → List CancelTarget → List ConnectionInfo → List ForwardedCancel
  | _, [], _ => []
  | i, t :: ts, c =>
    if !t.valid then forwardCancel protoVersion (i + 1) ts c.tail
    else if !t.connects then []
    else if !t.opens then []
    else ⟨i, protoVersion, (c.headD ⟨0, 0⟩).pid, (c.headD ⟨0, 0⟩).key⟩ :: forwardCancel protoVersion (i + 1) ts c.tail

/-- `cancel_request` once the pid and key are read: the packets it writes. -/
def cancelForward (table : List (List (List ConnectionInfo))) (targets : List CancelTarget)
    (protoVersion pid key : Nat) : List ForwardedCancel :=
  match searchChildren pid key 0 table with
  | none => []
  | some (i, j) => forwardCancel protoVersion 0 targets ((table.getD i []).getD j [])

/-! ## What the loops compute -/

/-- The pool slots of the table from child `i` on, in the order the loops
visit them, with their child and slot numbers. -/
def slotsFrom : Nat → List (List (List ConnectionInfo)) → List ((Nat × Nat) × List ConnectionInfo)
  | _, [] => []
  | i, child :: children => child.enum.map (fun s => ((i, s.1), s.2)) ++ slotsFrom (i + 1) children

/-- The packets a cancel sends to a pool slot: to each valid backend in
order, up to the first one that cannot be reached, its own pid and key. -/
def forwardSpec (protoVersion : Nat) (targets : List CancelTarget) (slot : List ConnectionInfo) :
    List ForwardedCancel :=
  (((targets.enum).filter (·.2.valid)).takeWhile (fun s => s.2.connects && s.2.opens)).map fun s =>
    ⟨s.1, protoVersion, (slot.getD s.1 ⟨0, 0⟩).pid, (slot.getD s.1 ⟨0, 0⟩).key⟩

section
variable {pid key : Nat}

theorem searchPools_eq (i : Nat) :
    ∀ (j : Nat) (slots : List (List ConnectionInfo)), searchPools pid key i j slots =
      (((slots.enumFrom j).map fun s => ((i, s.1), s.2)).find? (fun s => backendsHold pid key s.2)).map Prod.fst
  | _, [] => rfl
  | j, slot :: slots => by
    rw [searchPools, List.enumFrom_cons, List.map_cons, List.find?_cons, searchPools_eq i (j + 1) slots]
    cases backendsHold pid key slot <;> rfl

/-- The three loops find the first pool slot, in the order they visit
them, one of whose backends holds the pid and key. -/
theorem searchChildren_eq :
    ∀ (i : Nat) (table : List (List (List ConnectionInfo))), searchChildren pid key i table =
      ((slotsFrom i table).find? (fun s => backendsHold pid key s.2)).map Prod.fst
  | _, [] => rfl
  | i, child :: children => by
    rw [searchChildren, slotsFrom, List.find?_append, searchPools_eq, searchChildren_eq (i + 1) children,
      List.enum]
    cases (((child.enumFrom 0).map fun s => ((i, s.1), s.2)).find? fun s => backendsHold pid key s.2) <;> rfl

end

theorem headD_drop (l : List ConnectionInfo) (i : Nat) (d : ConnectionInfo) : (l.drop i).headD d = l.getD i d := by
  induction l generalizing i with
  | nil => simp
  | cons c l ih => cases i <;> simp [ih]

/-- The forwarding loop from backend `i`, its pointer at the info of
backend `i`, writes what the spec writes from backend `i` on. -/
theorem forwardCancel_eq (protoVersion : Nat) (slot : List ConnectionInfo) :
    ∀ (i : Nat) (targets : List CancelTarget), forwardCancel protoVersion i targets (slot.drop i) =
      ((((targets.enumFrom i).filter (·.2.valid)).takeWhile (fun s => s.2.connects && s.2.opens)).map fun s =>
        (⟨s.1, protoVersion, (slot.getD s.1 ⟨0, 0⟩).pid, (slot.getD s.1 ⟨0, 0⟩).key⟩ : ForwardedCancel))
  | _, [] => rfl
  | i, t :: ts => by
    have ih := forwardCancel_eq protoVersion slot (i + 1) ts
    rw [forwardCancel, List.enumFrom_cons, List.filter_cons]
    cases hv : t.valid <;> cases hc : t.connects <;> cases ho : t.opens <;>
      simp [hv, hc, ho, ih, headD_drop, List.tail_drop]

/-- A slot the loops visit is the table's slot at its numbers. -/
theorem getD_of_mem_slotsFrom : ∀ {n : Nat} {table : List (List (List ConnectionInfo))} {i j : Nat}
    {slot : List ConnectionInfo}, ((i, j), slot) ∈ slotsFrom n table → n ≤ i ∧ (table.getD (i - n) []).getD j [] = slot
  | _, [], _, _, _, h => by cases h
  | n, child :: children, i, j, slot, h => by
    rw [slotsFrom, List.mem_append] at h
    rcases h with h | h
    · obtain ⟨s, hs, he⟩ := List.mem_map.1 h
      simp only [Prod.mk.injEq] at he
      obtain ⟨⟨rfl, rfl⟩, rfl⟩ := he
      simp [List.getD_eq_getElem?_getD, List.mem_enum_iff_getElem?.1 hs]
    · obtain ⟨hle, he⟩ := getD_of_mem_slotsFrom h
      refine ⟨by omega, ?_⟩
      rw [show i - n = i - (n + 1) + 1 by omega]
      simpa using he

/-- `cancel_request` writes nothing when no pool slot holds the pid and key,
and otherwise writes to the first slot that does, children first and then
slots, what `forwardSpec` writes: to each valid backend in order, up to the
first one that cannot be reached, the request's protocol word and that
backend's own pid and key. -/
theorem cancel_forwarded_to_first_holder (table : List (List (List ConnectionInfo))) (targets : List CancelTarget)
    (protoVersion pid key : Nat) :
    cancelForward table targets protoVersion pid key =
      match (slotsFrom 0 table).find? (fun s => backendsHold pid key s.2) with
      | none => []
      | some s => forwardSpec protoVersion targets s.2 := by
  unfold cancelForward
  rw [searchChildren_eq]
  cases hf : (slotsFrom 0 table).find? (fun s => backendsHold pid key s.2) with
  | none => rfl
  | some s =>
    obtain ⟨⟨i, j⟩, slot⟩ := s
    have hs := (getD_of_mem_slotsFrom (List.mem_of_find?_eq_some hf)).2
    simp only [Option.map_some', Nat.sub_zero] at hs ⊢
    rw [hs, forwardSpec, List.enum, ← forwardCancel_eq protoVersion slot 0 targets, List.drop_zero]

/-- Two children of one pool slot on three backends: child 1 holds the key
on backend 1, and backend 1 is down; the cancel goes to backends 0 and 2 of
child 1 with their own pids and keys. -/
example :
    cancelForward [[[⟨10, 1⟩, ⟨11, 2⟩, ⟨12, 3⟩]], [[⟨20, 4⟩, ⟨21, 5⟩, ⟨22, 6⟩]]]
      [⟨true, true, true⟩, ⟨false, true, true⟩, ⟨true, true, true⟩] 80877102 21 5 =
      [⟨0, 80877102, 20, 4⟩, ⟨2, 80877102, 22, 6⟩] := by decide

end pgpool.protocol
