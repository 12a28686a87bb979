-- The life-time timer of a child: do_child waits for a client with a timeout
-- of child_life_time seconds, set again after every session, and
-- wait_for_new_connections passes it to select and afterwards computes what
-- is left of it, "in a portable way", for systems whose select does not. A
-- timeout of {0, 0} is no timeout at all. The law: the fragment sets the
-- timeout to what is left of it, or to {0, 0} once it is spent, only when the
-- microseconds borrow; otherwise the timeout is what select left, which on a
-- system whose select does not update its timeout is the whole timeout again.
import Pgpool.Protocol.ConnCounter

namespace pgpool.protocol

/-! ## The pure model -/

/-- `struct timeval` -/
structure Timeval where
  sec : Int
  usec : Int
  deriving DecidableEq, Repr

/-- A time read from `gettimeofday`, or a timeout `do_child` sets: the
microseconds are below a second. -/
def Timeval.Normal (t : Timeval) : Prop := 0 ≤ t.usec ∧ t.usec < 1000000

instance Timeval.decidableNormal : DecidablePred Timeval.Normal := fun t =>
  inferInstanceAs (Decidable (0 ≤ t.usec ∧ t.usec < 1000000))

/-- The time in microseconds. -/
def Timeval.toMicros (t : Timeval) : Int := t.sec * 1000000 + t.usec

/-- A time in microseconds as a normal timeval. -/
def Timeval.ofMicros (m : Int) : Timeval := ⟨m / 1000000, m % 1000000⟩

/-- The timeout `do_child` waits with: `child_life_time` seconds. -/
def ChildConfig.lifeTimeout (cfg : ChildConfig) : Timeval := ⟨cfg.childLifeTime, 0⟩

/-- What `select` is given: `NULL` for the timeout `{0, 0}`, a wait without
a limit. -/
def selectTimeout (timeout : Timeval) : Option Timeval :=
  if timeout.sec = 0 ∧ timeout.usec = 0 then none else some timeout

/-- The timeout after `select` in `wait_for_new_connections`: `tv1` and `tv2`
are the times read before and after `select`, and `left` is what `select`
left in the timeout it was given. -/
def remainingTimeout (timeout left tv1 tv2 : Timeval) : Timeval :=
  match selectTimeout timeout with
  | none => timeout
  | some _ =>
    let tmback : Timeval := ⟨timeout.sec - (tv2.sec - tv1.sec), timeout.usec - (tv2.usec - tv1.usec)⟩
    if tmback.usec < 0 then
      if tmback.sec - 1 < 0 then ⟨0, 0⟩ else ⟨tmback.sec - 1, tmback.usec + 1000000⟩
    else left

/-! ## What is left of the timeout -/

/-- The fragment sets the timeout to what is left of it, or to `{0, 0}` once
that is spent, only when the microseconds borrow; otherwise the timeout is
what `select` left in it, and on a system whose `select` leaves its timeout
alone the whole timeout counts again. -/
theorem remainingTimeout_only_on_borrow {timeout left tv1 tv2 : Timeval} (ht : timeout.Normal) (h1 : tv1.Normal)
    (h2 : tv2.Normal) (hs : selectTimeout timeout ≠ none) :
    remainingTimeout timeout left tv1 tv2 =
      if timeout.usec + tv1.usec < tv2.usec then
        Timeval.ofMicros (max 0 (timeout.toMicros - (tv2.toMicros - tv1.toMicros)))
      else left := by
  obtain ⟨t, hst⟩ := Option.ne_none_iff_exists'.1 hs
  unfold remainingTimeout
  rw [hst]
  obtain ⟨ts, tu⟩ := timeout
  obtain ⟨s1, u1⟩ := tv1
  obtain ⟨s2, u2⟩ := tv2
  simp only [Timeval.Normal, Timeval.toMicros, Timeval.ofMicros] at ht h1 h2 ⊢
  by_cases hb : tu + u1 < u2
  · rw [if_pos (by omega), if_pos hb]
    split_ifs <;> simp only [Timeval.mk.injEq] <;> omega
  · rw [if_neg (by omega), if_neg hb]

/-- The defaults of `pgpool.conf`: 32 children, no reserved connections, no
limit on the connections of a child, a child life time of 300 seconds. -/
def defaultChildConfig : ChildConfig := ⟨32, 0, 0, 300⟩

/-- With the default life time, on a system whose `select` leaves its timeout
alone, a child woken from half a second past second 1000 to 0.4 s past
second 1001 still has all 300 seconds. -/
example : remainingTimeout defaultChildConfig.lifeTimeout defaultChildConfig.lifeTimeout ⟨1000, 500000⟩
    ⟨1001, 400000⟩ = ⟨300, 0⟩ := by decide

end pgpool.protocol
