import Mathlib.Data.Set.Card
import ServiceCatalog.Wait.Poller

/-!
# Waits after some ticks

A wait that began anew is ticked any number of times. Its state is tied to the answers by one invariant, which each tick
preserves: while the wait goes on the time counted so far is the number of checks times the interval, and an end is
reached with the first success or when the budget has no room for another check.
-/

namespace ServiceCatalog.Wait

/-- The number of checks that a budget has room for. -/
def Budget.room (budget : Budget) : Nat :=
  (budget.maxWait.nanos + budget.interval.nanos - 1) / budget.interval.nanos

/-- A check has room if the time before it, counted in intervals, is below the longest wait. -/
theorem Budget.lt_room_iff (budget : Budget) (k : Nat) :
    k < budget.room ↔ k * budget.interval.nanos < budget.maxWait.nanos := by
  have hpos := budget.interval_pos
  rw [Budget.room, ← Nat.succ_le_iff, Nat.le_div_iff_mul_le hpos, Nat.succ_mul]
  omega

/-- The room of a budget counts the multiples of the interval below the longest wait. -/
theorem Budget.ncard_multiples_below (budget : Budget) :
    {k : Nat | k * budget.interval.nanos < budget.maxWait.nanos}.ncard = budget.room := by
  have hset : {k : Nat | k * budget.interval.nanos < budget.maxWait.nanos} = Finset.range budget.room := by
    ext k
    simp [budget.lt_room_iff k]
  rw [hset, Set.ncard_coe_finset, Finset.card_range]

namespace Poller

variable (budget : Budget) (service : String) (answers : Answers)

/-- A wait ticked several times, and what is reported meanwhile. -/
def ticks : Nat → Poller → Poller × List Event
  | 0, p => (p, [])
  | n + 1, p =>
    let first := p.tick budget service answers
    let rest := ticks n first.1
    (rest.1, first.2 ++ rest.2)

/-- The last of several ticks can be split off. -/
theorem ticks_succ (n : Nat) (p : Poller) :
    (ticks budget service answers (n + 1) p).1 =
      ((ticks budget service answers n p).1.tick budget service answers).1 := by
  induction n generalizing p with
  | zero => rfl
  | succ n ih => exact ih (p.tick budget service answers).1

theorem ticks_add (m n : Nat) (p : Poller) :
    (ticks budget service answers (m + n) p).1 =
      (ticks budget service answers n (ticks budget service answers m p).1).1 := by
  induction n with
  | zero => rfl
  | succ n ih => rw [← Nat.add_assoc, ticks_succ, ticks_succ, ih]

/-- No answer among the first ones is a success. -/
def NoneOf (count : Nat) : Prop := ∀ k < count, answers k ≠ .ok true

/-- What the state of a wait says about the answers to its checks. -/
def Consistent (p : Poller) : Prop :=
  match p.state with
  | .polling elapsed =>
    elapsed.nanos = p.checks * budget.interval.nanos ∧ (p.checks < budget.room ∨ p.checks = 0) ∧
      NoneOf answers p.checks
  | .initialized => ∃ s, p.checks = s + 1 ∧ s < budget.room ∧ answers s = .ok true ∧ NoneOf answers s
  | .timedOut =>
    p.checks = budget.room ∧ NoneOf answers budget.room ∧ budget.room * budget.interval.nanos < Duration.limit
  | .overflowed =>
    p.checks = budget.room ∧ NoneOf answers budget.room ∧ Duration.limit ≤ budget.room * budget.interval.nanos

variable {budget service answers}

theorem NoneOf.succ {count : Nat} (hnone : NoneOf answers count) (hnext : answers count ≠ .ok true) :
    NoneOf answers (count + 1) := by
  intro k hk
  rcases Nat.lt_succ_iff_lt_or_eq.mp hk with hlt | rfl
  · exact hnone k hlt
  · exact hnext

theorem consistent_new : new.Consistent budget answers := by
  refine ⟨?_, Or.inr rfl, ?_⟩
  · simp [new, Duration.zero]
  · intro k hk
    exact absurd hk (Nat.not_lt_zero k)

/-- A check without success, made while there was room, leads to a consistent state: either there is room for the next
one, or the time is up, or it cannot be counted. -/
theorem consistent_afterInterval {elapsed : Duration} {attempts : UInt32} {checks : Nat}
    (helapsed : elapsed.nanos = checks * budget.interval.nanos) (hroom : checks < budget.room)
    (hnone : NoneOf answers (checks + 1)) :
    Consistent budget answers ⟨afterInterval budget elapsed, attempts, checks + 1⟩ := by
  have hsum : elapsed.nanos + budget.interval.nanos = (checks + 1) * budget.interval.nanos := by
    rw [helapsed, Nat.succ_mul]
  have hnext := budget.lt_room_iff (checks + 1)
  have hbounded := budget.maxWait.bounded
  unfold afterInterval
  cases hadd : elapsed.add? budget.interval with
  | none =>
    have hlimit := Duration.add?_eq_none_iff.mp hadd
    have hfull : budget.room = checks + 1 := by omega
    exact ⟨hfull.symm, hfull ▸ hnone, by rw [hfull]; omega⟩
  | some now =>
    have hnow := Duration.nanos_add hadd
    dsimp only
    split
    · have hfull : budget.room = checks + 1 := by omega
      have hlt := now.bounded
      exact ⟨hfull.symm, hfull ▸ hnone, by rw [hfull]; omega⟩
    · exact ⟨hnow.trans hsum, Or.inl (hnext.mpr (by omega)), hnone⟩

theorem Consistent.tick {p : Poller} (h : p.Consistent budget answers) :
    (p.tick budget service answers).1.Consistent budget answers := by
  obtain ⟨state, attempts, checks⟩ := p
  cases state with
  | initialized => exact h
  | timedOut => exact h
  | overflowed => exact h
  | polling elapsed =>
    obtain ⟨helapsed, hroom, hnone⟩ := h
    dsimp only at helapsed hroom hnone
    have hbelow := budget.lt_room_iff checks
    by_cases hle : budget.maxWait.nanos ≤ elapsed.nanos
    · -- The time is up before a check only where the budget has no room at all.
      have hzero : checks = 0 := by omega
      have hempty : budget.room = 0 := by
        have hfirst := budget.lt_room_iff 0
        subst hzero
        omega
      simp only [Poller.tick, hle, if_true]
      refine ⟨by rw [hempty, hzero], ?_, ?_⟩
      · rw [hempty, ← hzero]
        exact hnone
      · simp [hempty, Duration.limit, Duration.nanosPerSecond]
    · have hlt : checks < budget.room := by omega
      simp only [Poller.tick, hle, if_false]
      by_cases hsuccess : answers checks = .ok true
      · rw [hsuccess]
        exact ⟨checks, rfl, hlt, hsuccess, hnone⟩
      · rw [afterAnswer_of_ne hsuccess]
        exact consistent_afterInterval helapsed hlt (hnone.succ hsuccess)

variable (budget service answers) in
/-- However often a new wait is ticked, its state is consistent with the answers. -/
theorem consistent_ticks (n : Nat) : (ticks budget service answers n new).1.Consistent budget answers := by
  induction n with
  | zero => exact consistent_new
  | succ n ih =>
    rw [ticks_succ]
    exact ih.tick

variable (budget service answers) in
/-- Each tick makes at most one check. -/
theorem checks_ticks_le (n : Nat) : (ticks budget service answers n new).1.checks ≤ n := by
  induction n with
  | zero => exact Nat.le_refl 0
  | succ n ih =>
    rw [ticks_succ]
    exact (checks_tick_le _).trans (Nat.succ_le_succ ih)

/-- While a new wait goes on each tick makes a check. -/
theorem checks_ticks {n : Nat} {elapsed : Duration}
    (hpolling : (ticks budget service answers n new).1.state = .polling elapsed) :
    (ticks budget service answers n new).1.checks = n := by
  induction n generalizing elapsed with
  | zero => rfl
  | succ n ih =>
    rw [ticks_succ] at hpolling ⊢
    obtain ⟨before, hbefore, -, -, hchecks⟩ := tick_polling_inv hpolling
    rw [hchecks, ih hbefore]

end Poller

end ServiceCatalog.Wait
