import ServiceCatalog.Proofs.Wait.Trace

/-!
# What the state of a wait says

The state of a wait, its count of attempts and the answers so far belong together at every point of every wait: how far
the time is counted, whether a check was a success, and whether the budget has room for another one can all be read off
it. Once a wait is over further ticks do nothing.
-/

namespace ServiceCatalog.Wait

/-- Whether an event announces a check. -/
def Event.isPolling : Event → Bool
  | .polling _ _ _ => true
  | _ => false

namespace Poller

variable (budget : Budget) (service : String) (answers : Answers)

theorem ticks_of_isTerminal {p : Poller} (hterminal : p.state.isTerminal = true) (n : Nat) :
    ticks budget service answers n p = (p, []) := by
  have htick : p.tick budget service answers = (p, []) := by
    obtain ⟨state, attempts, checks⟩ := p
    cases state with
    | polling elapsed => cases hterminal
    | initialized => rfl
    | timedOut => rfl
    | overflowed => rfl
  induction n with
  | zero => rfl
  | succ n ih => simp only [ticks, htick, ih, List.append_nil]

/-- The time is up after the first number of checks for which the time counted is no longer below the longest wait. -/
theorem isLeast_room : IsLeast {k : Nat | budget.maxWait.nanos ≤ k * budget.interval.nanos} budget.room := by
  constructor
  · exact Nat.not_lt.mp (mt (budget.lt_room_iff _).mpr (Nat.lt_irrefl _))
  · intro k hk
    have hnot : ¬ k * budget.interval.nanos < budget.maxWait.nanos := Nat.not_lt.mpr hk
    exact Nat.not_lt.mp (mt (budget.lt_room_iff k).mp hnot)

theorem countP_isPolling_checkEvents (k : Nat) :
    (checkEvents budget service answers k).countP Event.isPolling = 1 := by
  unfold checkEvents attemptEvents
  cases answers k <;> rfl

/-- The ticks of a new wait announce each check once. -/
theorem countP_isPolling_ticks (n : Nat) :
    (ticks budget service answers n new).2.countP Event.isPolling = (ticks budget service answers n new).1.checks := by
  rw [(events_ticks budget service answers n).2, List.countP_flatMap]
  have hone : List.countP Event.isPolling ∘ checkEvents budget service answers = fun _ => 1 :=
    funext (countP_isPolling_checkEvents budget service answers)
  simp [hone]

variable {budget service answers}

theorem cases_of_mem_checkEvents {k : Nat} {event : Event} (h : event ∈ checkEvents budget service answers k) :
    ∃ attempt, (∃ elapsed, event = .polling service attempt elapsed) ∨
      ∃ text, event = .transientError service attempt text := by
  unfold checkEvents attemptEvents at h
  refine ⟨.ofNat (k + 1), ?_⟩
  cases hanswer : answers k with
  | ok initialized =>
    rw [hanswer] at h
    exact Or.inl ⟨_, List.mem_singleton.mp h⟩
  | error e =>
    rw [hanswer] at h
    obtain hpolling | herror := List.mem_pair.mp h
    · exact Or.inl ⟨_, hpolling⟩
    · exact Or.inr ⟨_, herror⟩

theorem Consistent.of_polling {p : Poller} {elapsed : Duration} (h : p.Consistent budget answers)
    (hstate : p.state = .polling elapsed) :
    elapsed.nanos = p.checks * budget.interval.nanos ∧ NoneOf answers p.checks ∧
      (elapsed.nanos < budget.maxWait.nanos ∨ p.checks = 0 ∧ budget.maxWait.nanos = 0) := by
  unfold Consistent at h
  rw [hstate] at h
  obtain ⟨helapsed, hroom, hnone⟩ := h
  refine ⟨helapsed, hnone, ?_⟩
  rw [budget.lt_room_iff] at hroom
  obtain hbelow | hzero := hroom
  · exact Or.inl (helapsed ▸ hbelow)
  · rw [hzero, Nat.zero_mul] at helapsed
    omega

theorem Consistent.initialized_iff {p : Poller} (h : p.Consistent budget answers) :
    p.state = .initialized ↔ ∃ last, p.checks = last + 1 ∧ answers last = .ok true := by
  obtain ⟨state, attempts, checks⟩ := p
  -- In every other state the answers so far are no successes.
  have hother (hnone : NoneOf answers checks) : ¬ ∃ last, checks = last + 1 ∧ answers last = .ok true := by
    rintro ⟨last, rfl, hsuccess⟩
    exact hnone last (Nat.lt_succ_self last) hsuccess
  cases state with
  | polling elapsed => exact iff_of_false nofun (hother h.2.2)
  | initialized =>
    obtain ⟨s, hs, -, hsuccess, -⟩ := h
    exact iff_of_true rfl ⟨s, hs, hsuccess⟩
  | timedOut =>
    obtain ⟨hchecks, hnone, -⟩ := h
    obtain rfl : checks = budget.room := hchecks
    exact iff_of_false nofun (hother hnone)
  | overflowed =>
    obtain ⟨hchecks, hnone, -⟩ := h
    obtain rfl : checks = budget.room := hchecks
    exact iff_of_false nofun (hother hnone)

/-- However often a new wait is ticked, its state, its attempts and the answers to its checks agree. The attempts are
the checks, each of which was announced once. While the wait goes on the time counted is the interval times the checks,
none of these was a success, and there is room for another one unless the budget is empty. The wait ended well exactly
if the last check was a success, which was then the first one and made in time; it ended for lack of time after the
first number of checks that uses up the budget, without a success. The time cannot be counted only beyond the longest
span there is. Once a wait is over, further ticks do nothing at all. No tick reports that a wait begins or ends. -/
theorem state_after_ticks (budget : Budget) (service : String) (answers : Answers) (n : Nat) :
    let p := (ticks budget service answers n new).1
    let events := (ticks budget service answers n new).2
    p.attempts = .ofNat p.checks ∧ events.countP Event.isPolling = p.checks ∧
    (∀ elapsed, p.state = .polling elapsed →
      elapsed.nanos = p.checks * budget.interval.nanos ∧ (∀ k < p.checks, answers k ≠ .ok true) ∧
      (elapsed.nanos < budget.maxWait.nanos ∨ p.checks = 0 ∧ budget.maxWait.nanos = 0)) ∧
    (p.state = .initialized ↔ ∃ last, p.checks = last + 1 ∧ answers last = .ok true) ∧
    (p.state = .initialized → ∃ last, p.checks = last + 1 ∧ (∀ k < last, answers k ≠ .ok true) ∧
      last * budget.interval.nanos < budget.maxWait.nanos) ∧
    (p.state = .timedOut → (∀ k < p.checks, answers k ≠ .ok true) ∧
      IsLeast {k : Nat | budget.maxWait.nanos ≤ k * budget.interval.nanos} p.checks) ∧
    (p.state = .overflowed → Duration.limit ≤ p.checks * budget.interval.nanos) ∧
    (p.state.isTerminal = true → ∀ m, ticks budget service answers m p = (p, [])) ∧
    ∀ event ∈ events, ∃ attempt, (∃ elapsed, event = .polling service attempt elapsed) ∨
      ∃ text, event = .transientError service attempt text := by
  intro p events
  have hconsistent : p.Consistent budget answers := consistent_ticks budget service answers n
  obtain ⟨hattempts, hevents⟩ := events_ticks budget service answers n
  refine ⟨hattempts, countP_isPolling_ticks budget service answers n,
    fun elapsed hstate => hconsistent.of_polling hstate, hconsistent.initialized_iff, fun hstate => ?_,
    fun hstate => ?_, fun hstate => ?_, ticks_of_isTerminal budget service answers, fun event hevent => ?_⟩
  · simp only [Consistent, hstate] at hconsistent
    obtain ⟨s, hs, hroom, -, hnone⟩ := hconsistent
    exact ⟨s, hs, hnone, (budget.lt_room_iff s).mp hroom⟩
  · simp only [Consistent, hstate] at hconsistent
    obtain ⟨hchecks, hnone, -⟩ := hconsistent
    rw [hchecks]
    exact ⟨hnone, isLeast_room budget⟩
  · simp only [Consistent, hstate] at hconsistent
    obtain ⟨hchecks, -, hlimit⟩ := hconsistent
    rw [hchecks]
    exact hlimit
  · change event ∈ (ticks budget service answers n new).2 at hevent
    rw [hevents] at hevent
    obtain ⟨k, -, hk⟩ := List.mem_flatMap.mp hevent
    exact cases_of_mem_checkEvents hk

end Poller

end ServiceCatalog.Wait
