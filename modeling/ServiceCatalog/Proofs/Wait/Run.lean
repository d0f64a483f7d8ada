import Mathlib.Order.Bounds.Basic
import ServiceCatalog.Dispatch
import ServiceCatalog.Proofs.Wait.Ticks

/-!
# How waits end

A run ticks a wait until it is over, so that it ends in a state that ticks lead to. For a wait that began anew, whether
ticked before or not, the end follows from the first success and the room of the budget alone.
-/

namespace ServiceCatalog.Wait

/-- The same answers with a "not yet" in place of every error. -/
def Answers.withoutErrors (answers : Answers) : Answers := fun k =>
  match answers k with
  | .ok initialized => .ok initialized
  | .error _ => .ok false

theorem Answers.withoutErrors_eq_true_iff (answers : Answers) (k : Nat) :
    answers.withoutErrors k = .ok true ↔ answers k = .ok true := by
  unfold Answers.withoutErrors
  cases answers k <;> simp

namespace Poller

/-- The outcome of a wait in a state, if it is over there. -/
def State.outcome? : State → Option Outcome
  | .polling _ => none
  | .initialized => some .initialized
  | .timedOut => some .timedOut
  | .overflowed => some .overflowed

variable (budget : Budget) (service : String) (answers : Answers)

/-- What is reported when a wait is over, with the time that is reported of a success. -/
def ending (reported : Duration) : Outcome → List Event
  | .initialized => [.initialized service reported]
  | .timedOut => [.timedOut service budget.maxWait]
  | .overflowed => []

/-- What remains of a wait ends in the state that some further ticks lead to, and reports what these report and its end.
The time that it reports of a success is the one that stood before the last of these ticks, unless that is the only one:
then it is the time that was given. -/
theorem finish_eq_ticks (elapsed : Duration) (p : Poller) :
    ∃ n reported,
      (ticks budget service answers (n + 1) p).1.state.outcome? =
        some (p.finish budget service answers elapsed).outcome ∧
      (ticks budget service answers (n + 1) p).1.checks = (p.finish budget service answers elapsed).checks ∧
      (p.finish budget service answers elapsed).events = (ticks budget service answers (n + 1) p).2 ++
        ending budget service reported (p.finish budget service answers elapsed).outcome ∧
      (n = 0 ∧ reported = elapsed ∨ 0 < n ∧ (ticks budget service answers n p).1.state = .polling reported) := by
  fun_induction finish budget service answers elapsed p with
  | case1 elapsed p r now hnow rest ih =>
    obtain ⟨n, reported, houtcome, hchecks, hevents, hreported⟩ := ih
    refine ⟨n + 1, reported, houtcome, hchecks, ?_, Or.inr ⟨Nat.succ_pos n, ?_⟩⟩
    · change r.2 ++ rest.events = _
      rw [hevents, ← List.append_assoc]
      rfl
    · obtain ⟨rfl, rfl⟩ | ⟨-, hbefore⟩ := hreported
      · exact hnow
      · exact hbefore
  | case2 elapsed p r hstate =>
    exact ⟨0, elapsed, congrArg State.outcome? hstate, rfl, by simp [ticks, ending, r], Or.inl ⟨rfl, rfl⟩⟩
  | case3 elapsed p r hstate =>
    exact ⟨0, elapsed, congrArg State.outcome? hstate, rfl, by simp [ticks, ending, r], Or.inl ⟨rfl, rfl⟩⟩
  | case4 elapsed p r hstate =>
    exact ⟨0, elapsed, congrArg State.outcome? hstate, rfl, by simp [ticks, ending, r], Or.inl ⟨rfl, rfl⟩⟩

/-- A run of a wait that began anew and was ticked ends in a state consistent with the answers. -/
theorem run_consistent (n : Nat) :
    ∃ p : Poller, p.Consistent budget answers ∧
      p.state.outcome? = some ((ticks budget service answers n new).1.run budget service answers).outcome ∧
      p.checks = ((ticks budget service answers n new).1.run budget service answers).checks := by
  obtain ⟨m, -, houtcome, hchecks, -, -⟩ :=
    finish_eq_ticks budget service answers .zero (ticks budget service answers n new).1
  refine ⟨(ticks budget service answers (n + (m + 1)) new).1, consistent_ticks budget service answers _, ?_, ?_⟩
  · rw [ticks_add]
    exact houtcome
  · rw [ticks_add]
    exact hchecks

variable {budget answers}

/-- A wait whose first success has room is initialized, after no more checks than that. -/
theorem run_of_success (n : Nat) {s : Nat} (hsuccess : answers s = .ok true) (hnone : NoneOf answers s)
    (hroom : s < budget.room) :
    ((ticks budget service answers n new).1.run budget service answers).outcome = .initialized ∧
      ((ticks budget service answers n new).1.run budget service answers).checks = s + 1 := by
  obtain ⟨p, hconsistent, houtcome, hchecks⟩ := run_consistent budget service answers n
  rw [← hchecks]
  unfold Consistent at hconsistent
  cases hstate : p.state with
  | polling elapsed => simp [hstate, State.outcome?] at houtcome
  | initialized =>
    simp only [hstate, State.outcome?, Option.some.injEq] at hconsistent houtcome
    obtain ⟨first, hcount, -, hfirst, hbefore⟩ := hconsistent
    have hle : ¬ s < first := fun hlt => hbefore s hlt hsuccess
    have hge : ¬ first < s := fun hlt => hnone first hlt hfirst
    exact ⟨houtcome.symm, by omega⟩
  | timedOut =>
    simp only [hstate] at hconsistent
    exact absurd hsuccess (hconsistent.2.1 s hroom)
  | overflowed =>
    simp only [hstate] at hconsistent
    exact absurd hsuccess (hconsistent.2.1 s hroom)

/-- A wait without a success that has room uses all of it, and then the time is up unless it cannot be counted. -/
theorem run_of_none (n : Nat) (hnone : NoneOf answers budget.room) :
    ((ticks budget service answers n new).1.run budget service answers).checks = budget.room ∧
      ((ticks budget service answers n new).1.run budget service answers).outcome =
        if budget.room * budget.interval.nanos < Duration.limit then .timedOut else .overflowed := by
  obtain ⟨p, hconsistent, houtcome, hchecks⟩ := run_consistent budget service answers n
  rw [← hchecks]
  unfold Consistent at hconsistent
  cases hstate : p.state with
  | polling elapsed => simp [hstate, State.outcome?] at houtcome
  | initialized =>
    simp only [hstate] at hconsistent
    obtain ⟨first, -, hlt, hfirst, -⟩ := hconsistent
    exact absurd hfirst (hnone first hlt)
  | timedOut =>
    simp only [hstate, State.outcome?, Option.some.injEq] at hconsistent houtcome
    exact ⟨hconsistent.1, by rw [if_pos hconsistent.2.2, houtcome]⟩
  | overflowed =>
    simp only [hstate, State.outcome?, Option.some.injEq] at hconsistent houtcome
    exact ⟨hconsistent.1, by rw [if_neg (Nat.not_lt.mpr hconsistent.2.2), houtcome]⟩

/-- A wait that is initialized has made its checks up to the first success, which had room. -/
theorem success_of_run {n : Nat}
    (h : ((ticks budget service answers n new).1.run budget service answers).outcome = .initialized) :
    ∃ s, ((ticks budget service answers n new).1.run budget service answers).checks = s + 1 ∧ s < budget.room ∧
      answers s = .ok true ∧ NoneOf answers s := by
  obtain ⟨p, hconsistent, houtcome, hchecks⟩ := run_consistent budget service answers n
  rw [h] at houtcome
  have hstate : p.state = .initialized := by
    cases hstate : p.state <;> simp [hstate, State.outcome?] at houtcome ⊢
  simp only [Consistent, hstate] at hconsistent
  rw [← hchecks]
  exact hconsistent

/-- The time of a wait whose first success has room can always be counted. -/
theorem ticks_ne_overflowed {s : Nat} (hsuccess : answers s = .ok true) (hroom : s < budget.room) (n : Nat) :
    (ticks budget service answers n new).1.state ≠ .overflowed := by
  intro hstate
  have hconsistent := consistent_ticks budget service answers n
  simp only [Consistent, hstate] at hconsistent
  exact hconsistent.2.1 s hroom hsuccess

/-- Where the time of a whole wait cannot be counted and nothing else ends it, counting fails with the last check that
has room and not before. -/
theorem ticks_overflowed_iff (hnone : NoneOf answers budget.room)
    (hlimit : Duration.limit ≤ budget.room * budget.interval.nanos) (n : Nat) :
    (ticks budget service answers n new).1.state = .overflowed ↔ budget.room ≤ n := by
  have hconsistent := consistent_ticks budget service answers n
  unfold Consistent at hconsistent
  cases hstate : (ticks budget service answers n new).1.state with
  | polling elapsed =>
    have hchecks := checks_ticks hstate
    simp only [hstate] at hconsistent
    have hpos : 0 < budget.room := by
      by_contra hzero
      simp [Nat.eq_zero_of_not_pos hzero, Duration.limit, Duration.nanosPerSecond] at hlimit
    simp only [reduceCtorEq, false_iff]
    omega
  | initialized =>
    simp only [hstate] at hconsistent
    obtain ⟨first, -, hlt, hfirst, -⟩ := hconsistent
    exact absurd hfirst (hnone first hlt)
  | timedOut =>
    simp only [hstate] at hconsistent
    exact absurd hconsistent.2.2 (Nat.not_lt.mpr hlimit)
  | overflowed =>
    simp only [hstate] at hconsistent
    have hle := checks_ticks_le budget service answers n
    simp only [true_iff]
    omega

theorem noneOf_of_isLeast {s : Nat} (h : IsLeast {k : Nat | answers k = .ok true} s) : NoneOf answers s := by
  intro k hk hsuccess
  exact absurd (h.2 hsuccess) (Nat.not_le.mpr hk)

/-- There is no success before a count exactly if the first success, if there is one, is not before it. -/
theorem noneOf_iff_isLeast (count : Nat) :
    NoneOf answers count ↔ ∀ s, IsLeast {k : Nat | answers k = .ok true} s → count ≤ s := by
  constructor
  · intro hnone s hleast
    by_contra hlt
    exact hnone s (Nat.not_le.mp hlt) hleast.1
  · intro hle k hk hsuccess
    classical
    have hexists : ∃ k, answers k = .ok true := ⟨k, hsuccess⟩
    have hleast : IsLeast {k : Nat | answers k = .ok true} (Nat.find hexists) :=
      ⟨Nat.find_spec hexists, fun j hj => Nat.find_min' hexists hj⟩
    have hfirst := hle _ hleast
    have hmin := Nat.find_min' hexists hsuccess
    omega

/-- If not all answers among the first ones are without success, there is a first success among them. -/
theorem exists_first_of_not_noneOf {count : Nat} (h : ¬ NoneOf answers count) :
    ∃ s < count, answers s = .ok true ∧ NoneOf answers s := by
  rw [noneOf_iff_isLeast] at h
  push Not at h
  obtain ⟨s, hleast, hlt⟩ := h
  exact ⟨s, hlt, hleast.1, noneOf_of_isLeast hleast⟩

/-- A wait makes no more checks than its budget has room for. -/
theorem run_checks_le (n : Nat) :
    ((ticks budget service answers n new).1.run budget service answers).checks ≤ budget.room := by
  by_cases hnone : NoneOf answers budget.room
  · exact (run_of_none service n hnone).1.le
  · obtain ⟨s, hroom, hsuccess, hbefore⟩ := exists_first_of_not_noneOf hnone
    have hchecks := (run_of_success service n hsuccess hbefore hroom).2
    omega

/-- A wait is initialized exactly if one of the answers that there is room for is a success. -/
theorem run_initialized_iff (n : Nat) :
    ((ticks budget service answers n new).1.run budget service answers).outcome = .initialized ↔
      ∃ k < budget.room, answers k = .ok true := by
  constructor
  · intro houtcome
    obtain ⟨s, -, hroom, hsuccess, -⟩ := success_of_run service houtcome
    exact ⟨s, hroom, hsuccess⟩
  · rintro ⟨k, hroom, hsuccess⟩
    have hnone : ¬ NoneOf answers budget.room := fun hnone => hnone k hroom hsuccess
    obtain ⟨s, hfirst, hsuccess, hbefore⟩ := exists_first_of_not_noneOf hnone
    exact (run_of_success service n hsuccess hbefore hfirst).1

/-- How a wait ends, and after how many checks, depends on nothing but which answers are successes. -/
theorem run_of_same_successes {other : Answers} (hsame : ∀ k, other k = .ok true ↔ answers k = .ok true) (n : Nat) :
    ((ticks budget service other n new).1.run budget service other).outcome =
        ((ticks budget service answers n new).1.run budget service answers).outcome ∧
      ((ticks budget service other n new).1.run budget service other).checks =
        ((ticks budget service answers n new).1.run budget service answers).checks := by
  have hnoneOf (count : Nat) : NoneOf other count ↔ NoneOf answers count := by
    simp only [NoneOf, ne_eq, hsame]
  by_cases hnone : NoneOf answers budget.room
  · obtain ⟨hchecks, houtcome⟩ := run_of_none service n hnone
    obtain ⟨hchecks', houtcome'⟩ := run_of_none service n ((hnoneOf _).mpr hnone)
    exact ⟨houtcome'.trans houtcome.symm, hchecks'.trans hchecks.symm⟩
  · obtain ⟨s, hroom, hsuccess, hbefore⟩ := exists_first_of_not_noneOf hnone
    obtain ⟨houtcome, hchecks⟩ := run_of_success service n hsuccess hbefore hroom
    obtain ⟨houtcome', hchecks'⟩ :=
      run_of_success service n ((hsame s).mpr hsuccess) ((hnoneOf s).mpr hbefore) hroom
    exact ⟨houtcome'.trans houtcome.symm, hchecks'.trans hchecks.symm⟩

variable (budget answers) in
/-- An error counts as a "not yet": it neither ends a wait nor changes how long it lasts. -/
theorem run_withoutErrors (n : Nat) :
    ((ticks budget service answers.withoutErrors n new).1.run budget service answers.withoutErrors).outcome =
        ((ticks budget service answers n new).1.run budget service answers).outcome ∧
      ((ticks budget service answers.withoutErrors n new).1.run budget service answers.withoutErrors).checks =
        ((ticks budget service answers n new).1.run budget service answers).checks :=
  run_of_same_successes service answers.withoutErrors_eq_true_iff n

/-- A wait, ticked any number of times before it is run to its end, succeeds with the first success if that comes while
the budget has room, and then no sum of times is too long. Otherwise it makes as many checks as there is room for, and
ends because the time is up or, if that time cannot be counted, with the check that uses the last room. Errors make no
difference to this. -/
theorem run_after_ticks (budget : Budget) (service : String) (answers : Answers) (output : Output) (n : Nat) :
    let room := {k : Nat | k * budget.interval.nanos < budget.maxWait.nanos}.ncard
    let after (m : Nat) : Poller := (ticks budget service answers m new).1
    let run := (after n).run budget service answers
    let result := Client.waitResult budget output run.outcome
    let patient := (ticks budget service answers.withoutErrors n new).1.run budget service answers.withoutErrors
    (∀ s, IsLeast {k : Nat | answers k = .ok true} s → s < room →
      result = .ok output ∧ run.checks = s + 1 ∧ ∀ m, (after m).state ≠ .overflowed) ∧
    ((∀ s, IsLeast {k : Nat | answers k = .ok true} s → room ≤ s) →
      run.checks = room ∧
      (room * budget.interval.nanos < Duration.limit → result = .error (.failed (.initTimeout budget.maxWait))) ∧
      (Duration.limit ≤ room * budget.interval.nanos →
        result = .error .overflowed ∧ ∀ m, (after m).state = .overflowed ↔ room ≤ m)) ∧
    Client.waitResult budget output patient.outcome = result ∧ patient.checks = run.checks := by
  intro room after run result patient
  have hcount : room = budget.room := budget.ncard_multiples_below
  refine ⟨?_, ?_, ?_⟩
  · intro s hleast hroom
    rw [hcount] at hroom
    obtain ⟨houtcome, hchecks⟩ := run_of_success service n hleast.1 (noneOf_of_isLeast hleast) hroom
    have hresult : result = .ok output := by
      change Client.waitResult budget output run.outcome = .ok output
      rw [houtcome]
      rfl
    exact ⟨hresult, hchecks, ticks_ne_overflowed service hleast.1 hroom⟩
  · intro hlate
    rw [hcount, ← noneOf_iff_isLeast] at hlate
    obtain ⟨hchecks, houtcome⟩ := run_of_none service n hlate
    rw [hcount]
    refine ⟨hchecks, ?_, ?_⟩
    · intro hlimit
      change Client.waitResult budget output run.outcome = _
      rw [houtcome, if_pos hlimit]
      rfl
    · intro hlimit
      refine ⟨?_, ticks_overflowed_iff service hlate hlimit⟩
      change Client.waitResult budget output run.outcome = _
      rw [houtcome, if_neg (Nat.not_lt.mpr hlimit)]
      rfl
  · obtain ⟨houtcome, hchecks⟩ := run_withoutErrors budget service answers n
    exact ⟨congrArg (Client.waitResult budget output) houtcome, hchecks⟩

/-- An error and a "not yet" before a success: with room for five checks and one tick ahead of the run, the third check
is the last. -/
theorem run_after_tick_of_third_success (output : Output) :
    let budget : Budget := ⟨.ofSeconds 10, .ofSeconds 45, by decide⟩
    let answers : Answers := fun k => if k = 0 then .error ⟨.network, "connection reset"⟩ else .ok (k == 2)
    let run := (ticks budget "svc" answers 1 new).1.run budget "svc" answers
    Client.waitResult budget output run.outcome = .ok output ∧ run.checks = 3 := by
  intro budget answers run
  have hroom : budget.room = 5 := by decide
  have hleast : IsLeast {k : Nat | answers k = .ok true} 2 := by
    refine ⟨rfl, fun k hk => ?_⟩
    by_contra hlt
    have hcases : k = 0 ∨ k = 1 := by omega
    rcases hcases with rfl | rfl <;> simp [answers] at hk
  have hresult := (run_after_ticks budget "svc" answers output 1).1 2 hleast
    (by rw [budget.ncard_multiples_below, hroom]; decide)
  exact ⟨hresult.1, hresult.2.1⟩

end Poller

end ServiceCatalog.Wait
