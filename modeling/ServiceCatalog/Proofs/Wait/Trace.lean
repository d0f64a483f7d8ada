import ServiceCatalog.Proofs.Wait.Run
import ServiceCatalog.Wait.Spinner

/-!
# What waits report

Each check of a wait reports itself with its number and the time before it, and its error if it fails. A run reports its
beginning, the checks that earlier ticks have not reported yet, and its end. A success is reported with the time before
its check only if the run made another check first.
-/

namespace ServiceCatalog

theorem Duration.eq_of_nanos {a b : Duration} (h : a.nanos = b.nanos) : a = b := by
  cases a
  cases b
  simpa using h

namespace Wait

/-- The time counted before a check. It stands still at the longest span there is. -/
def Budget.timeBefore (budget : Budget) (check : Nat) : Duration where
  nanos := min (check * budget.interval.nanos) (Duration.limit - 1)
  bounded := by
    have hlimit : 0 < Duration.limit := by decide
    omega

theorem Budget.nanos_timeBefore {budget : Budget} {check : Nat} (h : check < budget.room) :
    (budget.timeBefore check).nanos = check * budget.interval.nanos := by
  have hbelow := (budget.lt_room_iff check).mp h
  have hbounded := budget.maxWait.bounded
  exact Nat.min_eq_left (by omega)

namespace Poller

variable (budget : Budget) (service : String) (answers : Answers)

theorem events_ticks_succ (n : Nat) (p : Poller) :
    (ticks budget service answers (n + 1) p).2 =
      (ticks budget service answers n p).2 ++ ((ticks budget service answers n p).1.tick budget service answers).2 := by
  induction n generalizing p with
  | zero => simp [ticks]
  | succ n ih =>
    have hrest := ih (p.tick budget service answers).1
    have hsplit (m : Nat) : (ticks budget service answers (m + 1) p).2 =
        (p.tick budget service answers).2 ++ (ticks budget service answers m (p.tick budget service answers).1).2 := rfl
    rw [hsplit (n + 1), hrest, hsplit n, List.append_assoc]
    rfl

theorem events_ticks_add (m n : Nat) (p : Poller) :
    (ticks budget service answers (m + n) p).2 = (ticks budget service answers m p).2 ++
      (ticks budget service answers n (ticks budget service answers m p).1).2 := by
  induction n with
  | zero => simp [ticks]
  | succ n ih => rw [← Nat.add_assoc, events_ticks_succ, events_ticks_succ, ih, ticks_add, List.append_assoc]

/-- What is reported of a check, by how many checks were made before it. -/
def checkEvents (k : Nat) : List Event :=
  attemptEvents service (.ofNat (k + 1)) (budget.timeBefore k) (answers k)

theorem not_ends_of_mem_checkEvents {k : Nat} {event : Event} (h : event ∈ checkEvents budget service answers k) :
    Spinner.ends event = false := by
  unfold checkEvents attemptEvents at h
  split at h
  · obtain rfl := List.mem_singleton.mp h
    rfl
  · rcases List.mem_pair.mp h with rfl | rfl <;> rfl

variable {budget answers}

/-- A tick makes the next check and reports it, or it does neither. -/
theorem Consistent.events_tick {p : Poller} (hconsistent : p.Consistent budget answers)
    (hattempts : p.attempts = .ofNat p.checks) :
    (p.tick budget service answers).1.attempts = .ofNat (p.tick budget service answers).1.checks ∧
      ((p.tick budget service answers).1.checks = p.checks ∧ (p.tick budget service answers).2 = [] ∨
        (p.tick budget service answers).1.checks = p.checks + 1 ∧
          (p.tick budget service answers).2 = checkEvents budget service answers p.checks) := by
  obtain ⟨state, attempts, checks⟩ := p
  cases state with
  | initialized => exact ⟨hattempts, Or.inl ⟨rfl, rfl⟩⟩
  | timedOut => exact ⟨hattempts, Or.inl ⟨rfl, rfl⟩⟩
  | overflowed => exact ⟨hattempts, Or.inl ⟨rfl, rfl⟩⟩
  | polling elapsed =>
    obtain ⟨helapsed, -, -⟩ := hconsistent
    dsimp only at helapsed hattempts
    by_cases hle : budget.maxWait.nanos ≤ elapsed.nanos
    · have htick : Poller.tick budget service answers ⟨.polling elapsed, attempts, checks⟩ =
          (⟨.timedOut, attempts, checks⟩, []) := if_pos hle
      rw [htick]
      exact ⟨hattempts, Or.inl ⟨rfl, rfl⟩⟩
    · have hroom : checks < budget.room := by
        rw [budget.lt_room_iff]
        omega
      have htime : elapsed = budget.timeBefore checks :=
        Duration.eq_of_nanos (helapsed.trans (Budget.nanos_timeBefore hroom).symm)
      have hnext : attempts + 1 = .ofNat (checks + 1) := by
        rw [hattempts, UInt32.ofNat_add]
        rfl
      have htick : Poller.tick budget service answers ⟨.polling elapsed, attempts, checks⟩ =
          (⟨afterAnswer budget elapsed (answers checks), .ofNat (checks + 1), checks + 1⟩,
            checkEvents budget service answers checks) := by
        rw [checkEvents, ← htime, ← hnext]
        exact if_neg hle
      rw [htick]
      exact ⟨rfl, Or.inr ⟨rfl, rfl⟩⟩

variable (budget answers)

/-- The ticks of a new wait report its checks, one after another. -/
theorem events_ticks (n : Nat) :
    (ticks budget service answers n new).1.attempts = .ofNat (ticks budget service answers n new).1.checks ∧
      (ticks budget service answers n new).2 =
        (List.range (ticks budget service answers n new).1.checks).flatMap (checkEvents budget service answers) := by
  induction n with
  | zero => exact ⟨rfl, rfl⟩
  | succ n ih =>
    obtain ⟨hattempts, hevents⟩ := ih
    obtain ⟨hnumbered, htick⟩ :=
      (consistent_ticks budget service answers n).events_tick service hattempts
    rw [ticks_succ, events_ticks_succ, hevents]
    refine ⟨hnumbered, ?_⟩
    obtain ⟨hchecks, hnothing⟩ | ⟨hchecks, hcheck⟩ := htick
    · rw [hchecks, hnothing, List.append_nil]
    · rw [hchecks, hcheck, List.range_succ, List.flatMap_append, List.flatMap_singleton]

/-- A run reports its beginning, then what its ticks report, then its end. Together with the ticks before it all checks
are reported. The time that stands at the end of a success is the one before its check if the run made another check
first; otherwise no time has passed for the run. -/
theorem events_run {n : Nat} {run : Run}
    (hrun : run = (ticks budget service answers n new).1.run budget service answers) :
    ∃ meanwhile reported,
      run.events = .started service :: (meanwhile ++ ending budget service reported run.outcome) ∧
      (ticks budget service answers n new).2 ++ meanwhile =
        (List.range run.checks).flatMap (checkEvents budget service answers) ∧
      ∀ s, run.outcome = .initialized → run.checks = s + 1 →
        reported = if n < s then budget.timeBefore s else .zero := by
  subst hrun
  obtain ⟨m, reported, -, hchecks, hevents, hreported⟩ :=
    finish_eq_ticks budget service answers .zero (ticks budget service answers n new).1
  rw [← ticks_add] at hchecks
  refine ⟨(ticks budget service answers (m + 1) (ticks budget service answers n new).1).2, reported,
    congrArg (Event.started service :: ·) hevents, ?_, ?_⟩
  · have hall := (events_ticks budget service answers (n + (m + 1))).2
    rwa [events_ticks_add, hchecks] at hall
  · intro s hinitialized hs
    obtain ⟨first, hfirst, hroom, hsuccess, -⟩ := success_of_run service hinitialized
    obtain rfl : first = s := Nat.succ_inj.mp (hfirst.symm.trans hs)
    have hle := checks_ticks_le budget service answers (n + (m + 1))
    have hcount : (ticks budget service answers (n + (m + 1)) new).1.checks = first + 1 := hchecks.trans hs
    obtain ⟨rfl, rfl⟩ | ⟨hpos, hpolling⟩ := hreported
    · rw [if_neg (by omega)]
    · -- The checks before the last tick were no successes, so that the success is the check of the last tick.
      rw [← ticks_add] at hpolling
      have hbefore := checks_ticks hpolling
      have hconsistent := consistent_ticks budget service answers (n + m)
      simp only [Consistent, hpolling, hbefore] at hconsistent
      obtain ⟨htime, -, hnone⟩ := hconsistent
      have hlater : ¬ first < n + m := fun hlt => hnone first hlt hsuccess
      have hlast : n + m = first := by omega
      rw [if_pos (by omega)]
      apply Duration.eq_of_nanos
      rw [htime, Budget.nanos_timeBefore hroom, hlast]

variable {budget answers}

/-- What a run of a new wait reports, unless it makes so many checks that they cannot be numbered or takes so long that
its time cannot be counted: its beginning; every check with its number and the time before it, followed by an error
exactly if the check failed; and once, at last, how it ended. -/
theorem events_run_new (hnumbered : (new.run budget service answers).checks < 2 ^ 32)
    (hcounted : (new.run budget service answers).outcome ≠ .overflowed) :
    let run := new.run budget service answers
    ∃ (attempt : Nat → UInt32) (elapsed : Nat → Duration) (terminal : Event),
      (∀ k < run.checks, (attempt k).toNat = k + 1 ∧ (elapsed k).nanos = k * budget.interval.nanos) ∧
      run.events = .started service ::
        ((List.range run.checks).flatMap (fun k => .polling service (attempt k) (elapsed k) ::
          match answers k with
          | .ok _ => []
          | .error e => [.transientError service (attempt k) (e.kind.name ++ ": " ++ e.message)]) ++ [terminal]) ∧
      (run.outcome = .initialized ∧ 0 < run.checks ∧ terminal = .initialized service (elapsed (run.checks - 1)) ∨
        run.outcome = .timedOut ∧ terminal = .timedOut service budget.maxWait) := by
  intro run
  obtain ⟨meanwhile, reported, hevents, hmeanwhile, hreported⟩ :=
    events_run budget service answers (n := 0) (rfl : run = _)
  change [] ++ meanwhile = _ at hmeanwhile
  rw [List.nil_append] at hmeanwhile
  subst hmeanwhile
  have hcheck : checkEvents budget service answers = fun k => .polling service (.ofNat (k + 1)) (budget.timeBefore k) ::
      match answers k with
      | .ok _ => []
      | .error e => [.transientError service (.ofNat (k + 1)) (e.kind.name ++ ": " ++ e.message)] := by
    funext k
    unfold checkEvents attemptEvents
    cases answers k <;> rfl
  have hroom : run.checks ≤ budget.room := run_checks_le service 0
  have hnumbers : ∀ k < run.checks, (UInt32.ofNat (k + 1)).toNat = k + 1 ∧
      (budget.timeBefore k).nanos = k * budget.interval.nanos := by
    intro k hk
    have hsize : k + 1 < UInt32.size := lt_of_le_of_lt hk hnumbered
    exact ⟨UInt32.toNat_ofNat_of_lt' hsize, Budget.nanos_timeBefore (by omega)⟩
  refine ⟨fun k => .ofNat (k + 1), budget.timeBefore, ?_⟩
  cases houtcome : run.outcome with
  | initialized =>
    obtain ⟨s, hs, hlt, -, -⟩ := success_of_run (n := 0) service houtcome
    change run.checks = s + 1 at hs
    have htime : reported = budget.timeBefore s := by
      rw [hreported s houtcome hs]
      split
      · rfl
      · obtain rfl : s = 0 := by omega
        exact Duration.eq_of_nanos (by simp [Budget.nanos_timeBefore hlt, Duration.zero])
    refine ⟨.initialized service (budget.timeBefore s), hnumbers, ?_, Or.inl ⟨rfl, by omega, by rw [hs]; rfl⟩⟩
    rw [hevents, houtcome, hcheck, htime]
    rfl
  | timedOut =>
    refine ⟨.timedOut service budget.maxWait, hnumbers, ?_, Or.inr ⟨rfl, rfl⟩⟩
    rw [hevents, houtcome, hcheck]
    rfl
  | overflowed => exact absurd houtcome hcounted

/-- An error and a "not yet" before a success: the error is reported with its check, and the success with the time
before the third check. -/
theorem events_run_new_of_third_success :
    let budget : Budget := ⟨.ofSeconds 10, .ofSeconds 45, by decide⟩
    let answers : Answers := fun k => if k = 0 then .error ⟨.network, "connection reset"⟩ else .ok (k == 2)
    (new.run budget "svc" answers).events =
      [.started "svc", .polling "svc" 1 .zero, .transientError "svc" 1 "network error: connection reset",
        .polling "svc" 2 (.ofSeconds 10), .polling "svc" 3 (.ofSeconds 20), .initialized "svc" (.ofSeconds 20)] := by
  intro budget answers
  have hnone : NoneOf answers 2 := by
    intro k hk
    have hcases : k = 0 ∨ k = 1 := by omega
    rcases hcases with rfl | rfl <;> decide
  have hroom : 2 < budget.room := by decide
  obtain ⟨houtcome, hchecks⟩ := run_of_success "svc" 0 (rfl : answers 2 = .ok true) hnone hroom
  change (new.run budget "svc" answers).outcome = _ at houtcome
  change (new.run budget "svc" answers).checks = 3 at hchecks
  have hnumbered : (new.run budget "svc" answers).checks < 2 ^ 32 := by
    rw [hchecks]
    decide
  have hcounted : (new.run budget "svc" answers).outcome ≠ .overflowed := by
    rw [houtcome]
    decide
  obtain ⟨attempt, elapsed, terminal, hnumbers, hevents, ⟨-, -, rfl⟩ | ⟨htimedOut, -⟩⟩ :=
    events_run_new "svc" hnumbered hcounted
  · rw [hchecks] at hnumbers hevents
    have hattempt (k : Nat) (hk : k < 3) : attempt k = .ofNat (k + 1) := by
      apply UInt32.toNat_inj.mp
      rw [(hnumbers k hk).1, UInt32.toNat_ofNat_of_lt' (show k + 1 < 4294967296 by omega)]
    have helapsed (k : Nat) (hk : k < 3) : elapsed k = .ofSeconds (.ofNat (10 * k)) := by
      apply Duration.eq_of_nanos
      rw [(hnumbers k hk).2]
      have hcases : k = 0 ∨ k = 1 ∨ k = 2 := by omega
      rcases hcases with rfl | rfl | rfl <;> decide
    change (new.run budget "svc" answers).events = [.started "svc", .polling "svc" (attempt 0) (elapsed 0),
      .transientError "svc" (attempt 0) ("network error" ++ ": " ++ "connection reset"),
      .polling "svc" (attempt 1) (elapsed 1), .polling "svc" (attempt 2) (elapsed 2),
      .initialized "svc" (elapsed 2)] at hevents
    rw [hevents, hattempt 0 (by decide), hattempt 1 (by decide), hattempt 2 (by decide), helapsed 0 (by decide),
      helapsed 1 (by decide), helapsed 2 (by decide)]
    decide
  · rw [houtcome] at htimedOut
    cases htimedOut

/-- A run that succeeds reports a time at its end that is the one of the successful check exactly if the run made a
check before that one, or if it was the first of all. If the ticks before the run made all checks but the last, or all
of them, the time at the end is none at all. -/
theorem run_elapsed_iff {n : Nat}
    (hinitialized : ((ticks budget service answers n new).1.run budget service answers).outcome = .initialized) :
    let before := ticks budget service answers n new
    let run := before.1.run budget service answers
    ∃ s elapsed reported earlier meanwhile,
      IsLeast {k : Nat | answers k = .ok true} s ∧ run.checks = s + 1 ∧
      run.events = .started service :: (meanwhile ++ [.initialized service reported]) ∧
      (∀ event ∈ meanwhile, Spinner.ends event = false) ∧
      before.2 ++ meanwhile = earlier ++ [.polling service (.ofNat (s + 1)) elapsed] ∧
      elapsed.nanos = s * budget.interval.nanos ∧
      reported.nanos = (if n < s then s * budget.interval.nanos else 0) ∧
      (reported = elapsed ↔ n < s ∨ s = 0) := by
  intro before run
  obtain ⟨meanwhile, reported, hevents, hall, hreported⟩ := events_run budget service answers (n := n) (rfl : run = _)
  have houtcome : run.outcome = .initialized := hinitialized
  obtain ⟨s, hs, hroom, hsuccess, hnone⟩ := success_of_run service hinitialized
  change run.checks = s + 1 at hs
  have hleast : IsLeast {k : Nat | answers k = .ok true} s :=
    ⟨hsuccess, fun k hk => Nat.not_lt.mp fun hlt => hnone k hlt hk⟩
  have hlast : checkEvents budget service answers s =
      [.polling service (.ofNat (s + 1)) (budget.timeBefore s)] := by
    unfold checkEvents
    rw [hsuccess]
    rfl
  have htime : (budget.timeBefore s).nanos = s * budget.interval.nanos := Budget.nanos_timeBefore hroom
  have hnanos : reported.nanos = if n < s then s * budget.interval.nanos else 0 := by
    rw [hreported s houtcome hs, ← htime]
    split <;> rfl
  refine ⟨s, budget.timeBefore s, reported, (List.range s).flatMap (checkEvents budget service answers), meanwhile,
    hleast, hs, ?_, ?_, ?_, htime, hnanos, ?_⟩
  · rw [hevents, houtcome]
    rfl
  · intro event hevent
    have hmem : event ∈ before.2 ++ meanwhile := List.mem_append_right _ hevent
    rw [hall] at hmem
    obtain ⟨k, -, hk⟩ := List.mem_flatMap.mp hmem
    exact not_ends_of_mem_checkEvents budget service answers hk
  · rw [hall, hs, List.range_succ, List.flatMap_append, List.flatMap_singleton, hlast]
  · have hpos := budget.interval_pos
    constructor
    · intro heq
      rw [heq, htime] at hnanos
      by_contra hneither
      have hne : 0 < s * budget.interval.nanos := Nat.mul_pos (by omega) hpos
      rw [if_neg (by omega)] at hnanos
      omega
    · rintro (hlt | rfl)
      · exact Duration.eq_of_nanos (by rw [hnanos, htime, if_pos hlt])
      · exact Duration.eq_of_nanos (by rw [hnanos, htime]; simp)

/-- A "not yet" for a tick and a success for the run after it: the run says at its end that no time has passed, though
its check was made after ten seconds. -/
theorem run_elapsed_of_tick_before_success :
    let budget : Budget := ⟨.ofSeconds 10, .ofSeconds 60, by decide⟩
    let answers : Answers := fun k => .ok (k == 1)
    let before := ticks budget "svc" answers 1 new
    ∃ elapsed reported earlier meanwhile,
      (before.1.run budget "svc" answers).events = .started "svc" :: (meanwhile ++ [.initialized "svc" reported]) ∧
      before.2 ++ meanwhile = earlier ++ [.polling "svc" 2 elapsed] ∧
      elapsed.seconds = 10 ∧ reported.seconds = 0 ∧ reported ≠ elapsed := by
  intro budget answers before
  have hnone : NoneOf answers 1 := by
    intro k hk
    obtain rfl : k = 0 := by omega
    decide
  have hfirst : IsLeast {k : Nat | answers k = .ok true} 1 :=
    ⟨rfl, fun k hk => Nat.not_lt.mp fun hlt => hnone k hlt hk⟩
  have hroom : 1 < budget.room := by decide
  have hinitialized := (run_of_success "svc" 1 (rfl : answers 1 = .ok true) hnone hroom).1
  obtain ⟨s, elapsed, reported, earlier, meanwhile, hleast, -, hevents, -, hsplit, helapsed, hreported, hiff⟩ :=
    run_elapsed_iff "svc" hinitialized
  obtain rfl : s = 1 := hleast.unique hfirst
  refine ⟨elapsed, reported, earlier, meanwhile, hevents, hsplit, ?_, ?_, ?_⟩
  · rw [Duration.seconds, helapsed]
    decide
  · rw [Duration.seconds, hreported]
    decide
  · intro heq
    have hneither := hiff.mp heq
    omega

end Poller

end Wait

end ServiceCatalog
