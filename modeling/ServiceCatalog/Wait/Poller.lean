import ServiceCatalog.RemoteError
import ServiceCatalog.Wait.Budget
import ServiceCatalog.Wait.Event

/-!
# Waiting for a service

A poller asks at fixed intervals whether a service is initialized. Time is counted in intervals, and the service is
asked only while the time counted so far is below the longest wait. An error is passed over like a "not yet". The
answers are given by a function of how often the service was asked before.
-/

namespace ServiceCatalog.Wait

/-- Where a wait stands. -/
inductive Poller.State where
  | polling (elapsed : Duration)
  | initialized
  | timedOut
  /-- The time that has passed cannot be counted any more. -/
  | overflowed
deriving DecidableEq

/-- Whether a wait is over. -/
def Poller.State.isTerminal : Poller.State → Bool
  | polling _ => false
  | _ => true

/-- A wait under way: where it stands, the number of the last attempt, and how often the service was asked. -/
structure Poller where
  state : Poller.State := .polling .zero
  attempts : UInt32 := 0
  checks : Nat := 0
deriving DecidableEq

/-- What a service that is asked for answers, by how often it was asked before. -/
abbrev Answers := Nat → Except RemoteError Bool

namespace Poller

/-- A wait that begins. -/
def new : Poller := {}

/-- Where a wait stands one interval after a time that was still within it. -/
def afterInterval (budget : Budget) (elapsed : Duration) : State :=
  match elapsed.add? budget.interval with
  | none => .overflowed
  | some now => if budget.maxWait.nanos ≤ now.nanos then .timedOut else .polling now

/-- The state that an answer leads to. -/
def afterAnswer (budget : Budget) (elapsed : Duration) : Except RemoteError Bool → State
  | .ok true => .initialized
  | _ => afterInterval budget elapsed

/-- An answer that is no success counts as a "not yet". -/
theorem afterAnswer_of_ne {budget : Budget} {elapsed : Duration} {answer : Except RemoteError Bool}
    (h : answer ≠ .ok true) : afterAnswer budget elapsed answer = afterInterval budget elapsed := by
  unfold afterAnswer
  split
  · exact absurd rfl h
  · rfl

/-- What is reported of one attempt. -/
def attemptEvents (service : String) (attempt : UInt32) (elapsed : Duration) : Except RemoteError Bool → List Event
  | .ok _ => [.polling service attempt elapsed]
  | .error e => [.polling service attempt elapsed, .transientError service attempt e.describe]

/-- Asks once, if the wait is not over. -/
def tick (budget : Budget) (service : String) (answers : Answers) (p : Poller) : Poller × List Event :=
  match p.state with
  | .polling elapsed =>
    if budget.maxWait.nanos ≤ elapsed.nanos then ({ p with state := .timedOut }, [])
    else
      let answer := answers p.checks
      let attempt := p.attempts + 1
      (⟨afterAnswer budget elapsed answer, attempt, p.checks + 1⟩, attemptEvents service attempt elapsed answer)
  | _ => (p, [])

theorem checks_tick_le {budget : Budget} {service : String} {answers : Answers} (p : Poller) :
    (p.tick budget service answers).1.checks ≤ p.checks + 1 := by
  unfold tick
  split
  · split <;> simp
  · exact Nat.le_succ p.checks

/-- A wait that goes on after a tick went on before it, and made a check without success. -/
theorem tick_polling_inv {budget : Budget} {service : String} {answers : Answers} {p : Poller} {now : Duration}
    (h : (p.tick budget service answers).1.state = .polling now) :
    ∃ elapsed, p.state = .polling elapsed ∧ elapsed.nanos < budget.maxWait.nanos ∧
      afterAnswer budget elapsed (answers p.checks) = .polling now ∧
      (p.tick budget service answers).1.checks = p.checks + 1 := by
  obtain ⟨state, attempts, checks⟩ := p
  cases state with
  | polling elapsed =>
    by_cases hle : budget.maxWait.nanos ≤ elapsed.nanos
    · simp [tick, hle] at h
    · simp only [tick, hle, if_false] at h
      exact ⟨elapsed, rfl, by omega, h, by simp [tick, hle]⟩
  | initialized => simp [tick] at h
  | timedOut => simp [tick] at h
  | overflowed => simp [tick] at h

/-- The time that is left of a wait. -/
def remaining (budget : Budget) (p : Poller) : Nat :=
  match p.state with
  | .polling elapsed => budget.maxWait.nanos - elapsed.nanos
  | _ => 0

theorem afterInterval_polling {budget : Budget} {elapsed now : Duration}
    (h : afterInterval budget elapsed = .polling now) :
    now.nanos = elapsed.nanos + budget.interval.nanos ∧ now.nanos < budget.maxWait.nanos := by
  unfold afterInterval at h
  split at h
  · cases h
  · rename_i sum hsum
    split at h
    · cases h
    · cases h
      exact ⟨Duration.nanos_add hsum, by omega⟩

theorem afterAnswer_polling {budget : Budget} {elapsed now : Duration} {answer : Except RemoteError Bool}
    (h : afterAnswer budget elapsed answer = .polling now) :
    now.nanos = elapsed.nanos + budget.interval.nanos ∧ now.nanos < budget.maxWait.nanos := by
  unfold afterAnswer at h
  split at h
  · cases h
  · exact afterInterval_polling h

/-- A wait that goes on after an attempt has less time left. -/
theorem remaining_tick_lt {budget : Budget} {service : String} {answers : Answers} {p : Poller} {now : Duration}
    (h : (p.tick budget service answers).1.state = .polling now) :
    (p.tick budget service answers).1.remaining budget < p.remaining budget := by
  obtain ⟨elapsed, hstate, hlt, hafter, -⟩ := tick_polling_inv h
  have hnow := afterAnswer_polling hafter
  have hpos := budget.interval_pos
  simp only [remaining, h, hstate]
  omega

/-- How a wait ends. -/
inductive Outcome where
  | initialized
  | timedOut
  | overflowed
deriving DecidableEq, Repr

/-- A wait from some point to its end: how it ends, how often the service was asked in all, and what is reported. -/
structure Run where
  outcome : Outcome
  checks : Nat
  events : List Event
deriving DecidableEq

/-- Asks until the wait is over. `elapsed` is the time counted since this began, which is reported at the end. -/
def finish (budget : Budget) (service : String) (answers : Answers) (elapsed : Duration) (p : Poller) : Run :=
  let r := p.tick budget service answers
  match h : r.1.state with
  | .polling now =>
    let rest := finish budget service answers now r.1
    { rest with events := r.2 ++ rest.events }
  | .initialized => ⟨.initialized, r.1.checks, r.2 ++ [.initialized service elapsed]⟩
  | .timedOut => ⟨.timedOut, r.1.checks, r.2 ++ [.timedOut service budget.maxWait]⟩
  | .overflowed => ⟨.overflowed, r.1.checks, r.2⟩
termination_by p.remaining budget
decreasing_by exact remaining_tick_lt h

/-- Runs a wait to its end. -/
def run (budget : Budget) (service : String) (answers : Answers) (p : Poller) : Run :=
  let rest := p.finish budget service answers .zero
  { rest with events := .started service :: rest.events }

end Poller

end ServiceCatalog.Wait
