import ServiceCatalog.Duration
import ServiceCatalog.Violation

/-!
# How long to wait
-/

namespace ServiceCatalog.Wait

/-- How often to ask for a service that is not yet initialized, and for how long. -/
structure Budget where
  interval : Duration
  maxWait : Duration
  interval_pos : 0 < interval.nanos

/-- A budget, unless its interval is empty. -/
def Budget.new (interval maxWait : Duration) : Except Violation Budget :=
  if h : 0 < interval.nanos then .ok ⟨interval, maxWait, h⟩ else .error .noInterval

/-- Every budget is accepted: its interval is not empty, and nothing else is asked of it. -/
theorem Budget.new_eq_ok_iff {interval maxWait : Duration} {budget : Budget} :
    Budget.new interval maxWait = .ok budget ↔ budget.interval = interval ∧ budget.maxWait = maxWait := by
  obtain ⟨i, w, hpos⟩ := budget
  unfold Budget.new
  split
  · simp [eq_comm]
  · rename_i hzero
    simp only [reduceCtorEq, false_iff, not_and]
    rintro rfl
    exact absurd hpos hzero

end ServiceCatalog.Wait
