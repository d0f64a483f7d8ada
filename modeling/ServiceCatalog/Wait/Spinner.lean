import ServiceCatalog.Wait.Event

/-!
# The spinner

What is shown while a service is waited for. An end of the wait finishes the spinner for good and keeps its text.
-/

namespace ServiceCatalog.Wait

/-- A text with a moving sign beside it until it is finished. -/
structure Spinner where
  message : String := ""
  finished : Bool := false
deriving DecidableEq, Repr

namespace Spinner

/-- The text that an event puts beside the sign. -/
def message? : Event → Option String
  | .started service => some s!"Waiting for {service} to initialize"
  | .polling service attempt elapsed =>
    some s!"Waiting for {service} to initialize (check {attempt.toNat}, {elapsed.seconds}s elapsed)"
  | .transientError service attempt text => some s!"Waiting for {service}: check {attempt.toNat} failed: {text}"
  | .initialized _ _ => none
  | .timedOut _ _ => none

/-- Whether an event ends a wait. -/
def ends : Event → Bool
  | .initialized _ _ => true
  | .timedOut _ _ => true
  | _ => false

/-- The spinner after an event. -/
def apply (s : Spinner) (event : Event) : Spinner := ⟨(message? event).getD s.message, s.finished || ends event⟩

/-- The spinner before a list of events and after each of them. -/
def states (s : Spinner) : List Event → List Spinner
  | [] => [s]
  | event :: rest => s :: states (s.apply event) rest

end Spinner

end ServiceCatalog.Wait
