import PowerDiscovery.Budget.Basic
import PowerDiscovery.CommandLine.Arguments
import PowerDiscovery.Discovery.Engine
import PowerDiscovery.Range.Registry
import PowerDiscovery.Slots

/-! # The state of a run

A run goes through its phases in one order.  Its state is what the phases hand on to each other: the
ranges, the budget at the gate, the result slots, and which backends take part. -/

namespace PowerDiscovery.Run

inductive Phase where
  | configuring
  | dispatching
  | awaitingCompletion
  | rendering
  | done
deriving DecidableEq, Repr

def Phase.name : Phase → String
  | .configuring => "configuring"
  | .dispatching => "dispatching"
  | .awaitingCompletion => "awaiting_completion"
  | .rendering => "rendering"
  | .done => "done"

/-- What the surroundings of a run may do to its workers: keep one from being started as a task of its
own, or spoil the storing of its devices. -/
structure Hazards where
  start : Backend → Option Fault := fun _ => none
  store : Backend → Option Fault := fun _ => none

/-- What a run is to do, and with which engines.  In a run whose workers go on together, `turns` says
whose worker makes the next step; when it is used up, the workers that are left go on one by one. -/
structure Plan where
  settings : Settings
  requested : List Backend := []
  scanAll : Bool := false
  engines : Engines
  hazards : Hazards := {}
  turns : List Backend := []

/-- What the phases of a run hand on.  `passed` are the phases that the run has left, in their order. -/
structure State where
  phase : Phase := .configuring
  passed : List Phase := []
  registry : Registry
  bench : Budget.AtGate
  slots : Slots := {}
  enabled : List Backend := []
  unavailable : Backend → Bool := fun _ => false

inductive Error where
  | usage (cause : CommandLine.UsageError)
  | budget (cause : Budget.Error)
  | unknownMode (shown : String)
  | fault (cause : Fault)

def Error.message : Error → String
  | .usage cause => cause.message
  | .budget cause => cause.message
  | .unknownMode shown => DisplayMode.unknownMessage shown
  | .fault cause => cause.message

namespace State

def enter (s : State) (phase : Phase) : Action State := do
  Action.debug s!"Scan state {s.phase.name} -> {phase.name}"
  return { s with phase := phase, passed := s.passed ++ [s.phase] }

def disable (s : State) (b : Backend) : State :=
  { s with unavailable := Backend.updated s.unavailable b true }

def openBudget (s : State) : Action (Except Budget.Error State) := do
  match ← Action.ofLogged s.bench.openUp with
  | .error e => return .error e
  | .ok bench => do
    if let some own := bench.budget.own then Action.install own
    return .ok { s with bench := bench }

theorem openBudget_value (s : State) :
    s.openBudget.value = s.bench.openUp.value.map fun bench => { s with bench := bench } := by
  have hopen : (Action.ofLogged s.bench.openUp).value = s.bench.openUp.value := rfl
  simp only [openBudget, Traced.bind_value, hopen]
  cases s.bench.openUp.value with
  | error e => rfl
  | ok bench =>
    simp only [Except.map]
    split <;> rfl

def closeBudget (s : State) : Action State := do
  return { s with bench := ← Action.ofLogged s.bench.close }

end State

end PowerDiscovery.Run
