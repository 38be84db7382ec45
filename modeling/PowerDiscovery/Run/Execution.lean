import PowerDiscovery.Report.Renderer
import PowerDiscovery.Run.Crew
import PowerDiscovery.Run.Dispatch

/-! # The course of a run

A run configures itself, dispatches its workers, waits for all of them, renders what they found and is
done.  Its workers go on together, or one after the other in the order of their dispatch.  The budget is
open from the dispatch until the last worker has ended, and is closed however that part ends. -/

namespace PowerDiscovery.Run

/-- Runs the workers of several backends one after the other; gives those whose devices could not be
stored. -/
def runWorkers (plan : Plan) (s : State) : List Backend → Action (State × List Casualty)
  | [] => return (s, [])
  | b :: bs => do
    let found ← (workerFor plan s b).run s.registry.ranges
    match plan.hazards.store b with
    | none => runWorkers plan { s with slots := s.slots.store b found } bs
    | some f => do
      let (s, others) ← runWorkers plan s bs
      return (s, ⟨b, f⟩ :: others)

/-- Runs the workers of several backends together, in the order that the plan gives; gives those whose
devices could not be stored. -/
def runTogether (plan : Plan) (s : State) (started : List Backend) :
    Action (State × List Casualty) := do
  let c ← (Crew.assemble s started).follow plan s plan.turns
  let c ← c.follow plan s (c.oneByOne started)
  return ({ s with slots := c.slots }, c.casualties started)

/-- Runs the workers of several backends as the settings say: together, or one after the other. -/
def runStarted (plan : Plan) (s : State) (started : List Backend) :
    Action (State × List Casualty) :=
  if plan.settings.parallel.isGiven then runTogether plan s started else runWorkers plan s started

def abandonAll (s : State) : List Casualty → Action State
  | [] => return s
  | c :: cs => do
    Action.error s!"Error in {c.backend.displayName} scan: {c.cause.message}"
    abandonAll { s with slots := s.slots.abandon c.backend } cs

def awaitCompletion (plan : Plan) (s : State) (started : List Backend) : Action State := do
  let (s, casualties) ← runStarted plan s started
  abandonAll s casualties

/-- What a run leaves: its state, and the text that it displays or why it ended early. -/
structure Outcome where
  state : State
  text : Except Error String

def renderAll (renderer : Renderer) (s : State) (sofar : String) : List Backend → Outcome
  | [] => ⟨s, .ok sofar⟩
  | b :: bs =>
    let devices := s.slots.found b
    match renderer.text devices with
    | .error f => ⟨s, .error (.fault f)⟩
    | .ok text =>
      renderAll (renderer.after devices) { s with slots := s.slots.release b } (sofar ++ text) bs

def render (plan : Plan) (s : State) : Outcome :=
  match plan.settings.displayMode.mode? with
  | none =>
    let mode := plan.settings.displayMode.toValue
    ⟨s, .error (if mode.isWritable then .unknownMode mode.literal else .fault .unwritable)⟩
  | some mode => renderAll { mode := mode } s "" Backend.all

def finish (plan : Plan) (s : State) : Action Outcome := do
  let total := s.slots.total
  let s ← s.enter .rendering
  match render plan s with
  | ⟨s, .error e⟩ => return ⟨s, .error e⟩
  | ⟨s, .ok text⟩ => do
    let s ← s.enter .done
    Action.debug s!"Scan finished, {total} devices found"
    return ⟨{ s with registry := s.registry.clear }, .ok text⟩

/-- Configures a run and opens its budget. -/
def prepare (plan : Plan) (s : State) : Action (State × Option Error) := do
  match ← configure plan s with
  | .error e => return (s, some (.usage e))
  | .ok s => match ← s.openBudget with
    | .error e => return (s, some (.budget e))
    | .ok s => return (s, none)

/-- Dispatches the workers and waits for them; a failure of the dispatch cuts this short. -/
def work (plan : Plan) (s : State) : Action (State × Option Fault) := do
  let s ← s.enter .dispatching
  let dispatched ← dispatch plan s s.enabled
  match dispatched.failure with
  | some f => return (dispatched.state, some f)
  | none => do
    let s ← dispatched.state.enter .awaitingCompletion
    return (← awaitCompletion plan s dispatched.started, none)

def scan (plan : Plan) (s : State) : Action Outcome := do
  let (s, failure) ← work plan s
  let s ← s.closeBudget
  match failure with
  | some f => return ⟨s, .error (.fault f)⟩
  | none => finish plan s

/-- Executes a run. -/
def execute (plan : Plan) (s : State) : Action Outcome := do
  let (s, refusal) ← prepare plan s
  match refusal with
  | some e => return ⟨s, .error e⟩
  | none => scan plan s

end PowerDiscovery.Run
