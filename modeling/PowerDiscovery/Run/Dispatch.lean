import PowerDiscovery.Run.Enablement
import PowerDiscovery.Run.State
import PowerDiscovery.Settings.Options

/-! # Dispatch

Before anything is scanned a run decides which backends take part and claims a slot for each of them.  A
backend whose slot is taken, or whose worker cannot be started, leaves the run; the others go on. -/

namespace PowerDiscovery.Run

def leaveOut (s : State) : List Backend → Action (State × List Backend)
  | [] => return (s, [])
  | b :: bs => do
    if b.needsRange && s.registry.ranges.isEmpty then
      Action.info s!"No IP range(s) requested, skipping {b.displayName}"
      leaveOut (s.disable b) bs
    else
      let (s, others) ← leaveOut s bs
      return (s, b :: others)

def namesOf (backends : List Backend) : String :=
  if backends.isEmpty then "none"
  else String.intercalate ", " (backends.map Backend.displayName)

def configure (plan : Plan) (s : State) : Action (Except CommandLine.UsageError State) := do
  match ← Action.ofLogged (enable plan.requested plan.scanAll plan.engines.available) with
  | .error e => return .error e
  | .ok enabled => do
    let (s, enabled) ← leaveOut s enabled
    Action.debug s!"Enabled backends: {namesOf enabled}"
    return .ok { s with enabled := enabled }

def progress (plan : Plan) (text : String) : Action Unit :=
  if plan.settings.quiet.isGiven then Action.debug text else Action.info text

/-- What may keep the worker of a backend from being started; workers that run one after the other are
not started as tasks. -/
def startFault (plan : Plan) (b : Backend) : Option Fault :=
  if plan.settings.parallel.isGiven then plan.hazards.start b else none

def refuseStart (s : State) (b : Backend) (message : String) : Action State := do
  Action.error s!"Failed to start {b.displayName} scan, disabling it: {message}"
  return s.disable b

/-- What came of starting workers: the state, the backends whose workers are started, and the failure
that cut it short, if there was one. -/
structure Dispatched where
  state : State
  started : List Backend
  failure : Option Fault := none

def dispatch (plan : Plan) (s : State) : List Backend → Action Dispatched
  | [] => return ⟨s, [], none⟩
  | b :: bs => do
    progress plan s!"Scanning {b.description}."
    match s.slots.claim b, startFault plan b with
    | .error e, _ => dispatch plan (← refuseStart s b e.message) bs
    | .ok slots, none => do
      let rest ← dispatch plan { s with slots := slots } bs
      return { rest with started := b :: rest.started }
    | .ok slots, some f =>
      if f.spoilsStart then do
        dispatch plan (← refuseStart { s with slots := slots.abandon b } b f.message) bs
      else return ⟨{ s with slots := slots }, [], some f⟩

end PowerDiscovery.Run
