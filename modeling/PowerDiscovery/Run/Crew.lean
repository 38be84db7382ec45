import PowerDiscovery.Run.State
import PowerDiscovery.Run.Worker
import PowerDiscovery.Settings.Options

/-! # Workers that go on together

A worker goes on in steps: it asks its engine at one target and adds what was found, and when no target is
left it stores its devices.  The steps of several workers may follow each other in any order; what they
share are the result slots. -/

namespace PowerDiscovery.Run

def workerFor (plan : Plan) (s : State) (b : Backend) : Worker :=
  { backend := b, engine := plan.engines b, timeout := plan.settings.timeout
    options := plan.settings.optionsFor b, installed := s.bench.gate.installed }

structure Casualty where
  backend : Backend
  cause : Fault

/-- How far a worker has come: how often it has asked, what it has found and which targets it has ahead;
or that it has ended, and what kept it from storing its devices. -/
inductive Progress where
  | working (asked : Nat) (sofar : List Device) (ahead : List Target)
  | ended (failure : Option Fault)

structure Crew where
  slots : Slots
  progress : Backend → Option Progress

namespace Crew

def assemble (s : State) (started : List Backend) : Crew :=
  { slots := s.slots
    progress := fun b =>
      if started.contains b then some (.working 0 [] (b.targets s.registry.ranges)) else none }

def put (c : Crew) (b : Backend) (p : Progress) : Crew :=
  { c with progress := Backend.updated c.progress b (some p) }

/-- The next step of the worker of a backend; there is none if it has ended or was not started. -/
def step (plan : Plan) (s : State) (c : Crew) (b : Backend) : Action Crew :=
  match c.progress b with
  | some (.working asked sofar (t :: ahead)) => do
    let found ← (workerFor plan s b).ask asked t
    return c.put b (.working (asked + 1) (Device.merge sofar found) ahead)
  | some (.working asked sofar []) => do
    (workerFor plan s b).conclude asked sofar
    match plan.hazards.store b with
    | none => return { c with slots := c.slots.store b sofar }.put b (.ended none)
    | some f => return c.put b (.ended (some f))
  | _ => return c

def follow (plan : Plan) (s : State) (c : Crew) : List Backend → Action Crew
  | [] => return c
  | b :: bs => do follow plan s (← step plan s c b) bs

def stepsLeft (c : Crew) (b : Backend) : Nat :=
  match c.progress b with
  | some (.working _ _ ahead) => ahead.length + 1
  | _ => 0

def oneByOne (c : Crew) (backends : List Backend) : List Backend :=
  backends.flatMap fun b => List.replicate (c.stepsLeft b) b

def casualties (c : Crew) (backends : List Backend) : List Casualty :=
  backends.filterMap fun b => match c.progress b with
    | some (.ended (some f)) => some ⟨b, f⟩
    | _ => none

end Crew

end PowerDiscovery.Run
