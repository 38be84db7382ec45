import PowerDiscovery.Discovery.Pool

/-! # Traffic

Many parties probe at once and share the slots of one semaphore.  A call for a range reads the ends of the
range and sweeps it, with as many probes under way as it gets slots.  A round probes its targets one after
the other, each under a slot: the servers that were announced, the serial ports, or the local controller.
What happens next in the traffic is any one step of any one party. -/

namespace PowerDiscovery

inductive Move where
  | read
  | take
  | start (draw : Draw)
  | finish (draw : Draw)
  | release (draw : Draw)
deriving DecidableEq, Repr

namespace Move

def started? : Move → Option Draw
  | start draw => some draw
  | _ => none

end Move

def Pool.step? (probe : Probe) (p : Pool) : Move → Option Pool
  | .read => none
  | .take => p.take?.map (·.2)
  | .start draw => if draw ∈ p.granted then some (p.start draw) else none
  | .finish draw =>
    if draw ∈ p.running then some (p.finish draw (probe.single draw.address).value) else none
  | .release draw => if draw ∈ p.ended then some (p.release draw) else none

structure Visit where
  draw : Draw
  probe : Attempt (List Device)

inductive Stage where
  | granted
  | running
  | ended
deriving DecidableEq, Repr

/-- A round: the targets that wait, the one that holds a slot, and the devices found so far or the failure
that cut the round short. -/
structure Round where
  waiting : List Visit
  held : Option (Visit × Stage) := none
  outcome : Except Fault (List Device) := .ok []

namespace Round

def ofTargets (targets : List (String × Attempt (List Device))) : Round :=
  { waiting := targets.zipIdx.map fun ((name, probe), place) => ⟨⟨place, name⟩, probe⟩ }

def holding (r : Round) : List Draw := (r.held.map fun h => h.1.draw).toList

def running (r : Round) : List Draw := match r.held with
  | some (visit, .running) => [visit.draw]
  | _ => []

def settle (r : Round) (visit : Visit) : Round :=
  let outcome := do return (← r.outcome) ++ (← visit.probe.run.value)
  match outcome with
  | .ok found => { r with held := none, outcome := .ok found }
  | .error f => { r with held := none, waiting := [], outcome := .error f }

def step? (free : Nat) (r : Round) : Move → Option (Nat × Round)
  | .read => none
  | .take => match r.held, r.waiting with
    | none, visit :: waiting =>
      if free = 0 then none
      else some (free - 1, { r with held := some (visit, .granted), waiting := waiting })
    | _, _ => none
  | .start draw => match r.held with
    | some (visit, .granted) =>
      if visit.draw = draw then some (free, { r with held := some (visit, .running) }) else none
    | _ => none
  | .finish draw => match r.held with
    | some (visit, .running) =>
      if visit.draw = draw then some (free, { r with held := some (visit, .ended) }) else none
    | _ => none
  | .release draw => match r.held with
    | some (visit, .ended) => if visit.draw = draw then some (free + 1, r.settle visit) else none
    | _ => none

def result? (r : Round) : Option (Except Fault (List Device)) :=
  if r.waiting.isEmpty && r.held.isNone then some r.outcome else none

end Round

def Sweep.result? (s : Sweep) : Option (Except Fault (List Device)) :=
  if s.waiting.isEmpty && s.holding.isEmpty then some (.ok s.devices) else none

/-- A party of the traffic: a call for a range before its ends are read, a call whose ends cannot be used,
a call that sweeps its range, or a round. -/
inductive Party where
  | call (start stop : Endpoint) (probe : Probe)
  | refused (cause : Address.Error)
  | sweep (probe : Probe) (s : Sweep)
  | round (r : Round)

namespace Party

def ofEnds (start stop : Endpoint) (probe : Probe) : Party :=
  match Span.ofEndpoints start stop with
  | .error e => refused e
  | .ok span => sweep probe (Sweep.ofAddresses (span.toList.map Address.text))

def step? (free : Nat) : Party → Move → Option (Nat × Party)
  | call start stop probe, .read => some (free, ofEnds start stop probe)
  | call .., _ => none
  | refused _, _ => none
  | sweep probe s, m =>
    (Pool.step? probe { s with free := free } m).map fun p => (p.free, sweep probe p.toSweep)
  | round r, m => (r.step? free m).map fun (free, r) => (free, round r)

def follow? (free : Nat) (p : Party) : List Move → Option (Nat × Party)
  | [] => some (free, p)
  | m :: ms => (p.step? free m).bind fun (free, p) => p.follow? free ms

def holding : Party → List Draw
  | sweep _ s => s.holding
  | round r => r.holding
  | _ => []

def probing : Party → List Draw
  | sweep _ s => s.running
  | round r => r.running
  | _ => []

def result? : Party → Option (Except Fault (List Device))
  | call .. => none
  | refused e => some (.error (.badAddress e))
  | sweep _ s => s.result?
  | round r => r.result?

end Party

/-- What a party of the traffic is out for: the devices in a range, or those at targets that it has. -/
inductive Errand where
  | range (start stop : Endpoint) (probe : Probe)
  | round (targets : List (String × Attempt (List Device)))

def Errand.party : Errand → Party
  | range start stop probe => .call start stop probe
  | round targets => .round (Round.ofTargets targets)

structure Traffic where
  free : Nat
  parties : List Party

namespace Traffic

def ofErrands (slots : Nat) (errands : List Errand) : Traffic :=
  { free := slots, parties := errands.map Errand.party }

def step? (t : Traffic) (i : Nat) (m : Move) : Option Traffic :=
  t.parties[i]?.bind fun p => (p.step? t.free m).map fun (free, p) => ⟨free, t.parties.set i p⟩

def follow? (t : Traffic) : List (Nat × Move) → Option Traffic
  | [] => some t
  | (i, m) :: steps => (t.step? i m).bind fun t => t.follow? steps

def held (t : Traffic) : Nat := (t.parties.flatMap Party.holding).length

def probes (t : Traffic) : Nat := (t.parties.flatMap Party.probing).length

end Traffic

end PowerDiscovery
