import PowerDiscovery.Discovery.Engine
import PowerDiscovery.Range.Registry

/-! # Workers

A worker asks the engine of its backend for the devices at each of its targets, one after the other, and
puts the lists together in that order.  A target that fails is logged and takes nothing from the others. -/

namespace PowerDiscovery

/-- Where a scan looks: at a range of addresses, or at the target that its backend has of its own. -/
inductive Target where
  | range (r : AddressRange)
  | own
deriving DecidableEq, Repr

namespace Target

def start : Target → Option Endpoint
  | .range r => some r.start
  | .own => none

def stop : Target → Option Endpoint
  | .range r => some r.stop
  | .own => none

def name : Target → String
  | .range r => s!"{r.start} .. {r.stop}"
  | .own => "default target"

end Target

/-- The targets of a backend: every range for those that use ranges, as long as there are some; else the
target of its own, if it has one. -/
def Backend.targets (b : Backend) (ranges : List AddressRange) : List Target :=
  if b.usesRanges && !ranges.isEmpty then ranges.map .range
  else if b.needsRange then []
  else [.own]

/-- A worker: the engine that it asks, what it says to it, and the semaphore in force meanwhile. -/
structure Worker where
  backend : Backend
  engine : Engine
  timeout : Value
  options : ScanOptions := .none
  installed : Option Semaphore := none

namespace Worker

def announce (w : Worker) : Target → Action Unit
  | .range r => Action.debug s!"Scanning {w.backend.displayName} range [{r.start} .. {r.stop}]"
  | .own => return ()

def request (w : Worker) (t : Target) : Request :=
  { backend := w.backend, start := t.start, stop := t.stop, timeout := w.timeout, options := w.options }

def ask (w : Worker) (asked : Nat) (t : Target) : Action (Option (List Device)) := do
  w.announce t
  Traced.emit (.request w.installed (w.request t))
  let scan := w.engine.call asked w.installed t.start t.stop w.timeout w.options
  match ← Action.ofEngine scan.run with
  | .ok found => return found
  | .error f => do
    Action.error s!"Error in {w.backend.displayName} scan of {t.name}: {f.message}"
    return some []

def collect (w : Worker) (asked : Nat) (sofar : List Device) : List Target → Action (List Device)
  | [] => return sofar
  | t :: ts => do w.collect (asked + 1) (Device.merge sofar (← w.ask asked t)) ts

def conclude (w : Worker) (asked : Nat) (found : List Device) : Action Unit := do
  if asked = 0 then
    Action.debug s!"No IP range(s) for {w.backend.displayName}, nothing to scan"
  if found.isEmpty then Action.debug s!"{w.backend.displayName} scan found nothing"
  else Action.debug s!"{w.backend.displayName} scan found {found.length} devices"

def run (w : Worker) (ranges : List AddressRange) : Action (List Device) := do
  let targets := w.backend.targets ranges
  let found ← w.collect 0 [] targets
  w.conclude targets.length found
  return found

end Worker

end PowerDiscovery
