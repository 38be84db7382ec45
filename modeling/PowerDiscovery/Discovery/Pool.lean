import PowerDiscovery.Address.Endpoint
import PowerDiscovery.Discovery.Probe

/-! # Probing a range of addresses

The addresses of a range are drawn in ascending order.  An address is drawn when there is a slot for it;
its probe then starts, and it gives the slot back when it has ended, whether it found something, found
nothing or failed.  The devices of a range are those of its addresses in ascending order, however the
probes end. -/

namespace PowerDiscovery

structure Draw where
  place : Nat
  address : String
deriving DecidableEq, Repr

/-- The probes of a range: the addresses that wait; those that hold a slot, before their probe starts,
while it runs and after it has ended; and the devices of the probes that have ended. -/
structure Sweep where
  waiting : List Draw
  granted : List Draw := []
  running : List Draw := []
  ended : List Draw := []
  found : List (Nat × List Device) := []

namespace Sweep

def ofAddresses (addresses : List String) : Sweep :=
  { waiting := addresses.zipIdx.map fun (address, place) => ⟨place, address⟩ }

def holding (s : Sweep) : List Draw := s.granted ++ (s.running ++ s.ended)

def devices (s : Sweep) : List Device :=
  (s.found.mergeSort fun a b => decide (a.1 ≤ b.1)).flatMap (·.2)

end Sweep

structure Pool extends Sweep where
  free : Nat

namespace Pool

def usualSlots : Nat := 256

def slotsOf : Option Semaphore → Nat
  | some semaphore => semaphore.slots.amount.toNat
  | none => usualSlots

def take? (p : Pool) : Option (Draw × Pool) :=
  match p.waiting with
  | [] => none
  | draw :: waiting =>
    if p.free = 0 then none
    else some (draw,
      { p with free := p.free - 1, waiting := waiting, granted := draw :: p.granted })

def start (p : Pool) (draw : Draw) : Pool :=
  { p with granted := p.granted.erase draw, running := draw :: p.running }

def finish (p : Pool) (draw : Draw) (devices : List Device) : Pool :=
  { p with
    running := p.running.erase draw
    ended := draw :: p.ended
    found := if devices.isEmpty then p.found else (draw.place, devices) :: p.found }

def release (p : Pool) (draw : Draw) : Pool :=
  { p with free := p.free + 1, ended := p.ended.erase draw }

def run (probe : Probe) : Nat → Pool → Action Pool
  | 0, p => return p
  | n + 1, p => match p.take? with
    | none => return p
    | some (draw, p) => do
      let devices ← probe.single draw.address
      run probe n (((p.start draw).finish draw devices).release draw)

end Pool

namespace Probe

/-- The pool of a range after all of its probes.  No address is probed if the ends are not two addresses
of one family. -/
def pool (gate : Option Semaphore) (probe : Probe) (start stop : Endpoint) : Attempt Pool :=
  match Span.ofEndpoints start stop with
  | .error e => throw (.badAddress e)
  | .ok span =>
    let s := Sweep.ofAddresses (span.toList.map Address.text)
    ExceptT.lift (Pool.run probe s.waiting.length { s with free := Pool.slotsOf gate })

def range (gate : Option Semaphore) (probe : Probe) (start stop : Endpoint) :
    Attempt (List Device) :=
  (fun p : Pool => p.devices) <$> probe.pool gate start stop

end Probe

end PowerDiscovery
