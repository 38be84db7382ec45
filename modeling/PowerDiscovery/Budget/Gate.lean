import PowerDiscovery.Budget.Count

/-! # The gate

All probes of a scan pass one gate.  If a semaphore is installed there, a probe holds one of its slots
while it runs.  Semaphores are told apart by a stamp, and no stamp is given out twice. -/

namespace PowerDiscovery

structure Semaphore where
  stamp : Nat
  slots : Count
deriving DecidableEq, Repr

structure Gate where
  installed : Option Semaphore := none
  issued : Nat := 0
deriving DecidableEq, Repr

namespace Gate

def next (g : Gate) (slots : Count) : Semaphore := ⟨g.issued, slots⟩

def install (g : Gate) (slots : Count) : Gate :=
  { installed := some (g.next slots), issued := g.issued + 1 }

def remove (g : Gate) : Gate :=
  { g with installed := none }

end Gate

end PowerDiscovery
