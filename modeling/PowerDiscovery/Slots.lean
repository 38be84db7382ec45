import PowerDiscovery.Device

/-! # Result slots

Every backend has a slot for the devices of its scan.  A worker claims its slot before it runs and gives
the claim back when it stores its devices or is abandoned; a slot is claimed by one worker at a time. -/

namespace PowerDiscovery

structure Slots where
  found : Backend → List Device := fun _ => []
  claimed : Backend → Bool := fun _ => false

inductive Slots.Error where
  | alreadyClaimed (backend : Backend)
deriving DecidableEq, Repr

def Slots.Error.message : Slots.Error → String
  | .alreadyClaimed backend => s!"{backend.displayName} worker is already running"

namespace Slots

def claim (s : Slots) (b : Backend) : Except Error Slots :=
  if s.claimed b then .error (.alreadyClaimed b)
  else .ok { s with claimed := Backend.updated s.claimed b true }

def store (s : Slots) (b : Backend) (devices : List Device) : Slots :=
  { found := Backend.updated s.found b devices, claimed := Backend.updated s.claimed b false }

def abandon (s : Slots) (b : Backend) : Slots :=
  { s with claimed := Backend.updated s.claimed b false }

def release (s : Slots) (b : Backend) : Slots :=
  { s with found := Backend.updated s.found b [] }

@[simp] theorem found_store (s : Slots) (b : Backend) (devices : List Device) :
    (s.store b devices).found = Backend.updated s.found b devices := rfl

@[simp] theorem claimed_store (s : Slots) (b : Backend) (devices : List Device) :
    (s.store b devices).claimed = Backend.updated s.claimed b false := rfl

@[simp] theorem found_abandon (s : Slots) (b : Backend) : (s.abandon b).found = s.found := rfl

@[simp] theorem claimed_abandon (s : Slots) (b : Backend) :
    (s.abandon b).claimed = Backend.updated s.claimed b false := rfl

@[simp] theorem found_release (s : Slots) (b : Backend) :
    (s.release b).found = Backend.updated s.found b [] := rfl

@[simp] theorem claimed_release (s : Slots) (b : Backend) : (s.release b).claimed = s.claimed := rfl

def total (s : Slots) : Nat :=
  (Backend.all.flatMap s.found).length

end Slots

end PowerDiscovery
