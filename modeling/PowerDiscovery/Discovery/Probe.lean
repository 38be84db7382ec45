import PowerDiscovery.Fault
import PowerDiscovery.Site.Contact

/-! # Probes

A part of a scan may fail.  A probe asks one address for devices; if it fails, that is logged and counts
as finding none. -/

namespace PowerDiscovery

abbrev Attempt (α : Type) := ExceptT Fault Action α

/-- The result of something that may have failed, as part of a scan. -/
def Attempt.ofExcept {α : Type} : Except Fault α → Attempt α
  | .ok a => return a
  | .error f => throw f

/-- What came of a part that may fail, for the rest to go on from. -/
def Attempt.outcome {α : Type} (x : Attempt α) : Attempt (Except Fault α) := ExceptT.lift x.run

theorem Attempt.ofExcept_value {α : Type} (x : Except Fault α) : (ofExcept x).run.value = x := by
  cases x <;> rfl

/-- What follows the outcome of a part goes on with it, whether the part has failed or not. -/
theorem Attempt.outcome_bind_value {α β : Type} (x : Attempt α) (next : Except Fault α → Attempt β) :
    (x.outcome >>= next).run.value = (next x.run.value).run.value := rfl

/-- The devices of several parts that may fail, one part after the other; the first failure ends this. -/
def Attempt.inTurn : List (Attempt (List Device)) → Attempt (List Device)
  | [] => return []
  | x :: xs => do
    let found ← x
    return found ++ (← inTurn xs)

abbrev Outcome := Except Fault (Option (List Device))

abbrev Probe := String → Attempt (Option (List Device))

namespace Probe

def single (probe : Probe) (address : String) : Action (List Device) := do
  match ← (probe address).run with
  | .ok found => return found.getD []
  | .error f => do
    Action.debug s!"Probe of {address} failed: {f.message}"
    return []

end Probe

end PowerDiscovery
