import PowerDiscovery.Budget.FileLimit
import PowerDiscovery.Budget.Gate

/-! # The budget of concurrent probes

A budget says how many probes may run at once.  Its value starts from a default, may be overridden, and
never exceeds what the limit on open files leaves room for.  While the budget is open, its own semaphore
stands at the gate; closing it never removes a semaphore of someone else. -/

namespace PowerDiscovery

open Text

/-- The number of probes at once, the limit on open files, and the semaphore while the budget is open. -/
structure Budget where
  value : Count
  fdLimit : Option Int := none
  own : Option Semaphore := none
deriving DecidableEq, Repr

namespace Budget

def defaultCount : Nat := 1024

def maxSlots : Int := 0xFFFFFFFE

/-- The first number that is too large for a request. -/
def requestBound : Int := 0x7FFFFFFFFFFFFFFF

inductive Error where
  | alreadyOpen
  | negative
deriving DecidableEq, Repr

def Error.message : Error → String
  | .alreadyOpen => "Concurrency budget is already open"
  | .negative => "Semaphore initial value must be >= 0"

/-- A closed budget with a default value under a limit on open files.  A default above the limit is cut
down, which is logged, so it has to be one that can be written. -/
def make (default : Count) (fdLimit : Option Int) : Logged (Except Fault Budget) :=
  let clamped := default.clamp fdLimit
  let made : Budget := { value := clamped, fdLimit := fdLimit }
  if clamped = default then return .ok made
  else match default.toValue.written with
    | .error f => return .error f
    | .ok shown => do
      Traced.emit (.info (s!"Default max scanning thread count {shown} exceeds the current file " ++
        s!"descriptor count limit (minus reservation), constraining to {clamped.toValue.display}"))
      return .ok made

/-- A closed budget under a given limit on open files, or else under the one that the system tells. -/
def establish (default : Count) (given : Option Int) (system : FileLimit) : Logged (Except Fault Budget) := do
  let limit ← (match given with
    | some limit => pure (.ok (some limit))
    | none => system.read : Logged (Except Fault (Option Int)))
  match limit with
  | .error f => return .error f
  | .ok fdLimit => make default fdLimit

/-- The number that a request names, if it is one that can be granted.  White space of every kind may
stand around it. -/
def requestedCount? (request : String) : Option Int :=
  match Numeral.read? (trim request) with
  | some n => if 0 < n && n < requestBound then some n else none
  | none => none

def refusal (request : String) : String :=
  match Numeral.read? (trim request) with
  | some n => s!"{request} ({n})"
  | none => request

/-- Refuses a request with a warning that shows the value in force, which has to be one that can be
written. -/
def refuse (b : Budget) (request : String) : Logged (Except Fault Budget) :=
  match b.value.toValue.written with
  | .error f => return .error f
  | .ok kept => do
    Traced.emit (.warning (s!"Requested max scanning thread count {refusal request} is out of range, " ++
      s!"using default {kept}"))
    return .ok b

/-- The budget with a value that is granted.  One above the limit on open files is cut down to it. -/
def grant (b : Budget) (request : String) (n : Int) : Logged Budget := do
  let clamped := (Count.number n).clamp b.fdLimit
  if clamped ≠ .number n then
    Traced.emit (.warning (s!"Requested max scanning thread count {request} ({n}) exceeds the current " ++
      s!"file descriptor count limit (minus reservation), constraining to {clamped.toValue.display}"))
  return { b with value := clamped }

/-- Sets the value that an operator requests, if it is a number in range.  A request has to be one that
can be written. -/
def override (b : Budget) (request : Value) : Logged (Except Fault Budget) :=
  match request.written with
  | .error f => return .error f
  | .ok words => match requestedCount? words with
    | none => b.refuse words
    | some n => .ok <$> b.grant words n

def isOpen (b : Budget) : Bool := b.own.isSome

def capped (value : Count) : Count :=
  if value.amount > maxSlots then .number maxSlots else value

structure AtGate where
  budget : Budget
  gate : Gate
deriving DecidableEq, Repr

def AtGate.openUp (s : AtGate) : Logged (Except Error AtGate) :=
  if s.budget.isOpen then return .error .alreadyOpen
  else do
    if s.budget.value.amount > maxSlots then
      Traced.emit
        (.warning "Limiting max scanning thread count to range acceptable for the semaphore")
    if s.gate.installed.isSome then
      Traced.emit (.debug "Replacing scan semaphore installed by the engine library")
    let value := capped s.budget.value
    if value.amount < 0 then return .error .negative
    else
      Traced.emit (.debug s!"Concurrency budget opened with {value.toValue.display} slots")
      return .ok
        { budget := { s.budget with value := value, own := some (s.gate.next value) }
          gate := s.gate.install value }

def AtGate.close (s : AtGate) : Logged AtGate :=
  match s.budget.own with
  | none => return s
  | some own => do
    Traced.emit (.debug "Concurrency budget closed")
    return { budget := { s.budget with own := none }
             gate := if s.gate.installed = some own then s.gate.remove else s.gate }

end Budget

end PowerDiscovery
