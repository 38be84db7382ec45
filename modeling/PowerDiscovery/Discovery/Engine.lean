import PowerDiscovery.Discovery.Pool

/-! # Engines

An engine finds the devices of one backend, over a range of addresses or at a target of its own.  It may
be there without the library that it needs.  The outside may change between two calls, so what an engine
finds may depend on how often it was asked before. -/

namespace PowerDiscovery

abbrev Scan := Option Semaphore → Option Endpoint → Option Endpoint → Value → ScanOptions →
  Attempt (Option (List Device))

/-- Finds the devices of one backend.  `later` are the scans after the first one; they are the same
unless the outside changes. -/
structure Engine where
  isAvailable : Bool
  scan : Scan
  later : Nat → Scan := fun _ => scan

def Engine.call (e : Engine) : Nat → Scan
  | 0 => e.scan
  | n + 1 => e.later n

abbrev Engines := Backend → Engine

def Engines.available (engines : Engines) (b : Backend) : Bool := (engines b).isAvailable

/-- How a timeout is waited for: as long as it says, not at all, or not possible with such a value. -/
inductive Patience where
  | waits
  | expires
  | refused (cause : Fault)

/-- How a timeout is waited for.  Without one the wait has no end; one that is not above zero is over at once.
A whole number that is too large for a floating point number cannot be added to the time. -/
def Value.patience (v : Value) : Patience :=
  match v with
  | .null => .waits
  | .truth b => if b then .waits else .expires
  | .int n =>
    if n ≤ 0 then .expires
    else if (Binary64.ofInt? n).isSome then .waits
    else .refused .tooLargeForReal
  | .real x => if x.isPositive then .waits else .expires
  | _ => .refused (.notComparable v.kindName "<=")

/-- The nanoseconds in a second. -/
def nanos : Nat := 1000000000

/-- Whether a number of seconds, in nanoseconds, is out of the range of 64 bits with a sign.  The
nanoseconds are rounded to a floating point number before. -/
def Binary64.overrunsClock : Binary64 → Bool
  | .finite negative significand exponent =>
    let (num, den) := scaleDown (significand * nanos) 1 (-exponent)
    (nearest false num den).reaches (Nat.pow 2 63 + if negative then 1 else 0)
  | _ => true

namespace Fault

def sleepOutOfRange (text : String) : Fault := .outside (.other "OverflowError") text

def sleepBelowZero : Fault := .outside (.value none) "sleep length must be non-negative"

def sleepNotANumber : Fault := .outside (.value none) "Invalid value NaN (not a number)"

end Fault

/-- Sleeps for a number of seconds, unless they are below zero or too many to be counted. -/
def Value.sleep (v : Value) : Except Fault Unit :=
  match v with
  | .truth _ => .ok ()
  | .int n =>
    if n.natAbs * nanos ≥ Nat.pow 2 63 then
      .error (.sleepOutOfRange "timestamp too large to convert to C _PyTime_t")
    else if n < 0 then .error .sleepBelowZero
    else .ok ()
  | .real .nan => .error .sleepNotANumber
  | .real x =>
    if x.overrunsClock then .error (.sleepOutOfRange "timestamp out of range for platform time_t")
    else if x.isPositive || x.isZero then .ok ()
    else .error .sleepBelowZero
  | _ => .error (.notInteger v.kindName)

end PowerDiscovery
