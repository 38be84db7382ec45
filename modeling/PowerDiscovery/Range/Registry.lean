import PowerDiscovery.Address.Endpoint
import PowerDiscovery.Address.Network
import PowerDiscovery.Journal

/-! # The registry of address ranges

The registry holds the ranges to scan in the order of their recording; nothing is dropped as a
duplicate.  Local networks are looked up at most once in its life, and clearing it does not allow a
second time. -/

namespace PowerDiscovery

/-- A range of addresses to scan, both ends included, as given. -/
structure AddressRange where
  start : Endpoint
  stop : Endpoint
deriving DecidableEq, Repr

inductive DiscoveryMode where
  | both
  | inetOnly
  | inet6Only
deriving DecidableEq, Repr

namespace DiscoveryMode

def ofName? (s : String) : Option DiscoveryMode :=
  if s = "auto" then some both
  else if s = "auto4" then some inetOnly
  else if s = "auto6" then some inet6Only
  else none

def covers : DiscoveryMode → Family → Bool
  | both, _ => true
  | inetOnly, .inet => true
  | inet6Only, .inet6 => true
  | _, _ => false

end DiscoveryMode

/-- The ranges to scan, and the mode of the one look-up of local networks, if there was one. -/
structure Registry where
  ranges : List AddressRange := []
  discovered : Option DiscoveryMode := none
deriving DecidableEq, Repr

/-- What a registry is after an operation, and what went wrong if the operation failed. -/
structure Registry.Outcome where
  registry : Registry
  failure : Option Address.Error := none

namespace Registry

def size (r : Registry) : Nat := r.ranges.length

def isNonempty (r : Registry) : Bool := !r.ranges.isEmpty

def Outcome.answer (o : Outcome) : Except Address.Error Nat :=
  match o.failure with
  | some e => .error e
  | none => .ok o.registry.size

def push (r : Registry) (range : AddressRange) : Registry :=
  { r with ranges := r.ranges ++ [range] }

def clear (r : Registry) : Registry :=
  { r with ranges := [] }

def record (r : Registry) (start stop : Endpoint) : Logged Registry :=
  let r := r.push ⟨start, stop⟩
  ⟨r, [.debug s!"Recorded IP address range #{r.size}: [{start} .. {stop}]"]⟩

/-- Records the range between two addresses.  A missing end is the same as the other one, and no range
is recorded if both are missing. -/
def add (r : Registry) : Option Endpoint → Option Endpoint → Logged Registry
  | none, none => ⟨r, [.debug "add_range: skip, no addresses were provided"]⟩
  | none, some stop => do
    Traced.emit (.debug s!"add_range: only end address was provided, setting start to same: {stop}")
    r.record stop stop
  | some start, none => do
    Traced.emit (.debug s!"add_range: only start address was provided, setting end to same: {start}")
    r.record start start
  | some start, some stop => r.record start stop

def addCidr (r : Registry) (cidr : String) : Logged Outcome := do
  Traced.emit (.debug s!"Processing CIDR net/mask: {cidr}")
  match Network.cidrRange cidr with
  | .error e => return { registry := r, failure := some e }
  | .ok (start, stop) =>
    Traced.emit (.debug s!"Extracted IP address range from CIDR net/mask: {start} => {stop}")
    let r ← r.record (.text start) (.text stop)
    return { registry := r }

def addCidrs (r : Registry) : List String → Logged Outcome
  | [] => return { registry := r }
  | cidr :: cidrs => do
    let outcome ← r.addCidr cidr
    match outcome.failure with
    | some _ => return outcome
    | none => outcome.registry.addCidrs cidrs

end Registry

end PowerDiscovery
