import PowerDiscovery.Range.Registry
import PowerDiscovery.Value

/-! # Local networks

The networks of the local interfaces.  An interface takes part if it has an IPv4 entry with a broadcast
address; its IPv4 entries come before its IPv6 ones, and loopback addresses are left out. -/

namespace PowerDiscovery

open Text

/-- An address of an interface as the system reports it; what it does not report is empty. -/
structure InterfaceEntry where
  address : String := ""
  netmask : String := ""
  broadcast : String := ""

structure Interface where
  name : String
  inet : List InterfaceEntry := []
  inet6 : List InterfaceEntry := []

namespace Interface

def canBroadcast (i : Interface) : Bool :=
  i.inet.any fun entry => !entry.broadcast.isEmpty

def entries (i : Interface) : List (Family × InterfaceEntry) :=
  i.inet.map (Family.inet, ·) ++ i.inet6.map (Family.inet6, ·)

end Interface

namespace InterfaceEntry

def host (entry : InterfaceEntry) : String :=
  String.ofList (cut '%' entry.address.toList).1

def cidr (family : Family) (entry : InterfaceEntry) : Except Address.Error (Option String) := do
  let address ← Address.read entry.host
  if address.isLoopback then return none
  else
    let length ← Network.netmaskLength family entry.netmask
    return some s!"{entry.host}/{length}"

def subnet (mode : DiscoveryMode) (i : Interface) (family : Family) (entry : InterfaceEntry) :
    Logged (Option String) :=
  if entry.host.isEmpty || entry.netmask.isEmpty then return none
  else do
    let broadcast := (Value.truth i.canBroadcast).display
    Traced.emit (.debug (s!"Discovering interfaces: Interface: {i.name}\tAddress: {entry.host}" ++
      s!"\tMask: {entry.netmask}\tBroadcast: {broadcast}"))
    match entry.cidr family with
    | .error e =>
      Traced.emit (.debug s!"Skipping address {entry.host} on {i.name}: {e.message}")
      return none
    | .ok found => return if i.canBroadcast && mode.covers family then found else none

end InterfaceEntry

def Interface.subnetsOf (mode : DiscoveryMode) (i : Interface) :
    List (Family × InterfaceEntry) → Logged (List String)
  | [] => return []
  | (family, entry) :: rest => do
    let found ← entry.subnet mode i family
    let others ← i.subnetsOf mode rest
    return found.toList ++ others

def localSubnets (mode : DiscoveryMode) : List Interface → Logged (List String)
  | [] => return []
  | i :: interfaces => do
    let found ← i.subnetsOf mode i.entries
    let others ← localSubnets mode interfaces
    return found ++ others

def Registry.discoverMode (r : Registry) (interfaces : List Interface) (mode : DiscoveryMode) :
    Logged Registry.Outcome :=
  if r.discovered.isSome then do
    Traced.emit (.warning "Duplicate request for connected subnet scan ignored")
    return { registry := r }
  else do
    let subnets ← localSubnets mode interfaces
    if subnets.isEmpty then Traced.emit (.warning "Could not auto-detect network ranges")
    else
      let listing := (Value.list (subnets.map .text)).display
      Traced.emit (.info s!"Auto-detected network ranges: {listing}")
    { r with discovered := some mode }.addCidrs subnets

def Registry.discover (r : Registry) (interfaces : List Interface) (name : String) :
    Logged Registry.Outcome :=
  match DiscoveryMode.ofName? name with
  | none => return { registry := r, failure := some (.unknownMode name) }
  | some mode => r.discoverMode interfaces mode

end PowerDiscovery
