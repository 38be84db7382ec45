import PowerDiscovery.Discovery.Upsd

/-! # Announced servers

Servers of power devices announce themselves on the local network.  Each one that was announced before the
timeout was over is asked once for its units, in the order of the first announcements. -/

namespace PowerDiscovery.Mdns

def serviceType : String := "_nut._tcp.local."

structure Server where
  host : String
  port : Nat
deriving DecidableEq, Repr

def Server.ofInfo? (info : ServiceInfo) : Option Server :=
  info.addresses.head?.map fun host =>
    { host := host, port := if info.port = 0 then Upsd.defaultPort else info.port }

def announce (sofar : List Server) (service : Service) : Action (List Server) :=
  match service.info with
  | .error f => do
    Action.debug s!"Cannot resolve service {service.name}: {f.message}"
    return sofar
  | .ok info => match info.bind Server.ofInfo? with
    | none => return sofar
    | some server => do
      if sofar.contains server then return sofar
      else
        Action.debug s!"NUT server announced at {server.host}:{server.port}"
        return sofar ++ [server]

def announceTimes (service : Service) : Nat → List Server → Action (List Server)
  | 0, sofar => return sofar
  | n + 1, sofar => do announceTimes service n (← announce sofar service)

def announced (sofar : List Server) : List Service → Action (List Server)
  | [] => return sofar
  | service :: services => do
    let sofar ← announceTimes service (service.events.count .added) sofar
    announced sofar services

def devicesAt (site : Site) (timeout : Value) (server : Server) : Attempt (List Device) := do
  match ← (Upsd.listUnits site server.host (.int server.port) timeout).outcome with
  | .ok units =>
    let port : Value := if server.port = Upsd.defaultPort then .null else .int server.port
    Attempt.ofExcept (Upsd.devices .avahi server.host port units)
  | .error f =>
    if !f.isSystem then throw f
    Action.debug s!"Cannot list UPS on {server.host}:{server.port}: {f.message}"
    return []

def devicesOf (site : Site) (timeout : Value) (servers : List Server) : Attempt (List Device) :=
  Attempt.inTurn (servers.map (devicesAt site timeout))

def engine (site : Site) : Engine where
  isAvailable := site.installed .avahi
  scan _ _ _ timeout _ := do
    if !site.installed .avahi then throw (.unavailable .avahi "zeroconf")
    Action.contact (.mdns serviceType)
    Attempt.ofExcept timeout.sleep
    let servers ← announced [] site.services
    Action.debug s!"Found {servers.length} NUT servers via mDNS"
    return some (← devicesOf site timeout servers)

end PowerDiscovery.Mdns
