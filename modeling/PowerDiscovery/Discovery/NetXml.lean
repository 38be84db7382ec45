import PowerDiscovery.Discovery.Engine
import PowerDiscovery.Site.Basic
import PowerDiscovery.Text.Split

/-! # Management cards

A management card describes itself over HTTP.  With a range every address is asked for the description;
without one a request is broadcast, and every card that answers in time is reported once. -/

namespace PowerDiscovery.NetXml

open Text

def scanRequest : String := "<SCAN_REQUEST/>"

def broadcastAddress : Value := .text "255.255.255.255"

def cardUrl (host : String) (port : Value) : Except Fault String := do
  if port.equalsNat 80 then return s!"http://{host}" else return s!"http://{host}:{← port.written}"

def device (host : String) (port : Value) : Except Fault Device := do
  return { backend := .xml, driver := "netxml-ups", port := ← cardUrl host port }

def urlHost (address : String) : String :=
  if address.contains ':' then s!"[{address}]" else address

def descriptionUrl (host : String) (port : Value) : Except Fault String := do
  return s!"http://{host}:{← port.written}/product.xml"

def describesCard (body : String) : Bool := occursIn "<PRODUCT".toList body.toList

def probe (site : Site) (o : XmlOptions) : Probe := fun address => do
  let host := urlHost address
  let url ← Attempt.ofExcept (descriptionUrl host o.portHttp)
  Action.contact (.httpGet url)
  match site.http url with
  | .ok reply =>
    if reply.status = 200 && describesCard reply.body then
      return some [← Attempt.ofExcept (device host o.portHttp)]
    else return some []
  | .error f =>
    if !f.isHttpFailure then throw f
    Action.debug s!"No NetXML card at {address}: {f.message}"
    return some []

def responders (sofar : List String) : List (Except Fault String) → Action (List String)
  | [] => return sofar
  | .error f :: answers => do
    Action.debug s!"NetXML broadcast error: {f.message}"
    responders sofar answers
  | .ok host :: answers => do
    if sofar.contains host then responders sofar answers
    else
      Action.debug s!"NetXML scan answer from {host}"
      responders (sofar ++ [host]) answers

def collect (site : Site) (o : XmlOptions) (timeout target : Value) : Attempt (List String) := do
  Action.contact (.udpSend scanRequest target o.portUdp)
  match site.broadcast.sendError with
  | some f =>
    Action.contact .udpClosed
    if !f.isSystem then throw f
    let shown ← Attempt.ofExcept target.written
    Action.debug s!"NetXML broadcast to {shown} failed: {f.message}"
    return []
  | none =>
    let hosts ← responders [] site.broadcast.answers
    Action.contact (.sleep timeout)
    Action.contact .udpClosed
    return hosts

def broadcast (site : Site) (o : XmlOptions) (timeout : Value) : Attempt (List Device) := do
  match site.broadcast.openError with
  | some f =>
    if !f.isSystem then throw f
    Action.warning s!"Cannot open NetXML broadcast socket: {f.message}"
    return []
  | none =>
    let hosts ← collect site o timeout (o.peername.orElse broadcastAddress)
    let devices ← Attempt.ofExcept (hosts.mapM fun host => device host o.portHttp)
    Action.debug s!"XML/HTTP broadcast found {devices.length} devices"
    return devices

/-- The engine for management cards.  A timeout among the options goes over the common one. -/
def engine (site : Site) : Engine where
  isAvailable := site.installed .xml
  scan gate start stop timeout options := do
    let o : XmlOptions := match options with
      | .xml o => o
      | _ => {}
    let timeout := o.timeout.orElse timeout
    match start, stop with
    | some start, some stop =>
      Action.contact (.httpTimeout timeout)
      let devices ← Probe.range gate (probe site o) start stop
      Action.debug s!"XML/HTTP scan of {start} .. {stop} found {devices.length} devices"
      return some devices
    | _, _ => return some (← broadcast site o timeout)

end PowerDiscovery.NetXml
