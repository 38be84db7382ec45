import PowerDiscovery.Discovery.Engine
import PowerDiscovery.Site.Basic
import PowerDiscovery.Text.Letter
import PowerDiscovery.Text.Split

/-! # Serial ports

A status query is sent to each port.  A device that answers with a status line, which begins with a
parenthesis, is reported. -/

namespace PowerDiscovery.Serial

open Text

def rate : Nat := 2400

def query : String := "Q1\r"

/-- The most octets of an answer that are read. -/
def replyLength : Nat := 47

def portNames (text : String) : List String :=
  ((pieces ',' text).map trim).filter fun name => !name.isEmpty

/-- The ports to probe: those that are named, or all local ones if none is named or the word for all is
given. -/
def portsToProbe (site : Site) (ports : Value) : Attempt (List String) := do
  let isAll ← if !ports.isGiven then pure true
    else match ports with
      | .text s => pure (smalls (trim s) == "auto")
      | _ => throw (.lacks ports "strip")
  if isAll then
    Action.debug s!"Found {site.serialPorts.length} local serial ports"
    return site.serialPorts
  else return portNames ports.display

/-- The part of an answer that is read: up to the first carriage return, or as much as a status line has. -/
def readReply (octets : List UInt8) : List UInt8 :=
  let body := octets.takeWhile (· != 13)
  (octets.take (body.length + 1)).take replyLength

def answers (site : Site) (port : String) (timeout : Value) : Attempt Bool := do
  Action.contact (.serialOpen port rate timeout)
  let octets ← Attempt.ofExcept (site.serial port)
  Action.contact (.serialSent port query)
  let reply := readReply octets
  Action.debug s!"Q1 reply on {port}: {octetLiteral reply}"
  return reply.head? == some 40

def deviceAt (site : Site) (timeout : Value) (port : String) : Attempt (List Device) := do
  match ← (answers site port timeout).outcome with
  | .ok true => return [{ backend := .eatonSerial, driver := "blazer_ser", port := port }]
  | .ok false => return []
  | .error f =>
    if !f.isSystem then throw f
    Action.debug s!"Cannot probe serial port {port}: {f.message}"
    return []

def devicesAt (site : Site) (timeout : Value) (ports : List String) : Attempt (List Device) :=
  Attempt.inTurn (ports.map (deviceAt site timeout))

def engine (site : Site) : Engine where
  isAvailable := site.installed .eatonSerial
  scan _ _ _ timeout options := do
    if !site.installed .eatonSerial then throw (.unavailable .eatonSerial "pyserial")
    let ports := match options with
      | .serial o => o.ports
      | _ => .null
    let devices ← devicesAt site timeout (← portsToProbe site ports)
    Action.debug s!"Serial scan found {devices.length} devices"
    return some devices

end PowerDiscovery.Serial
