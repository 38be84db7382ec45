import PowerDiscovery.Files

/-! # The site

What answers on the channels that a scan uses: the buses and ports of the machine, and the hosts around
it.  A site answers every question the same way each time. -/

namespace PowerDiscovery

/-- A device on the USB bus.  An index of zero names no string; an empty path or a port of zero is not
known. -/
structure UsbUnit where
  vendor : Int
  product : Int
  productIndex : Nat := 0
  serialIndex : Nat := 0
  vendorIndex : Nat := 0
  bus : Int := 1
  address : Int := 1
  release : Int := 0
  path : List Int := []
  port : Int := 0
  string : Nat → Except Fault (Option String) := fun _ => .ok none

inductive SnmpValue where
  | text (s : String)
  | null
  | absent

/-- An SNMP agent: one that cannot even be approached, one that does not answer cleanly, or one with a
description, an object identifier and the model of the standard UPS objects. -/
inductive SnmpAgent where
  | unreachable (cause : Fault)
  | silent
  | answering (description identifier model : SnmpValue)

structure HttpReply where
  status : Int := 200
  body : String := ""

structure Broadcast where
  openError : Option Fault := none
  sendError : Option Fault := none
  answers : List (Except Fault String) := []

/-- A server of power devices: whether it can be reached, what it says, and what goes wrong while it is
read or closed. -/
structure UpsdServer where
  connectError : Option Fault := none
  reply : List UInt8 := []
  readError : Option Fault := none
  closeError : Option Fault := none

inductive ServiceEvent where
  | added
  | updated
  | removed
deriving DecidableEq

structure ServiceInfo where
  addresses : List String := []
  port : Nat := 0

structure Service where
  name : String
  info : Except Fault (Option ServiceInfo)
  events : List ServiceEvent := [.added]

structure Fru where
  id : Int
  name : String
  info : Except Fault (List (String × Value))

structure Site where
  installed : Backend → Bool
  usb : Except Fault (List UsbUnit)
  snmp : String → SnmpAgent
  http : String → Except Fault HttpReply
  broadcast : Broadcast
  upsd : String → Value → UpsdServer
  services : List Service
  bmc : Option String → Except Fault (List Fru)
  serial : String → Except Fault (List UInt8)
  serialPorts : List String
  files : Files

end PowerDiscovery
