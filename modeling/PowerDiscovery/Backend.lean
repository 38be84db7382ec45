import PowerDiscovery.Text.Literal

/-! # Backends

The ways to find power devices.  The order of `Backend.all` is the order in which scans are started and
their devices displayed. -/

namespace PowerDiscovery

inductive Backend where
  | usb
  | snmp
  | xml
  | nut
  | nutSimulation
  | avahi
  | ipmi
  | eatonSerial
deriving DecidableEq, Repr

namespace Backend

def all : List Backend := [usb, snmp, xml, nut, nutSimulation, avahi, ipmi, eatonSerial]

theorem mem_all (b : Backend) : b ∈ all := by
  cases b <;> decide

theorem nodup_all : all.Nodup := by
  decide

def index : Backend → Nat
  | usb => 0
  | snmp => 1
  | xml => 2
  | nut => 3
  | nutSimulation => 4
  | avahi => 5
  | ipmi => 6
  | eatonSerial => 7

def name : Backend → String
  | usb => "usb"
  | snmp => "snmp"
  | xml => "xml"
  | nut => "nut"
  | nutSimulation => "nut_simulation"
  | avahi => "avahi"
  | ipmi => "ipmi"
  | eatonSerial => "eaton_serial"

def ofName? (s : String) : Option Backend :=
  all.find? fun b => b.name == s

def unknownMessage (s : String) : String :=
  Text.literal s ++ " is not a valid BackendType"

def displayName : Backend → String
  | usb => "USB"
  | snmp => "SNMP"
  | xml => "XML"
  | nut => "NUT"
  | nutSimulation => "NUT_SIMULATION"
  | avahi => "AVAHI"
  | ipmi => "IPMI"
  | eatonSerial => "EATON_SERIAL"

def listedName : Backend → String
  | nut => "OLDNUT"
  | b => b.displayName

def description : Backend → String
  | usb => "USB bus"
  | snmp => "SNMP bus"
  | xml => "XML/HTTP bus"
  | nut => "NUT bus (old connect method)"
  | nutSimulation => "NUT simulation devices"
  | avahi => "NUT bus (avahi method)"
  | ipmi => "IPMI bus"
  | eatonSerial => "serial bus for Eaton devices"

def usesRanges : Backend → Bool
  | snmp | xml | nut | ipmi => true
  | _ => false

def hasImplicitTarget : Backend → Bool
  | xml | ipmi => true
  | _ => false

/-- Backends that a scan of everything leaves out: slow, and disruptive to what is probed. -/
def explicitOnly : Backend → Bool
  | eatonSerial => true
  | _ => false

def needsRange (b : Backend) : Bool :=
  b.usesRanges && !b.hasImplicitTarget

def updated {α : Type} (f : Backend → α) (b : Backend) (a : α) : Backend → α :=
  fun c => if c = b then a else f c

@[simp] theorem updated_same {α : Type} (f : Backend → α) (b : Backend) (a : α) :
    updated f b a b = a := by
  simp [updated]

theorem updated_of_ne {α : Type} (f : Backend → α) {b c : Backend} (h : c ≠ b) (a : α) :
    updated f b a c = f c := by
  simp [updated, h]

end Backend

end PowerDiscovery
