import PowerDiscovery.Address.Endpoint
import PowerDiscovery.Budget.Gate
import PowerDiscovery.Journal
import PowerDiscovery.Settings.Options

/-! # Contacts and events

What happens during a scan, in order: entries of the log, requests to the engines, the contacts that the
engines make with the outside, and semaphores that are put in force. -/

namespace PowerDiscovery

/-- How an SNMP agent is approached: by a community, or as a user with keys and protocols. -/
inductive SnmpAuth where
  | community (name : Value)
  | user (name : Value) (keys : List (String × Value))

def SnmpAuth.form : SnmpAuth → String × List Value × List (String × Value)
  | .community name => ("CommunityData", [name], [("mpModel", .int 0)])
  | .user name keys => ("UsmUserData", [name], keys)

inductive Contact where
  | snmpAuth (auth : SnmpAuth)
  | snmpTarget (address : String) (port : Nat) (timeout : Value) (retries : Nat)
  | snmpGet (address : String) (objects : List String)
  | snmpClosed
  | httpTimeout (seconds : Value)
  | httpGet (url : String)
  | udpSend (text : String) (address port : Value)
  | sleep (seconds : Value)
  | udpClosed
  | upsd (host : String) (port : Value)
  | upsdSent (host text : String)
  | mdns (serviceType : String)
  | bmc (host : Option String) (user password : Value) (privilege : Nat)
  | bmcLocal
  | serialOpen (port : String) (rate : Nat) (timeout : Value)
  | serialSent (port text : String)

def Contact.form : Contact → String × Value
  | .snmpAuth auth =>
    let (kind, args, named) := auth.form
    ("snmp_auth", .mapping [("auth", .text kind), ("args", .list args), ("kwargs", .mapping named)])
  | .snmpTarget address port timeout retries =>
    ("snmp_target", .list [.text address, .int port, timeout, .int retries])
  | .snmpGet address objects => ("snmp_get", .list [.text address, .list (objects.map .text)])
  | .snmpClosed => ("snmp_closed", .list [])
  | .httpTimeout seconds => ("http_timeout", .list [seconds])
  | .httpGet url => ("http_get", .list [.text url])
  | .udpSend text address port => ("udp_send", .list [.text text, address, port])
  | .sleep seconds => ("sleep", .list [seconds])
  | .udpClosed => ("udp_closed", .list [])
  | .upsd host port => ("upsd", .list [.text host, port])
  | .upsdSent host text => ("upsd_sent", .list [.text host, .text text])
  | .mdns serviceType => ("mdns", .list [.text serviceType])
  | .bmc host user password privilege =>
    ("bmc", .list [(host.map Value.text).getD .null, user, password, .int privilege])
  | .bmcLocal => ("bmc", .list [.null, .null, .null, .null])
  | .serialOpen port rate timeout => ("serial_open", .list [.text port, .int rate, timeout])
  | .serialSent port text => ("serial_sent", .list [.text port, .text text])

structure Request where
  backend : Backend
  start : Option Endpoint
  stop : Option Endpoint
  timeout : Value
  options : ScanOptions

/-- What happens during a scan.  A request carries the semaphore in force when it is made. -/
inductive Event where
  | log (entry : LogEntry)
  | contact (c : Contact)
  | request (installed : Option Semaphore) (r : Request)
  | install (own : Semaphore)

def Event.isOfEngine : Event → Bool
  | .log _ | .contact _ => true
  | _ => false

abbrev Action (α : Type) := Traced Event α

namespace Action

def debug (text : String) : Action Unit := Traced.emit (.log (.debug text))

def info (text : String) : Action Unit := Traced.emit (.log (.info text))

def warning (text : String) : Action Unit := Traced.emit (.log (.warning text))

def error (text : String) : Action Unit := Traced.emit (.log (.error text))

def contact (c : Contact) : Action Unit := Traced.emit (.contact c)

def install (own : Semaphore) : Action Unit := Traced.emit (.install own)

def ofLogged {α : Type} (x : Logged α) : Action α := x.mapEvents .log

/-- What an engine does when it is asked: entries of the log and contacts, but nothing else. -/
def ofEngine {α : Type} (x : Action α) : Action α :=
  { x with events := x.events.filter Event.isOfEngine }

end Action

namespace Event

def logOf (events : List Event) : List LogEntry :=
  events.filterMap fun
    | .log entry => some entry
    | _ => none

def contactsOf (events : List Event) : List Contact :=
  events.filterMap fun
    | .contact c => some c
    | _ => none

def requestsOf (events : List Event) : List Request :=
  events.filterMap fun
    | .request _ r => some r
    | _ => none

/-- The semaphores that are put in force. -/
def semaphoresOf (events : List Event) : List Semaphore :=
  events.filterMap fun
    | .install own => some own
    | _ => none

@[simp] theorem requestsOf_append (xs ys : List Event) :
    requestsOf (xs ++ ys) = requestsOf xs ++ requestsOf ys := by
  simp [requestsOf]

end Event

end PowerDiscovery
