import PowerDiscovery.Backend
import PowerDiscovery.CommandLine.Reader
import PowerDiscovery.Range.Folder
import PowerDiscovery.Report.Mode

/-! # The arguments of a run

What the options of a command line ask for, which backends they request, and whether they need a backend
whose library is missing. -/

namespace PowerDiscovery.CommandLine

structure Arguments where
  completeScan : Bool := false
  usbScan : Nat := 0
  snmpScan : Bool := false
  xmlScan : Bool := false
  oldnutScan : Bool := false
  avahiScan : Bool := false
  simulationScan : Bool := false
  ipmiScan : Bool := false
  eatonSerial : Value := .null
  thread : Value := .null
  timeout : Value := .null
  ranges : List RangeArgument := []
  community : Value := .null
  secLevel : Value := .null
  secName : Value := .null
  authPassword : Value := .null
  privPassword : Value := .null
  authProtocol : Value := .null
  privProtocol : Value := .null
  username : Value := .null
  password : Value := .null
  authType : Value := .null
  cipherSuite : Value := .null
  port : Value := .null
  mode : Option DisplayMode := none
  quiet : Bool := false
  debugLevel : Nat := 0
  version : Bool := false
  available : Bool := false
  help : Bool := false
  config : Value := .null
  sequential : Bool := false

namespace Arguments

/-- An address as the value of an option.  A value of any kind but text comes from an argument that
holds no words. -/
def endpoint (v : Value) : Endpoint :=
  match v with
  | .text s => .text s
  | _ => .wordless

def take (a : Arguments) (g : Given) : Arguments :=
  match g.flag with
  | .completeScan => { a with completeScan := true }
  | .usbScan => { a with usbScan := a.usbScan + 1 }
  | .snmpScan => { a with snmpScan := true }
  | .xmlScan => { a with xmlScan := true }
  | .oldnutScan => { a with oldnutScan := true }
  | .avahiScan => { a with avahiScan := true }
  | .simulationScan => { a with simulationScan := true }
  | .ipmiScan => { a with ipmiScan := true }
  | .eatonSerial => { a with eatonSerial := g.value }
  | .thread => { a with thread := g.value }
  | .timeout => { a with timeout := g.value }
  | .startIp => { a with ranges := a.ranges ++ [.first (endpoint g.value)] }
  | .endIp => { a with ranges := a.ranges ++ [.last (endpoint g.value)] }
  | .maskCidr => { a with ranges := a.ranges ++ [.network (endpoint g.value)] }
  | .community => { a with community := g.value }
  | .secLevel => { a with secLevel := g.value }
  | .secName => { a with secName := g.value }
  | .authPassword => { a with authPassword := g.value }
  | .privPassword => { a with privPassword := g.value }
  | .authProtocol => { a with authProtocol := g.value }
  | .privProtocol => { a with privProtocol := g.value }
  | .username => { a with username := g.value }
  | .password => { a with password := g.value }
  | .authType => { a with authType := g.value }
  | .cipherSuite => { a with cipherSuite := g.value }
  | .port => { a with port := g.value }
  | .showChecked => { a with mode := some .sectionsChecked }
  | .showSections => { a with mode := some .sections }
  | .showLines => { a with mode := some .lines }
  | .quiet => { a with quiet := true }
  | .debugLevel => { a with debugLevel := a.debugLevel + 1 }
  | .version => { a with version := true }
  | .available => { a with available := true }
  | .help => { a with help := true }
  | .config => { a with config := g.value }
  | .sequential => { a with sequential := true }

/-- The arguments that options make, later ones over earlier ones. -/
def ofGiven (given : List Given) : Arguments := given.foldl take {}

def read (words : List String) : Except Error Arguments :=
  (readOptions words).map ofGiven

def endpointValue : Endpoint → Value
  | .text s => .text s
  | .wordless => .list []

def rangeValue : RangeArgument → Value
  | .first e => .list [.text "start", endpointValue e]
  | .last e => .list [.text "end", endpointValue e]
  | .network e => .list [.text "mask", endpointValue e]

def entries (a : Arguments) : List (String × Value) := [
  ("complete_scan", .truth a.completeScan),
  ("usb_scan", .int a.usbScan),
  ("snmp_scan", .truth a.snmpScan),
  ("xml_scan", .truth a.xmlScan),
  ("oldnut_scan", .truth a.oldnutScan),
  ("avahi_scan", .truth a.avahiScan),
  ("nut_simulation_scan", .truth a.simulationScan),
  ("ipmi_scan", .truth a.ipmiScan),
  ("eaton_serial", a.eatonSerial),
  ("thread", a.thread),
  ("timeout", a.timeout),
  ("range_args", if a.ranges.isEmpty then .null else .list (a.ranges.map rangeValue)),
  ("community", a.community),
  ("sec_level", a.secLevel),
  ("sec_name", a.secName),
  ("auth_password", a.authPassword),
  ("priv_password", a.privPassword),
  ("auth_protocol", a.authProtocol),
  ("priv_protocol", a.privProtocol),
  ("ipmi_username", a.username),
  ("ipmi_password", a.password),
  ("ipmi_auth_type", a.authType),
  ("cipher_suite_id", a.cipherSuite),
  ("port", a.port),
  ("display_mode", (a.mode.map fun m => Value.text m.name).getD .null),
  ("quiet", .truth a.quiet),
  ("nut_debug_level", .int a.debugLevel),
  ("version", .truth a.version),
  ("available", .truth a.available),
  ("help", .truth a.help),
  ("config", a.config),
  ("sequential", .truth a.sequential)]

def requests (a : Arguments) : Backend → Bool
  | .usb => a.usbScan > 0
  | .snmp => a.snmpScan
  | .xml => a.xmlScan
  | .nut => a.oldnutScan
  | .nutSimulation => a.simulationScan
  | .avahi => a.avahiScan
  | .ipmi => a.ipmiScan
  | .eatonSerial => a.eatonSerial.isGiven

def requested (a : Arguments) : List Backend := Backend.all.filter a.requests

def snmpValues (a : Arguments) : List Value :=
  [a.community, a.secLevel, a.secName, a.authPassword, a.privPassword, a.authProtocol, a.privProtocol]

def ipmiValues (a : Arguments) : List Value :=
  [a.username, a.password, a.authType, a.cipherSuite]

end Arguments

inductive UsageError where
  | badWords (cause : Error)
  | snmpMissing
  | ipmiMissing
  | backendMissing (backend : Backend)
  | badRange (cause : Folder.Rejection)

def UsageError.message : UsageError → String
  | .badWords cause => cause.message
  | .snmpMissing => "SNMP options given but SNMP scan is not available"
  | .ipmiMissing => "IPMI options given but IPMI scan is not available"
  | .backendMissing backend => s!"{backend.displayName} scan was requested but is not available"
  | .badRange cause => cause.message

def Arguments.checkAvailable (a : Arguments) (available : Backend → Bool) : Except UsageError Unit :=
  if !available .snmp && a.snmpValues.any fun v => !v.isNull then .error .snmpMissing
  else if !available .ipmi && a.ipmiValues.any fun v => !v.isNull then .error .ipmiMissing
  else match a.requested.find? fun b => !available b with
    | some b => .error (.backendMissing b)
    | none => .ok ()

end PowerDiscovery.CommandLine
