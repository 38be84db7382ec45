import PowerDiscovery.Fault
import PowerDiscovery.Settings.Basic

/-! # Options of scans

What the scan of each backend is told besides its target and its timeout. -/

namespace PowerDiscovery

/-- Whether a number is at least a whole number; a truth value counts as zero or one, and a value of any
other kind cannot be compared. -/
def Value.reaches (v : Value) (n : Nat) : Except Fault Bool :=
  match v with
  | .truth b => .ok (n ≤ if b then 1 else 0)
  | .int k => .ok (k ≥ n)
  | .real x => .ok (x.reaches n)
  | _ => .error (.notComparable v.kindName ">=")

structure UsbOptions where
  detail : Value := .int (-1)

namespace UsbOptions

def reportsBus (o : UsbOptions) : Except Fault Bool := o.detail.reaches 1

def reportsPlace (o : UsbOptions) : Except Fault Bool := o.detail.reaches 1

def reportsDevice (o : UsbOptions) : Except Fault Bool := o.detail.reaches 2

def reportsRelease (o : UsbOptions) : Except Fault Bool := o.detail.reaches 3

end UsbOptions

structure SnmpOptions where
  community : Value := .null
  secLevel : Value := .null
  secName : Value := .null
  authPassword : Value := .null
  privPassword : Value := .null
  authProtocol : Value := .null
  privProtocol : Value := .null

def SnmpOptions.ofFields (fields : List (String × Value)) : SnmpOptions :=
  let get (name : String) : Value := (Value.lookup? fields name).getD .null
  { community := get "community", secLevel := get "sec_level", secName := get "sec_name"
    authPassword := get "auth_password", privPassword := get "priv_password"
    authProtocol := get "auth_protocol", privProtocol := get "priv_protocol" }

def SnmpOptions.isVersion3 (o : SnmpOptions) : Bool := !o.secLevel.isNull

structure XmlOptions where
  portHttp : Value := .int 80
  portUdp : Value := .int 4679
  timeout : Value := .null
  peername : Value := .null

structure NutOptions where
  port : Value := .null

structure IpmiOptions where
  username : Value := .null
  password : Value := .null
  authenticationType : Value := .text "MD5"
  cipherSuite : Value := .int 3
  version : Value := .text "1.5"
  privilegeLevel : Value := .text "ADMIN"

def IpmiOptions.ofFields (fields : List (String × Value)) : IpmiOptions :=
  let get (name : String) (default : Value) : Value := (Value.lookup? fields name).getD default
  { username := get "username" .null, password := get "password" .null
    authenticationType := get "authentication_type" (.text "MD5")
    cipherSuite := get "cipher_suite_id" (.int 3), version := get "ipmi_version" (.text "1.5")
    privilegeLevel := get "privilege_level" (.text "ADMIN") }

structure SerialOptions where
  ports : Value := .null

inductive ScanOptions where
  | none
  | usb (o : UsbOptions)
  | snmp (o : SnmpOptions)
  | xml (o : XmlOptions)
  | nut (o : NutOptions)
  | location (v : Value)
  | ipmi (o : IpmiOptions)
  | serial (o : SerialOptions)

inductive OptionForm where
  | nothing
  | value (v : Value)
  | record (name : String) (fields : List (String × Value))

namespace ScanOptions

def form : ScanOptions → OptionForm
  | .none => .nothing
  | .location v => .value v
  | .usb o => .record "UsbOptions" [("link_detail_level", o.detail)]
  | .snmp o => .record "SnmpOptions" [("community", o.community), ("sec_level", o.secLevel),
      ("sec_name", o.secName), ("auth_password", o.authPassword), ("priv_password", o.privPassword),
      ("auth_protocol", o.authProtocol), ("priv_protocol", o.privProtocol)]
  | .xml o => .record "XmlOptions" [("port_http", o.portHttp), ("port_udp", o.portUdp),
      ("timeout", o.timeout), ("peername", o.peername)]
  | .nut o => .record "NutOptions" [("port", o.port)]
  | .ipmi o => .record "IpmiOptions" [("username", o.username), ("password", o.password),
      ("authentication_type", o.authenticationType), ("cipher_suite_id", o.cipherSuite),
      ("ipmi_version", o.version), ("privilege_level", o.privilegeLevel)]
  | .serial o => .record "SerialOptions" [("ports", o.ports)]

/-- The options of a backend with some of their fields set; fields that are not named keep their
defaults. -/
def ofFields (backend : Backend) (fields : List (String × Value)) : ScanOptions :=
  let get (name : String) (default : Value := .null) : Value := (Value.lookup? fields name).getD default
  match backend with
  | .usb => .usb { detail := get "link_detail_level" (.int (-1)) }
  | .snmp => .snmp (SnmpOptions.ofFields fields)
  | .xml => .xml
    { portHttp := get "port_http" (.int 80), portUdp := get "port_udp" (.int 4679)
      timeout := get "timeout", peername := get "peername" }
  | .nut => .nut { port := get "port" }
  | .ipmi => .ipmi (IpmiOptions.ofFields fields)
  | .eatonSerial => .serial { ports := get "ports" }
  | .nutSimulation | .avahi => .none

end ScanOptions

namespace Settings

def optionsFor (s : Settings) : Backend → ScanOptions
  | .usb => .usb { detail := s.usbDetail }
  | .snmp => .snmp
    { community := s.snmpCommunity, secLevel := s.snmpSecLevel, secName := s.snmpSecName
      authPassword := s.snmpAuthPassword, privPassword := s.snmpPrivPassword
      authProtocol := s.snmpAuthProtocol, privProtocol := s.snmpPrivProtocol }
  | .xml => .xml { portHttp := s.xmlHttpPort, portUdp := s.xmlUdpPort, timeout := s.timeout }
  | .nut => .nut { port := s.nutPort }
  | .nutSimulation => .location s.nutConfpath
  | .avahi => .none
  | .ipmi => .ipmi
    { username := s.ipmiUsername, password := s.ipmiPassword, authenticationType := s.ipmiAuthType
      cipherSuite := s.ipmiCipherSuite, version := s.ipmiVersion
      privilegeLevel := s.ipmiPrivilegeLevel }
  | .eatonSerial => .serial { ports := s.serialPorts }

end Settings

end PowerDiscovery
