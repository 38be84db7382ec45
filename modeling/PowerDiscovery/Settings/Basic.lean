import PowerDiscovery.Budget.Basic
import PowerDiscovery.Device
import PowerDiscovery.Location
import PowerDiscovery.Report.Mode

/-! # Settings

The settings of a run.  A settings file may give a value of any kind, so settings keep a value as it was
given; each use decides what it accepts, and a switch is on if its value counts as given.  The mode of
display may also be held as such. -/

namespace PowerDiscovery

/-- What settings hold for the mode of display: a mode, or a value that was given for one. -/
inductive ModeSetting where
  | mode (m : DisplayMode)
  | given (v : Value)

namespace ModeSetting

/-- A mode equals its name. -/
def toValue : ModeSetting → Value
  | .mode m => .text m.name
  | .given v => v

/-- The mode that is held or named. -/
def mode? : ModeSetting → Option DisplayMode
  | .mode m => some m
  | .given (.text s) => DisplayMode.ofName? s
  | .given _ => none

end ModeSetting

structure Settings where
  timeout : Value := .int 5
  maxConcurrency : Value := .int Budget.defaultCount
  parallel : Value := .truth true
  nutPort : Value := .null
  nutConfpath : Value := .text "/etc/nut"
  xmlHttpPort : Value := .int 80
  xmlUdpPort : Value := .int 4679
  snmpCommunity : Value := .null
  snmpSecLevel : Value := .null
  snmpSecName : Value := .null
  snmpAuthPassword : Value := .null
  snmpPrivPassword : Value := .null
  snmpAuthProtocol : Value := .null
  snmpPrivProtocol : Value := .null
  ipmiUsername : Value := .null
  ipmiPassword : Value := .null
  ipmiAuthType : Value := .text "MD5"
  ipmiCipherSuite : Value := .int 3
  ipmiVersion : Value := .text "1.5"
  ipmiPrivilegeLevel : Value := .text "ADMIN"
  usbDetail : Value := .int (-1)
  serialPorts : Value := .null
  displayMode : ModeSetting := .mode .sectionsChecked
  quiet : Value := .truth false
  debugLevel : Value := .int 0
  credentialsPath : String := "/etc/nut/powerscan_creds.yaml"
  logLevel : Value := .text "INFO"

namespace Settings

def defaultTimeout : Value := .int 5

def entries (s : Settings) : List (String × Value) := [
  ("timeout", s.timeout),
  ("max_concurrency", s.maxConcurrency),
  ("parallel", s.parallel),
  ("nut_port", s.nutPort),
  ("nut_confpath", s.nutConfpath),
  ("xml_http_port", s.xmlHttpPort),
  ("xml_udp_port", s.xmlUdpPort),
  ("snmp_community", s.snmpCommunity),
  ("snmp_sec_level", s.snmpSecLevel),
  ("snmp_sec_name", s.snmpSecName),
  ("snmp_auth_password", s.snmpAuthPassword),
  ("snmp_priv_password", s.snmpPrivPassword),
  ("snmp_auth_protocol", s.snmpAuthProtocol),
  ("snmp_priv_protocol", s.snmpPrivProtocol),
  ("ipmi_username", s.ipmiUsername),
  ("ipmi_password", s.ipmiPassword),
  ("ipmi_auth_type", s.ipmiAuthType),
  ("ipmi_cipher_suite_id", s.ipmiCipherSuite),
  ("ipmi_version", s.ipmiVersion),
  ("ipmi_privilege_level", s.ipmiPrivilegeLevel),
  ("usb_link_detail", s.usbDetail),
  ("serial_ports", s.serialPorts),
  ("display_mode", s.displayMode.toValue),
  ("quiet", s.quiet),
  ("debug_level", s.debugLevel),
  ("credentials_path", .text s.credentialsPath),
  ("log_level", s.logLevel)]

/-- Sets the setting of a name; a name that no setting has changes nothing.  A location is kept in its
written form and takes nothing but text. -/
def assign (s : Settings) (name : String) (v : Value) : Settings :=
  match name, v with
  | "timeout", v => { s with timeout := v }
  | "max_concurrency", v => { s with maxConcurrency := v }
  | "parallel", v => { s with parallel := v }
  | "nut_port", v => { s with nutPort := v }
  | "nut_confpath", v => { s with nutConfpath := v }
  | "xml_http_port", v => { s with xmlHttpPort := v }
  | "xml_udp_port", v => { s with xmlUdpPort := v }
  | "snmp_community", v => { s with snmpCommunity := v }
  | "snmp_sec_level", v => { s with snmpSecLevel := v }
  | "snmp_sec_name", v => { s with snmpSecName := v }
  | "snmp_auth_password", v => { s with snmpAuthPassword := v }
  | "snmp_priv_password", v => { s with snmpPrivPassword := v }
  | "snmp_auth_protocol", v => { s with snmpAuthProtocol := v }
  | "snmp_priv_protocol", v => { s with snmpPrivProtocol := v }
  | "ipmi_username", v => { s with ipmiUsername := v }
  | "ipmi_password", v => { s with ipmiPassword := v }
  | "ipmi_auth_type", v => { s with ipmiAuthType := v }
  | "ipmi_cipher_suite_id", v => { s with ipmiCipherSuite := v }
  | "ipmi_version", v => { s with ipmiVersion := v }
  | "ipmi_privilege_level", v => { s with ipmiPrivilegeLevel := v }
  | "usb_link_detail", v => { s with usbDetail := v }
  | "serial_ports", v => { s with serialPorts := v }
  | "display_mode", v => { s with displayMode := .given v }
  | "quiet", v => { s with quiet := v }
  | "debug_level", v => { s with debugLevel := v }
  | "credentials_path", .text path => { s with credentialsPath := Location.normal path }
  | "log_level", v => { s with logLevel := v }
  | _, _ => s

/-- The budget that the settings ask for; anything that is no whole number asks for the usual one. -/
def slots (s : Settings) : Count :=
  match s.maxConcurrency with
  | .int n => .number n
  | .truth b => .truth b
  | _ => .number Budget.defaultCount

end Settings

end PowerDiscovery
