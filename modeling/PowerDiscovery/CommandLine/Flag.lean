/-! # Options of the command line

Every option has a long name, and most have a short one of a single letter.  An option may take a value;
its form and how the help text calls it are given here, in the order in which the help text lists the
options. -/

namespace PowerDiscovery.CommandLine

inductive Flag where
  | completeScan
  | usbScan
  | snmpScan
  | xmlScan
  | oldnutScan
  | avahiScan
  | simulationScan
  | ipmiScan
  | eatonSerial
  | thread
  | timeout
  | startIp
  | endIp
  | maskCidr
  | community
  | secLevel
  | secName
  | authPassword
  | privPassword
  | authProtocol
  | privProtocol
  | username
  | password
  | authType
  | cipherSuite
  | port
  | showChecked
  | showSections
  | showLines
  | quiet
  | debugLevel
  | version
  | available
  | help
  | config
  | sequential
deriving DecidableEq, Repr

inductive Operand where
  | none
  | text (metavar : String)
  | whole (metavar : String)
  | location (metavar : String)
deriving DecidableEq, Repr

def Operand.metavar? : Operand → Option String
  | .none => Option.none
  | .text m | .whole m | .location m => some m

structure Flag.Spec where
  short : Option Char
  long : String
  operand : Operand := .none
  help : String

namespace Flag

def spec : Flag → Spec
  | completeScan => { short := 'C', long := "--complete_scan"
                      help := "Scan all available devices except serial ports (default)" }
  | usbScan => { short := 'U', long := "--usb_scan"
                 help := "Scan USB devices. Specify twice or more to report more " ++
                   "detail on (change-prone) physical properties" }
  | snmpScan => { short := 'S', long := "--snmp_scan"
                  help := "Scan SNMP devices using built-in mapping definitions" }
  | xmlScan => { short := 'M', long := "--xml_scan", help := "Scan XML/HTTP devices" }
  | oldnutScan => { short := 'O', long := "--oldnut_scan"
                    help := "Scan NUT devices (old method, direct connect)" }
  | avahiScan => { short := 'A', long := "--avahi_scan", help := "Scan NUT devices (avahi method)" }
  | simulationScan => { short := 'n', long := "--nut_simulation_scan"
                        help := "Scan for NUT simulated devices (.dev files in $NUT_CONFPATH)" }
  | ipmiScan => { short := 'I', long := "--ipmi_scan", help := "Scan IPMI devices" }
  | eatonSerial => { short := 'E', long := "--eaton_serial", operand := .text "PORTS"
                     help := "Scan serial Eaton devices (comma-separated ports, or 'auto')" }
  | thread => { short := 'T', long := "--thread", operand := .text "N"
                help := "Limit the amount of scans running simultaneously" }
  | timeout => { short := 't', long := "--timeout", operand := .text "SECONDS"
                 help := "Network operation timeout (default 5)" }
  | startIp => { short := 's', long := "--start_ip", operand := .text "IP"
                 help := "First IP address to scan" }
  | endIp => { short := 'e', long := "--end_ip", operand := .text "IP"
               help := "Last IP address to scan" }
  | maskCidr => { short := 'm', long := "--mask_cidr", operand := .text "CIDR"
                  help := "Give a range of IP using CIDR notation, or 'auto', " ++
                    "'auto4', 'auto6' for the local subnets" }
  | community => { short := 'c', long := "--community", operand := .text "COMMUNITY"
                   help := "Set SNMP v1 community name (default = public)" }
  | secLevel => { short := 'l', long := "--secLevel", operand := .text "SEC_LEVEL"
                  help := "Set the securityLevel used for SNMPv3 messages" }
  | secName => { short := 'u', long := "--secName", operand := .text "SEC_NAME"
                 help := "Set the securityName used for authenticated SNMPv3 messages" }
  | authPassword => { short := 'W', long := "--authPassword", operand := .text "AUTH_PASSWORD"
                      help := "Set the authentication pass phrase" }
  | privPassword => { short := 'X', long := "--privPassword", operand := .text "PRIV_PASSWORD"
                      help := "Set the privacy pass phrase" }
  | authProtocol => { short := 'w', long := "--authProtocol", operand := .text "AUTH_PROTOCOL"
                      help := "Set the authentication protocol (MD5, SHA, SHA256, SHA384 or SHA512)" }
  | privProtocol => { short := 'x', long := "--privProtocol", operand := .text "PRIV_PROTOCOL"
                      help := "Set the privacy protocol (DES, AES, AES192 or AES256)" }
  | username => { short := 'b', long := "--username", operand := .text "IPMI_USERNAME"
                  help := "Set the username" }
  | password => { short := 'B', long := "--password", operand := .text "IPMI_PASSWORD"
                  help := "Set the password" }
  | authType => { short := 'd', long := "--authType", operand := .text "IPMI_AUTH_TYPE"
                  help := "Authentication type (NONE, STRAIGHT_PASSWORD_KEY, MD2, MD5; default MD5)" }
  | cipherSuite => { short := 'L', long := "--cipher_suite_id", operand := .whole "CIPHER_SUITE_ID"
                     help := "Cipher suite id, forces IPMI 2.0 (default 3)" }
  | port => { short := 'p', long := "--port", operand := .whole "PORT"
              help := "Port number of remote NUT upsd" }
  | showChecked => { short := 'Q', long := "--disp_nut_conf_with_sanity_check"
                     help := "Display result in the ups.conf format with sanity-check warnings (default)" }
  | showSections => { short := 'N', long := "--disp_nut_conf"
                      help := "Display result in the ups.conf format" }
  | showLines => { short := 'P', long := "--disp_parsable"
                   help := "Display result in a parsable format" }
  | quiet => { short := 'q', long := "--quiet"
               help := "Display only scan result, no progress information" }
  | debugLevel => { short := 'D', long := "--nut_debug_level", help := "Raise debugging level" }
  | version => { short := 'V', long := "--version", help := "Display the program version" }
  | available => { short := 'a', long := "--available"
                   help := "Display available bus that can be scanned" }
  | help => { short := 'h', long := "--help", help := "Display this help text" }
  | config => { short := none, long := "--config", operand := .location "CONFIG"
                help := "Path to config file" }
  | sequential => { short := none, long := "--sequential"
                    help := "Run the backend scans one after another" }

def groups : List (String × List Flag) := [
  ("scan types", [completeScan, usbScan, snmpScan, xmlScan, oldnutScan, avahiScan, simulationScan,
    ipmiScan, eatonSerial, thread]),
  ("network specific options", [timeout, startIp, endIp, maskCidr]),
  ("SNMP v1 / v3 specific options", [community, secLevel, secName, authPassword, privPassword,
    authProtocol, privProtocol]),
  ("IPMI specific options", [username, password, authType, cipherSuite]),
  ("NUT specific options", [port]),
  ("display options", [showChecked, showSections, showLines]),
  ("miscellaneous options", [quiet, debugLevel, version, available, help, config, sequential])]

def all : List Flag := groups.flatMap (·.2)

def modes : List Flag := [showChecked, showSections, showLines]

def operand (f : Flag) : Operand := f.spec.operand

def long (f : Flag) : String := f.spec.long

def shortName? (f : Flag) : Option String :=
  f.spec.short.map fun c => String.ofList ['-', c]

def names (f : Flag) : List String := f.shortName?.toList ++ [f.long]

def title (f : Flag) : String := String.intercalate "/" f.names

def ofShort? (c : Char) : Option Flag := all.find? fun f => f.spec.short == some c

def ofLong? (s : String) : Option Flag := all.find? fun f => f.long == s

def ofBeginning (cs : List Char) : List Flag := all.filter fun f => cs.isPrefixOf f.long.toList

end Flag

end PowerDiscovery.CommandLine
