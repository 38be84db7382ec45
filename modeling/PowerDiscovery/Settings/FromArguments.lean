import PowerDiscovery.CommandLine.Arguments
import PowerDiscovery.Settings.Validation

/-! # Settings from the command line

What the command line says goes over every other source. -/

namespace PowerDiscovery

open CommandLine

/-- The timeout that a value asks for; anything but a positive finite number asks for the usual one. -/
def readTimeout (v : Value) : Logged Value :=
  let number? := match v with
    | .text s => Binary64.read? s
    | .real x => some x
    | .int n => Binary64.ofInt? n
    | .truth b => Binary64.ofInt? (if b then 1 else 0)
    | _ => none
  match number?.filter fun x => x.isFinite && x.isPositive with
  | some x => return .real x
  | none => do
    Traced.emit
      (.warning s!"Illegal timeout value, using default {Settings.defaultTimeout.display}s")
    return Settings.defaultTimeout

def Value.orSetting (argument setting : Value) : Value :=
  if argument.isNull then setting else argument

/-- The detail that a scan of the USB bus reports: one more for each time it is asked for, and some for
a scan of everything. -/
def CommandLine.Arguments.usbDetail (a : Arguments) : Int :=
  let level : Int := min (a.usbScan - 1) 3
  if a.completeScan || a.requested.isEmpty then max level 0 else level

namespace Settings

def applyAuthType (s : Settings) (v : Value) : Logged Settings :=
  if v.isNull then return s
  else if v.isOneOf authTypes then return { s with ipmiAuthType := v }
  else do
    Traced.emit (.warning s!"Unknown authentication type ({v.display}). Defaulting to MD5")
    return { s with ipmiAuthType := .text "MD5" }

def apply (s : Settings) (a : Arguments) : Logged Settings := do
  let timeout ← if a.timeout.isNull then pure s.timeout else readTimeout a.timeout
  let s ← s.applyAuthType a.authType
  return { s with
    timeout := timeout
    snmpCommunity := a.community.orSetting s.snmpCommunity
    snmpSecLevel := a.secLevel.orSetting s.snmpSecLevel
    snmpSecName := a.secName.orSetting s.snmpSecName
    snmpAuthPassword := a.authPassword.orSetting s.snmpAuthPassword
    snmpPrivPassword := a.privPassword.orSetting s.snmpPrivPassword
    snmpAuthProtocol := a.authProtocol.orSetting s.snmpAuthProtocol
    snmpPrivProtocol := a.privProtocol.orSetting s.snmpPrivProtocol
    ipmiUsername := a.username.orSetting s.ipmiUsername
    ipmiPassword := a.password.orSetting s.ipmiPassword
    ipmiCipherSuite := a.cipherSuite.orSetting s.ipmiCipherSuite
    ipmiVersion := if a.cipherSuite.isNull then s.ipmiVersion else .text "2.0"
    nutPort := a.port.orSetting s.nutPort
    serialPorts := a.eatonSerial.orSetting s.serialPorts
    usbDetail := .int a.usbDetail
    displayMode := (a.mode.map .mode).getD s.displayMode
    quiet := .truth a.quiet
    debugLevel := .int a.debugLevel
    parallel := if a.sequential then .truth false else s.parallel }

end Settings

end PowerDiscovery
