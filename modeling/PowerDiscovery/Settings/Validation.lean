import PowerDiscovery.Fault
import PowerDiscovery.Settings.Basic

/-! # Validation of settings

Values that cannot be used are replaced by their defaults, with a warning for each.  A warning shows the
value, so one that cannot be written makes the check fail. -/

namespace PowerDiscovery

/-- Whether a value is a positive number, or a text that writes one.  A whole number that is too large
for a floating point number cannot be judged. -/
def Value.isPositiveNumber (v : Value) : Except Fault Bool :=
  match v with
  | .truth b => .ok b
  | .int n => match Binary64.ofInt? n with
    | some x => .ok x.isPositive
    | none => .error .tooLargeForReal
  | .real x => .ok x.isPositive
  | .text s => .ok ((Binary64.read? s).any Binary64.isPositive)
  | _ => .ok false

/-- Whether a value is a whole number above zero; a truth value counts as one or zero. -/
def Value.isPositiveWhole : Value → Bool
  | .truth b => b
  | .int n => n > 0
  | _ => false

namespace Settings

def securityLevels : List String := ["noAuthNoPriv", "authNoPriv", "authPriv"]

def authTypes : List String := ["NONE", "STRAIGHT_PASSWORD_KEY", "MD2", "MD5"]

abbrev Checked := Settings × List String

def checkTimeout (s : Settings) : Except Fault Checked := do
  if ← s.timeout.isPositiveNumber then return (s, [])
  else
    let shown ← s.timeout.written
    return ({ s with timeout := defaultTimeout },
      [s!"Illegal timeout value {shown}, using default {defaultTimeout.display}s"])

def checkConcurrency (s : Settings) : Except Fault Checked := do
  if s.maxConcurrency.isPositiveWhole then return (s, [])
  else
    let shown ← s.maxConcurrency.written
    return ({ s with maxConcurrency := .int Budget.defaultCount },
      [s!"Invalid max concurrency {shown}, using default {Budget.defaultCount}"])

def checkMode (s : Settings) : Except Fault Checked := do
  match s.displayMode.mode? with
  | some mode => return ({ s with displayMode := .mode mode }, [])
  | none =>
    let shown ← s.displayMode.toValue.written
    return ({ s with displayMode := .mode .sectionsChecked },
      [s!"Unknown display mode {shown}, using ups.conf with sanity check"])

/-- What is wrong with the security settings of version 3 of SNMP; nothing is replaced there. -/
def securityWarnings (s : Settings) : Except Fault (List String) := do
  if s.snmpSecLevel.isNull then return []
  else
    let level ← if s.snmpSecLevel.isOneOf securityLevels then pure []
      else pure [s!"Unknown SNMP v3 security level: {← s.snmpSecLevel.written}"]
    let name := if s.snmpSecName.isGiven then []
      else ["SNMP v3 security level given without a security name"]
    return level ++ name

def checkAuthType (s : Settings) : Except Fault Checked := do
  if s.ipmiAuthType.isOneOf authTypes then return (s, [])
  else
    let shown ← s.ipmiAuthType.written
    return ({ s with ipmiAuthType := .text "MD5" },
      [s!"Unknown IPMI authentication type ({shown}). Defaulting to MD5"])

/-- Checks all settings; gives them with the unusable values replaced, and the warnings. -/
def validate (s : Settings) : Except Fault Checked := do
  let (s, timeout) ← s.checkTimeout
  let (s, concurrency) ← s.checkConcurrency
  let (s, mode) ← s.checkMode
  let security ← s.securityWarnings
  let (s, authType) ← s.checkAuthType
  return (s, timeout ++ concurrency ++ mode ++ security ++ authType)

end Settings

end PowerDiscovery
