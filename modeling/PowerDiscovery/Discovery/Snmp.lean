import PowerDiscovery.Discovery.Engine
import PowerDiscovery.Site.Basic
import PowerDiscovery.Text.Letter

/-! # SNMP agents

Every address of a range is asked for the description and the object identifier of its agent.  The
identifier selects the definitions that the driver loads; an agent with an unknown one is accepted if it
has the model object of the standard UPS definitions. -/

namespace PowerDiscovery.Snmp

open Text

def agentPort : Nat := 161

def descriptionObject : String := "1.3.6.1.2.1.1.1.0"

def identifierObject : String := "1.3.6.1.2.1.1.2.0"

def modelObject : String := "1.3.6.1.2.1.33.1.1.2.0"

def enterprises : List (String × String) := [
  ("1.3.6.1.4.1.705.1", "mge"),
  ("1.3.6.1.4.1.534.1", "pw"),
  ("1.3.6.1.4.1.534.6.6.7", "eaton_epdu"),
  ("1.3.6.1.4.1.534.6.6.2", "aphel_revelation"),
  ("1.3.6.1.4.1.318", "apcc"),
  ("1.3.6.1.4.1.232.165", "cpqpower"),
  ("1.3.6.1.4.1.3808", "cyberpower"),
  ("1.3.6.1.4.1.2254.2.4", "delta_ups"),
  ("1.3.6.1.4.1.13742", "raritan"),
  ("1.3.6.1.4.1.850", "tripplite"),
  ("1.3.6.1.4.1.476.1.42", "emerson_avocent_pdu"),
  ("1.3.6.1.4.1.4555.1.1.1", "netvision"),
  ("1.3.6.1.4.1.935", "xppc"),
  ("1.3.6.1.2.1.33", "ietf")]

/-- Whether an identifier is a certain one, or begins with it and a dot. -/
def isUnder (identifier enterprise : List Char) : Bool :=
  identifier == enterprise || (enterprise ++ ['.']).isPrefixOf identifier

/-- The longer of two entries by their identifiers, the first one if they are equally long. -/
def longer (best : Option (String × String)) (entry : String × String) : Option (String × String) :=
  match best with
  | some b => if entry.1.length > b.1.length then some entry else some b
  | none => some entry

/-- What counts of an identifier: neither the white space around it nor dots before it. -/
def bare (identifier : String) : List Char :=
  (trimWhile isBlank identifier.toList).dropWhile (· == '.')

/-- The definitions for a system by a table that is looked through in its order: those of the longest
identifier that its own one is under. -/
def definitionsIn? (table : List (String × String)) (identifier : String) : Option String :=
  let known := table.filter fun entry => isUnder (bare identifier) entry.1.toList
  (known.foldl longer none).map (·.2)

def definitions? (identifier : String) : Option String := definitionsIn? enterprises identifier

def givenOption (name : String) (v : Value) : DeviceOptions :=
  if v.isGiven then [(name, v)] else []

def deviceOptions (o : SnmpOptions) (definitions description : String) : DeviceOptions :=
  givenOption "desc" (.text description) ++ [("mibs", .text definitions)] ++
    if o.isVersion3 then
      [("secLevel", o.secLevel)] ++ givenOption "secName" o.secName ++
        givenOption "authPassword" o.authPassword ++ givenOption "privPassword" o.privPassword ++
        givenOption "authProtocol" o.authProtocol ++ givenOption "privProtocol" o.privProtocol
    else givenOption "community" o.community

def authProtocols : List (String × String) := [
  ("MD5", "usmHMACMD5AuthProtocol"),
  ("SHA", "usmHMACSHAAuthProtocol"),
  ("SHA256", "usmHMAC192SHA256AuthProtocol"),
  ("SHA384", "usmHMAC256SHA384AuthProtocol"),
  ("SHA512", "usmHMAC384SHA512AuthProtocol")]

def privProtocols : List (String × String) := [
  ("DES", "usmDESPrivProtocol"),
  ("AES", "usmAesCfb128Protocol"),
  ("AES192", "usmAesCfb192Protocol"),
  ("AES256", "usmAesCfb256Protocol")]

/-- A key for a protocol of a table, by the name of the protocol in letters of either case; an unknown
name gives none. -/
def protocolKey (key : String) (table : List (String × String)) (v : Value) :
    Except Fault (List (String × Value)) :=
  match v with
  | .text name =>
    .ok (((table.find? fun p => p.1 == capitals name).map fun p => (key, Value.text p.2)).toList)
  | _ => .error (.lacks v "upper")

/-- The keys for authentication, which every security level but the lowest known one asks for. -/
def authKeys (o : SnmpOptions) : Except Fault (List (String × Value)) :=
  if o.secLevel.isOneOf ["authNoPriv", "authPriv"] then do
    let protocol ← protocolKey "authProtocol" authProtocols (o.authProtocol.orElse (.text "MD5"))
    return ("authKey", o.authPassword) :: protocol
  else return []

def privKeys (o : SnmpOptions) : Except Fault (List (String × Value)) :=
  if o.secLevel.isText "authPriv" then do
    let protocol ← protocolKey "privProtocol" privProtocols (o.privProtocol.orElse (.text "DES"))
    return ("privKey", o.privPassword) :: protocol
  else return []

def auth (o : SnmpOptions) : Except Fault SnmpAuth :=
  if o.isVersion3 then return .user (o.secName.orElse (.text "")) ((← authKeys o) ++ (← privKeys o))
  else return .community (o.community.orElse (.text "public"))

/-- The text of the value of an object; a value that is null has none. -/
def SnmpValue.shown : SnmpValue → Except Fault String
  | .text s => .ok s
  | _ => .error (.lacks .null "prettyPrint")

def allThere (values : List SnmpValue) : Bool :=
  values.all fun v => !(v matches .absent)

def identify (o : SnmpOptions) (address : String) (description identifier model : SnmpValue) :
    Attempt (Option (List Device)) := do
  Action.contact (.snmpGet address [descriptionObject, identifierObject])
  if !allThere [description, identifier] then return some []
  let described := match description with
    | .text s => s
    | _ => ""
  let definitions ← match definitions? (← Attempt.ofExcept (SnmpValue.shown identifier)) with
    | some d => pure (some d)
    | none => do
      Action.contact (.snmpGet address [modelObject])
      let hasModel ← if allThere [model] then
          (fun s => !s.isEmpty) <$> Attempt.ofExcept (SnmpValue.shown model)
        else pure false
      pure (if hasModel then some "ietf" else none)
  match definitions with
  | none =>
    Action.debug s!"SNMP agent at {address} is not a known power device"
    return some []
  | some definitions =>
    Action.debug s!"SNMP power device at {address} (mibs={definitions})"
    return some [{ backend := .snmp, driver := "snmp-ups", port := address
                   options := deviceOptions o definitions described }]

def probe (site : Site) (timeout : Value) (o : SnmpOptions) : Probe := fun address => do
  Action.contact (.snmpTarget address agentPort timeout 0)
  match site.snmp address with
  | .unreachable cause => throw cause
  | .silent =>
    Action.contact (.snmpGet address [descriptionObject, identifierObject])
    return some []
  | .answering description identifier model => identify o address description identifier model

def engine (site : Site) : Engine where
  isAvailable := site.installed .snmp
  scan gate start stop timeout options := do
    if !site.installed .snmp then throw (.unavailable .snmp "pysnmp")
    match start, stop with
    | some start, some stop =>
      let o := match options with
        | .snmp o => o
        | _ => {}
      Action.contact (.snmpAuth (← Attempt.ofExcept (auth o)))
      let outcome ← (Probe.range gate (probe site timeout o) start stop).outcome
      Action.contact .snmpClosed
      let devices ← Attempt.ofExcept outcome
      Action.debug s!"SNMP scan of {start} .. {stop} found {devices.length} devices"
      return some devices
    | _, _ =>
      Action.debug "SNMP scan needs an address range, nothing to do"
      return some []

end PowerDiscovery.Snmp
