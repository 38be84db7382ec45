import PowerDiscovery.Discovery.Engine
import PowerDiscovery.Site.Basic
import PowerDiscovery.Text.Letter
import PowerDiscovery.Text.Split

/-! # Power supplies of management controllers

The inventory of a management controller lists replaceable units.  Each one that describes a power supply
becomes a device; a unit that cannot be read is left out, and a controller that fails has no devices. -/

namespace PowerDiscovery.Ipmi

open Text

/-- The numbers of the privilege levels; an unknown level counts as the highest.  A list or a mapping
cannot be looked up. -/
def privilege (v : Value) : Except Fault Nat :=
  match v with
  | .text "CALLBACK" => .ok 1
  | .text "USER" => .ok 2
  | .text "OPERATOR" => .ok 3
  | .list _ | .mapping _ => .error (.notLookedUp v.kindName)
  | _ => .ok 4

def markers : List String := ["power supply", "psu", "ps "]

def mentions (part text : String) : Bool := occursIn part.toList (smalls text).toList

/-- Whether a unit describes a power supply, by its name or else by the name of its product, which may be a
number that cannot be written. -/
def describesSupply (name : String) (info : List (String × Value)) : Except Fault Bool := do
  if markers.any (mentions · (name ++ " ")) then return true
  match Value.lookup? info "Product name" with
  | some product => return mentions "power supply" (← product.written)
  | none => return false

def isPowerSupply (name : String) (info : List (String × Value)) : Bool :=
  match describesSupply name info with
  | .ok found => found
  | .error _ => false

def hostName (host : Option String) : String := host.getD "local BMC"

/-- The number of a unit in texts. -/
def shownNumber (id : Int) : Except Fault String := (Value.int id).written

/-- The numbers of the power supplies among units.  A unit that cannot be read is left out; a number that
cannot be written ends the session. -/
def supplies (host : Option String) : List Fru → Attempt (List Int)
  | [] => return []
  | fru :: frus => do
    match fru.info with
    | .error f =>
      let shown ← Attempt.ofExcept (shownNumber fru.id)
      Action.debug s!"Cannot read FRU {shown} on {hostName host}: {f.message}"
      supplies host frus
    | .ok info =>
      let found ← Attempt.ofExcept (describesSupply fru.name info)
      let others ← supplies host frus
      return if found then fru.id :: others else others

/-- Drops the units whose number a later unit has. -/
def latest : List Fru → List Fru
  | [] => []
  | fru :: frus => if frus.any fun later => later.id = fru.id then latest frus else fru :: latest frus

def inventory (frus : List Fru) : List Fru :=
  (latest frus).mergeSort fun a b => decide (a.id ≤ b.id)

def readSupplies (site : Site) (host : Option String) (o : IpmiOptions) : Attempt (List Int) := do
  match host with
  | none => Action.contact .bmcLocal
  | some h =>
    let blank : Value := .text ""
    let level ← Attempt.ofExcept (privilege o.privilegeLevel)
    Action.contact (.bmc h (o.username.orElse blank) (o.password.orElse blank) level)
  supplies host (inventory (← Attempt.ofExcept (site.bmc host)))

def cipherOption (o : IpmiOptions) : Except Fault DeviceOptions := do
  if o.version.isText "2.0" then return [("cipher_suite_id", .text (← o.cipherSuite.written))]
  else return []

def deviceOptions (host : Option String) (o : IpmiOptions) : Except Fault DeviceOptions := do
  match host with
  | none => return []
  | some _ =>
    return (if o.username.isGiven then [("username", o.username)] else []) ++
      (if o.password.isGiven then [("password", o.password)] else []) ++
      [("authtype", o.authenticationType)] ++ (← cipherOption o)

def device (host : Option String) (o : IpmiOptions) (id : Int) : Except Fault Device := do
  let shown ← shownNumber id
  return { backend := .ipmi, driver := "nut-ipmipsu"
           port := match host with
             | some h => if h.isEmpty then s!"id{shown}" else s!"id{shown}@{h}"
             | none => s!"id{shown}"
           options := ← deviceOptions host o }

/-- What came of asking a controller: an answer that comes too late counts as none. -/
def outcome (site : Site) (host : Option String) (timeout : Value) (o : IpmiOptions) :
    Action (Except Fault (List Int)) := do
  let read ← (readSupplies site host o).run
  return match timeout.patience with
    | .waits => read
    | .expires => .error .expired
    | .refused f => .error f

/-- Asks one controller.  A failure to answer counts as having no devices; what fails here is writing an
option or the timeout. -/
def probe (site : Site) (timeout : Value) (o : IpmiOptions) (host : Option String) :
    Attempt (List Device) := do
  match ← ExceptT.lift (outcome site host timeout o) with
  | .ok ids => Attempt.ofExcept (ids.mapM (device host o))
  | .error f =>
    if f.isTimeout then
      let limit ← Attempt.ofExcept timeout.written
      Action.debug s!"No IPMI answer from {hostName host} within {limit}s"
    else Action.debug s!"IPMI query of {hostName host} failed: {f.message}"
    return []

def engine (site : Site) : Engine where
  isAvailable := site.installed .ipmi
  scan gate start stop timeout options := do
    if !site.installed .ipmi then throw (.unavailable .ipmi "pyghmi")
    let o : IpmiOptions := match options with
      | .ipmi o => o
      | _ => {}
    match start, stop with
    | some start, some stop =>
      let ask : Probe := fun address => do
        let found ← probe site timeout o (some address)
        return some found
      let devices ← Probe.range gate ask start stop
      Action.debug s!"IPMI scan of {start} .. {stop} found {devices.length} devices"
      return some devices
    | _, _ =>
      let found ← probe site timeout o none
      return some found

end PowerDiscovery.Ipmi
