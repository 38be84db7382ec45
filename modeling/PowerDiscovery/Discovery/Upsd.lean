import PowerDiscovery.Discovery.Engine
import PowerDiscovery.Site.Basic
import PowerDiscovery.Text.Split
import PowerDiscovery.Text.Utf8

/-! # Servers of power devices

A server is asked for the list of the units that it serves.  Each unit of the list becomes a device that
is reached through the server. -/

namespace PowerDiscovery.Upsd

open Text

def defaultPort : Nat := 3493

structure ListedUnit where
  name : String
  description : String
deriving DecidableEq, Repr

/-- Reads a line of a list: the word `UPS`, a name, and a description between quotes, with white space
between them and perhaps around them.  A description has no line feed and may hold quotes. -/
def unit? (line : String) : Option ListedUnit := do
  let cs := trimWhile isBlank line.toList
  let 'U' :: 'P' :: 'S' :: afterWord := cs | none
  let name := (afterWord.dropWhile isBlank).takeWhile (!isBlank ·)
  let afterName := (afterWord.dropWhile isBlank).dropWhile (!isBlank ·)
  let '"' :: quoted := afterName.dropWhile isBlank | none
  let description := quoted.dropLast
  if !afterWord.head?.any isBlank || name.isEmpty || !afterName.head?.any isBlank
    || quoted.getLast? != some '"' || description.contains '\n' then none
  else some ⟨String.ofList name, String.ofList description⟩

/-- The units that lines list, in their order; other lines are passed over. -/
def readUnits (lines : List String) : List ListedUnit := lines.filterMap unit?

/-- The most octets that a line of a reply may have before the line feed that ends it. -/
def lineLimit : Nat := 65536

structure ReplyLine where
  octets : List UInt8
  isEnded : Bool
deriving DecidableEq, Repr

def replyLines (reply : List UInt8) : List ReplyLine :=
  let pieces := split 10 reply
  pieces.dropLast.map (⟨·, true⟩) ++ (pieces.getLast?.filter (· != [])).toList.map (⟨·, false⟩)

def lineText (octets : List UInt8) : String :=
  String.ofList (dropEndWhile (fun c => c == '\r' || c == '\n') (decodeUtf8 octets).toList)

def ReplyLine.tooLong (line : ReplyLine) : Fault :=
  .outside (.value none)
    (if line.isEnded then "Separator is found, but chunk is longer than limit"
    else "Separator is not found, and chunk exceed the limit")

def ReplyLine.read (line : ReplyLine) : Except Fault String :=
  if line.octets.length > lineLimit then .error line.tooLong else .ok (lineText line.octets)

def isRefusal (line : String) : Bool := line.startsWith "ERR"

def isLast (line : String) : Bool := isRefusal line || line.startsWith "END LIST UPS"

/-- Reads the lines of a list up to the one that ends it or refuses it; gives those before that one, and the
refusal if there is one. -/
def readLines : List ReplyLine → Except Fault (List String × Option String)
  | [] => return ([], none)
  | first :: others => do
    let line ← first.read
    if isLast line then return ([], if isRefusal line then some line else none)
    let (lines, refusal) ← readLines others
    return (line :: lines, refusal)

def readList (server : UpsdServer) (host : String) (port : Value) : Attempt (List ListedUnit) := do
  Action.contact (.upsdSent host "LIST UPS\n")
  if let some f := server.readError then throw f
  let (lines, refusal) ← Attempt.ofExcept (readLines (replyLines server.reply))
  if let some line := refusal then
    let shown ← Attempt.ofExcept port.written
    Action.debug s!"upsd on {host}:{shown} refused LIST UPS: {line}"
  return readUnits lines

/-- The units that a server lists.  A failure of the system to close the connection is passed over; any
other one replaces what was read. -/
def listUnits (site : Site) (host : String) (port timeout : Value) : Attempt (List ListedUnit) := do
  match timeout.patience with
  | .refused f => throw f
  | .expires => throw .expired
  | .waits =>
    Action.contact (.upsd host port)
    let server := site.upsd host port
    if let some f := server.connectError then throw f
    let outcome ← (readList server host port).outcome
    match server.closeError with
    | some f => if f.isSystem then Attempt.ofExcept outcome else throw f
    | none => Attempt.ofExcept outcome

/-- How a unit of a server is reached; a port is written only if one is given. -/
def target (name host : String) (port : Value) : Except Fault String := do
  if port.isGiven then return s!"{name}@{host}:{← port.written}" else return s!"{name}@{host}"

def devices (backend : Backend) (host : String) (port : Value) (units : List ListedUnit) :
    Except Fault (List Device) :=
  units.mapM fun unit => do
    return { backend := backend, driver := "nutclient", port := ← target unit.name host port
             options := if unit.description.isEmpty then [] else [("desc", .text unit.description)] }

def probe (site : Site) (port timeout : Value) : Probe := fun address => do
  match ← (listUnits site address (port.orElse (.int defaultPort)) timeout).outcome with
  | .ok units => return some (← Attempt.ofExcept (devices .nut address port units))
  | .error f =>
    if !f.isSystem then throw f
    Action.debug s!"No upsd on {address}: {f.message}"
    return some []

def engine (site : Site) : Engine where
  isAvailable := site.installed .nut
  scan gate start stop timeout options := do
    match start, stop with
    | some start, some stop =>
      let port := match options with
        | .nut o => o.port
        | _ => .null
      let devices ← Probe.range gate (probe site port timeout) start stop
      Action.debug s!"NUT scan of {start} .. {stop} found {devices.length} devices"
      return some devices
    | _, _ =>
      Action.debug "NUT scan needs an address range, nothing to do"
      return some []

end PowerDiscovery.Upsd
