import PowerDiscovery.Discovery.Engine
import PowerDiscovery.Site.Basic

/-! # Simulated devices

A simulated device is a file with one of two endings in a directory.  Files are reported in the order of
their names. -/

namespace PowerDiscovery.Simulation

def defaultDirectory : String := "/etc/nut"

def endings : List String := [".dev", ".seq"]

def hasEnding (name : String) : Bool := endings.contains (Location.ending name)

/-- The device that a file describes. -/
def deviceOf (name : String) : Device where
  backend := .nutSimulation
  driver := "dummy-ups"
  port := name

/-- The devices that members of a directory describe, one after the other.  Only members whose names have one
of the endings are looked at. -/
def described (location : String) : List Member → Except Fault (List Device)
  | [] => .ok []
  | m :: members =>
    if hasEnding m.name then do
      let found := if ← Files.isFile location m then [deviceOf m.name] else []
      return found ++ (← described location members)
    else described location members

def devicesOf (location : String) (members : List Member) : Except Fault (List Device) :=
  described location (members.mergeSort fun a b => decide (a.name ≤ b.name))

/-- The directory that a program looks at: the one it is told, or the one that the environment names. -/
def directory (told : Option String) (e : Environment) : String :=
  Location.normal <| match told.filter fun s => !s.isEmpty with
    | some path => path
    | none => (e.nonempty? "NUT_CONFPATH").getD defaultDirectory

/-- The directory that a scan looks at: a location among the options goes over the one of the engine. -/
def target (directory : String) : ScanOptions → Except Fault String
  | .location (.text s) => .ok (if s.isEmpty then directory else Location.normal s)
  | .location v => if v.isGiven then .error (.notLocation v.kindName) else .ok directory
  | _ => .ok directory

def engine (site : Site) (directory : String) : Engine where
  isAvailable := site.installed .nutSimulation
  scan _ _ _ _ options := do
    let location ← Attempt.ofExcept (target directory options)
    match site.files.list location with
    | .error f =>
      if !f.isSystem then throw f
      Action.debug s!"Cannot list {location}: {f.message}"
      return some []
    | .ok members =>
      let devices ← Attempt.ofExcept (devicesOf location members)
      Action.debug s!"Found {devices.length} simulation files in {location}"
      return some devices

end PowerDiscovery.Simulation
