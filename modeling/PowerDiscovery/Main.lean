import PowerDiscovery.Discovery.Engines
import PowerDiscovery.Program

/-! # The command line

Gathers what the program needs to know of the machine, runs it, and writes its log and its texts.  No bus,
serial port or host is within reach of it: the libraries for them count as missing, and no host answers. -/

namespace PowerDiscovery.Console

open CommandLine

def variableNames : List String := [
  "NUT_CONFPATH",
  "POWERSCAN_CREDENTIALS_PATH",
  "POWERSCAN_LOG_LEVEL",
  "POWERSCAN_MAX_CONCURRENCY",
  "POWERSCAN_NUT_PORT",
  "POWERSCAN_PARALLEL",
  "POWERSCAN_TIMEOUT"]

def readEnvironment : IO Environment := do
  let values ← variableNames.mapM fun name => return (← IO.getEnv name).map fun value => (name, value)
  return values.filterMap id

def readEntry (location : String) : IO (Option FileEntry) := do
  try
    return some (.document (Document.read (← IO.FS.readFile location)))
  catch
    | .inappropriateType .. => return some (.directory [])
    | _ => return none

def readInto (files : Files) (location : String) : IO Files := do
  let entry ← readEntry location
  return fun l => if l = location then entry else files l

def outOfReach : Fault := .outside (.system "OSError") "Network is unreachable"

def siteOf (files : Files) : Site where
  installed b := [Backend.xml, .nut, .nutSimulation].contains b
  usb := .ok []
  snmp _ := .unreachable outOfReach
  http _ := .error (.outside .client outOfReach.message)
  broadcast := { openError := some outOfReach }
  upsd _ _ := { connectError := some outOfReach }
  services := []
  bmc _ := .error outOfReach
  serial _ := .error outOfReach
  serialPorts := []
  files := files

def machineOf (e : Environment) (files : Files) : Machine :=
  { environment := e, files := files
    engines := (siteOf files).engines (Simulation.directory none e) }

def readFiles (e : Environment) (a : Arguments) : IO Files := do
  let files ← match Program.settingsFile? a with
    | some path => readInto (fun _ => none) path
    | none => pure fun _ => none
  match (Program.baseSettings (machineOf e files) a).value with
  | .ok s => readInto files s.credentialsPath
  | .error _ => return files

def report (done : Action (Except Breakdown Ending)) : IO UInt32 := do
  for entry in Event.logOf done.events do
    IO.eprintln s!"[{entry.level.name}] {entry.text}"
  match done.value with
  | .ok ending =>
    IO.print ending.output
    IO.eprint ending.complaint
    return (ending.status % 256).toNat.toUInt32
  | .error breakdown =>
    IO.eprintln breakdown.message
    return 1

end PowerDiscovery.Console

open PowerDiscovery in
def main (words : List String) : IO UInt32 := do
  let e ← Console.readEnvironment
  let files ← match CommandLine.Arguments.read words with
    | .ok a => Console.readFiles e a
    | .error _ => pure fun _ => none
  Console.report (Program.run (Console.machineOf e files) words)
