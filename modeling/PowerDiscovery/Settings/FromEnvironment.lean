import PowerDiscovery.Files
import PowerDiscovery.Journal
import PowerDiscovery.Settings.Basic

/-! # Settings from the environment

Variables that are not set, or that do not hold what they should, leave the defaults in place. -/

namespace PowerDiscovery.Settings

open Text

/-- The settings if nothing is said; the environment may name the directory of simulated devices. -/
def initial (e : Environment) : Settings :=
  match e.nonempty? "NUT_CONFPATH" with
  | some path => { nutConfpath := .text path }
  | none => {}

/-- The whole number in a variable; a blank variable holds none, and any other text is warned about. -/
def integerVariable (e : Environment) (name : String) : Logged (Option Int) :=
  match e.get? name with
  | none => return none
  | some s =>
    if isBlankText s then return none
    else match Numeral.read? s with
      | some n => return some n
      | none => do
        Traced.emit (.warning s!"Ignoring non-integer value of {name}: {s}")
        return none

def onWords : List String := ["1", "true", "yes", "on"]

def ofEnvironment (e : Environment) : Logged Settings := do
  let s := initial e
  let timeout ← integerVariable e "POWERSCAN_TIMEOUT"
  let maxConcurrency ← integerVariable e "POWERSCAN_MAX_CONCURRENCY"
  let nutPort ← integerVariable e "POWERSCAN_NUT_PORT"
  return { s with
    timeout := (timeout.map Value.int).getD s.timeout
    maxConcurrency := (maxConcurrency.map Value.int).getD s.maxConcurrency
    nutPort := (nutPort.map Value.int).getD .null
    parallel := match e.nonempty? "POWERSCAN_PARALLEL" with
      | some word => .truth (onWords.contains (smalls (trim word)))
      | none => s.parallel
    credentialsPath := match e.nonempty? "POWERSCAN_CREDENTIALS_PATH" with
      | some path => Location.normal path
      | none => s.credentialsPath
    logLevel := .text ((e.get? "POWERSCAN_LOG_LEVEL").getD "INFO") }

end PowerDiscovery.Settings
