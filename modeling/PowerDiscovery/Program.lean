import PowerDiscovery.Budget.FileLimit
import PowerDiscovery.CommandLine.Help
import PowerDiscovery.LogLevel
import PowerDiscovery.Range.Folder
import PowerDiscovery.Run.Execution
import PowerDiscovery.Settings.FromArguments
import PowerDiscovery.Settings.FromDocument

/-! # The program

The program reads its command line, puts its settings together and executes one run.  Words that cannot
be used are answered by the help text and a warning, before anything is scanned. -/

namespace PowerDiscovery

open CommandLine

structure Machine where
  environment : Environment := []
  files : Files
  fileLimit : FileLimit := .absent
  interfaces : List Interface := []
  engines : Engines

structure Ending where
  status : Int := 0
  output : String := ""
  complaint : String := ""

inductive Breakdown where
  | settingsFile (cause : Settings.FileError)
  | run (cause : Run.Error)

def Breakdown.message : Breakdown → String
  | .settingsFile cause => cause.message
  | .run cause => cause.message

/-- The events that a reader of the log at a threshold sees, together with all that are no entries of
the log. -/
def Event.passes (threshold : Nat) : Event → Bool
  | .log entry => entry.reaches threshold
  | _ => true

def Action.readAt {α : Type} (threshold : Nat) (x : Action α) : Action α :=
  { x with events := x.events.filter (Event.passes threshold) }

namespace Program

def version : String := "1.0.0"

def badUsage : Int := -1

def refuse (available : Backend → Bool) (e : UsageError) : Ending :=
  { status := badUsage
    output := helpText available
    complaint := "\n\nWARNING: Some error has occurred while processing 'powerscan' command-line " ++
      s!"arguments ({e.message}), see more details above the usage help text.\n\n" }

def information? (available : Backend → Bool) (a : Arguments) : Option String :=
  if a.help then some (helpText available)
  else if a.version then some s!"powerscan {version}\n"
  else if a.available then
    some (String.join ((Backend.all.filter available).map fun b => b.listedName ++ "\n"))
  else none

def settingsFile? (a : Arguments) : Option String :=
  if a.config.isGiven then some a.config.display else none

def baseSettings (m : Machine) (a : Arguments) : Logged (Except Breakdown Settings) :=
  match settingsFile? a with
  | some path => (·.mapError .settingsFile) <$> Settings.ofFile m.environment m.files path
  | none => .ok <$> Settings.ofEnvironment m.environment

abbrev Step (α : Type) := ExceptT Run.Error Action α

def Step.ofLogged {α : Type} (x : Logged α) : Step α := ExceptT.lift (Action.ofLogged x)

def Step.ofUsage {α : Type} : Except UsageError α → Step α
  | .ok a => return a
  | .error e => throw (.usage e)

def Step.ofFault {α : Type} : Except Fault α → Step α
  | .ok a => return a
  | .error f => throw (.fault f)

/-- The settings of the run: what the command line says, what the credentials fill in, and the defaults
for what cannot be used. -/
def settle (m : Machine) (a : Arguments) (s : Settings) : Step Settings := do
  let s ← Step.ofLogged (s.apply a)
  let loaded ← Step.ofLogged (s.loadCredentials m.files)
  let _ ← Step.ofFault loaded.outcome
  let (s, warnings) ← Step.ofFault loaded.settings.validate
  warnings.forM fun w => Action.warning s!"Config: {w}"
  return s

def budget (m : Machine) (a : Arguments) (s : Settings) : Step Budget := do
  let limit ← Step.ofFault (← Step.ofLogged m.fileLimit.read)
  let budget ← Step.ofFault (← Step.ofLogged (Budget.make s.slots limit))
  if a.thread.isNull then return budget
  else Step.ofFault (← Step.ofLogged (budget.override a.thread))

def registry (m : Machine) (a : Arguments) : Step Registry := do
  match ← Step.ofLogged (Registry.ofArguments m.interfaces a.ranges) with
  | .ok r => return r
  | .error (.rejected r) => throw (.usage (.badRange r))
  | .error .wordless => throw (.fault (.notLookedUp (Value.list []).kindName))

/-- The run that the arguments ask for: what it is to do, and the state in which it begins. -/
def arrange (m : Machine) (a : Arguments) (s : Settings) : Step (Run.Plan × Run.State) := do
  Step.ofUsage (a.checkAvailable m.engines.available)
  let s ← settle m a s
  let budget ← budget m a s
  let registry ← registry m a
  return (
    { settings := s, requested := a.requested, scanAll := a.completeScan, engines := m.engines },
    { registry := registry, bench := { budget := budget, gate := {} } })

def scan (m : Machine) (a : Arguments) (s : Settings) : Step String := do
  let (plan, state) ← arrange m a s
  let outcome ← ExceptT.lift (Run.execute plan state)
  match outcome.text with
  | .ok text => return text
  | .error e => throw e

/-- The ending of a run: a refusal becomes an exit status, and all other failures break the program. -/
def ending (available : Backend → Bool) : Except Run.Error String → Except Breakdown Ending
  | .ok text => .ok { output := text }
  | .error (.usage e) => .ok (refuse available e)
  | .error e => .error (.run e)

/-- Runs the program with arguments that ask for a scan.  The log is read at the usual threshold until
the settings say at which one. -/
def runArguments (m : Machine) (a : Arguments) : Action (Except Breakdown Ending) := do
  match ← Action.readAt Thresholds.initial.effective (Action.ofLogged (baseSettings m a)) with
  | .error e => return .error e
  | .ok s => match Thresholds.set a.debugLevel s.logLevel with
    | .error f => return .error (.run (.fault f))
    | .ok thresholds => do
      let done ← Action.readAt thresholds.effective (scan m a s).run
      return ending m.engines.available done

def run (m : Machine) (words : List String) : Action (Except Breakdown Ending) :=
  let available := m.engines.available
  match Arguments.read words with
  | .error e => return .ok (refuse available (.badWords e))
  | .ok a => match information? available a with
    | some text => return .ok { output := text }
    | none => runArguments m a

end Program

end PowerDiscovery
