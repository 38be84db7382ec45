import PowerDiscovery.Range.Interfaces

/-! # Folding range arguments

Arguments name the first address of a range, the last one, or a whole network.  A first and a last
address next to each other make a range; an address that stays alone is a range of its own. -/

namespace PowerDiscovery

/-- An argument that names addresses to scan.  A network is named as the ends of ranges are. -/
inductive RangeArgument where
  | first (address : Endpoint)
  | last (address : Endpoint)
  | network (name : Endpoint)
deriving DecidableEq, Repr

structure Folder where
  registry : Registry := {}
  start : Option Endpoint := none
  stop : Option Endpoint := none
deriving DecidableEq, Repr

structure Folder.Rejection where
  argument : String
  cause : Address.Error
deriving DecidableEq, Repr

def Folder.Rejection.message (r : Folder.Rejection) : String :=
  s!"Invalid -m argument {r.argument}: {r.cause.message}"

inductive Folder.Failure where
  | rejected (r : Folder.Rejection)
  | wordless
deriving DecidableEq, Repr

/-- What a folder is after an argument, and what went wrong if it could not be taken. -/
structure Folder.Outcome where
  folder : Folder
  failure : Option Folder.Failure := none

namespace Folder

def flush (f : Folder) : Logged Folder := do
  if f.start.isSome || f.stop.isSome then
    let r ← f.registry.add f.start f.stop
    return { registry := r }
  else return { registry := f.registry }

def takeFirst (f : Folder) (address : Endpoint) : Logged Folder := do
  let f ← if f.start.isSome then f.flush else pure f
  let f := { f with start := some address }
  if f.stop.isSome then f.flush else return f

def takeLast (f : Folder) (address : Endpoint) : Logged Folder := do
  let f ← if f.stop.isSome then f.flush else pure f
  let f := { f with stop := some address }
  if f.start.isSome then f.flush else return f

def takeNetwork (interfaces : List Interface) (f : Folder) (name : Endpoint) : Logged Outcome := do
  let f ← f.flush
  match name with
  | .wordless => return { folder := f, failure := some .wordless }
  | .text s =>
    let outcome ← match DiscoveryMode.ofName? s with
      | some mode => f.registry.discoverMode interfaces mode
      | none => f.registry.addCidr s
    return { folder := { f with registry := outcome.registry }
             failure := outcome.failure.map fun cause => .rejected ⟨s, cause⟩ }

def take (interfaces : List Interface) (f : Folder) : RangeArgument → Logged Outcome
  | .first address => return { folder := ← f.takeFirst address }
  | .last address => return { folder := ← f.takeLast address }
  | .network name => f.takeNetwork interfaces name

def takeAll (interfaces : List Interface) (f : Folder) :
    List RangeArgument → Logged (Except Failure Folder)
  | [] => return .ok f
  | argument :: arguments => do
    let outcome ← f.take interfaces argument
    match outcome.failure with
    | some failure => return .error failure
    | none => outcome.folder.takeAll interfaces arguments

end Folder

def Registry.ofArguments (interfaces : List Interface) (arguments : List RangeArgument) :
    Logged (Except Folder.Failure Registry) := do
  match ← Folder.takeAll interfaces {} arguments with
  | .error failure => return .error failure
  | .ok folder => return .ok (← folder.flush).registry

end PowerDiscovery
