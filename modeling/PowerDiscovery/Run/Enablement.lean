import PowerDiscovery.CommandLine.Arguments
import PowerDiscovery.Journal

/-! # Which backends take part

The backends that a run asks for take part, and a scan of everything adds all others whose library is
there, except those that have to be asked for.  A backend that is asked for must have its library. -/

namespace PowerDiscovery

open CommandLine

def scansAll (requested : List Backend) (scanAll : Bool) : Bool :=
  scanAll || requested.isEmpty

def takesPart (requested : List Backend) (scanAll : Bool) (available : Backend → Bool)
    (b : Backend) : Bool :=
  requested.contains b || (scansAll requested scanAll && !b.explicitOnly && available b)

def passedOver (requested : List Backend) (scanAll : Bool) (available : Backend → Bool) :
    List Backend :=
  if scansAll requested scanAll then Backend.all.filter fun b => !b.explicitOnly && !available b
  else []

/-- The backends that take part in a run, in the order of backends; or the first one that is asked for
without its library. -/
def enable (requested : List Backend) (scanAll : Bool) (available : Backend → Bool) :
    Logged (Except UsageError (List Backend)) :=
  match Backend.all.find? fun b => requested.contains b && !available b with
  | some b => ⟨.error (.backendMissing b), []⟩
  | none =>
    { value := .ok (Backend.all.filter (takesPart requested scanAll available))
      events := (passedOver requested scanAll available).map fun b =>
        .debug s!"{b.displayName} scan is not available, skipping" }

end PowerDiscovery
