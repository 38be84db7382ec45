import PowerDiscovery.Address.Basic
import PowerDiscovery.Backend
import PowerDiscovery.Value

/-! # Failures

What may go wrong while something outside is asked: the outside reports a failure of some kind with a
text, or a request is one that cannot be made.  Handlers tell failures apart by the predicates here. -/

namespace PowerDiscovery

/-- The kind under which the outside reports a failure.  Failures of the system carry the name of their
condition; a refused value and a failure at run time may carry one. -/
inductive FaultKind where
  | system (name : String)
  | timeout
  | usb
  | value (condition : Option String)
  | noUsbBackend
  | runtime (condition : Option String)
  | notImplemented
  | memory
  | client
  | other (name : String)
deriving DecidableEq, Repr

inductive Fault where
  | outside (kind : FaultKind) (text : String)
  | badAddress (cause : Address.Error)
  | badNumeral (cause : Numeral.Error)
  | unavailable (backend : Backend) (library : String)
  | lacksOperation (kindName operation : String)
  | notComparable (kindName relation : String)
  | notSearchable (kindName : String)
  | notIndexable (kindName : String)
  | notLookedUp (kindName : String)
  | notLocation (kindName : String)
  | notLevel (kindName : String)
  | notInteger (kindName : String)
  | tooLargeForReal
deriving DecidableEq, Repr

namespace Fault

def expired : Fault := .outside .timeout ""

def message : Fault → String
  | .outside .usb text => s!"[Errno None] {text}"
  | .outside _ text => text
  | .badAddress cause => cause.message
  | .badNumeral cause => cause.message
  | .unavailable backend library => s!"{backend.name} scan requires the '{library}' library"
  | .lacksOperation kindName operation => s!"'{kindName}' object has no attribute '{operation}'"
  | .notComparable kindName relation =>
    s!"'{relation}' not supported between instances of '{kindName}' and 'int'"
  | .notSearchable kindName => s!"argument of type '{kindName}' is not iterable"
  | .notIndexable kindName => s!"a value of type '{kindName}' cannot be indexed by a text"
  | .notLookedUp kindName => s!"unhashable type: '{kindName}'"
  | .notLocation kindName => s!"expected str, bytes or os.PathLike object, not {kindName}"
  | .notLevel kindName => s!"a log level cannot be a value of type '{kindName}'"
  | .notInteger kindName => s!"'{kindName}' object cannot be interpreted as an integer"
  | .tooLargeForReal => "int too large to convert to float"

def lacks (v : Value) (operation : String) : Fault :=
  .lacksOperation v.kindName operation

def unwritable : Fault := .badNumeral .unwritable

def isSystem : Fault → Bool
  | .outside (.system _) _ | .outside .timeout _ | .outside .usb _ => true
  | _ => false

def isTimeout : Fault → Bool
  | .outside .timeout _ => true
  | _ => false

def isValue : Fault → Bool
  | .outside (.value _) _ | .outside .noUsbBackend _ | .badAddress _ | .badNumeral _ => true
  | _ => false

def isNoUsbBackend : Fault → Bool
  | .outside .noUsbBackend _ => true
  | _ => false

def isHttpFailure : Fault → Bool
  | .outside .client _ | .outside .timeout _ => true
  | _ => false

def isRuntime : Fault → Bool
  | .outside (.runtime _) _ | .outside .notImplemented _ => true
  | _ => false

def spoilsStart (f : Fault) : Bool :=
  f.isRuntime || f.isSystem || match f with
    | .outside .memory _ => true
    | _ => false

end Fault

/-- The form of a value in messages and options, if it can be written. -/
def Value.written (v : Value) : Except Fault String :=
  if v.isWritable then .ok v.display else .error .unwritable

end PowerDiscovery
