/-! # The log

A log is the list of its entries in the order of their emission.  `Level.number` orders the levels, and
a reader of the log sees the entries of a level at or above a threshold. -/

namespace PowerDiscovery

inductive Level where
  | debug
  | info
  | warning
  | error
deriving DecidableEq, Repr

def Level.number : Level → Nat
  | .debug => 10
  | .info => 20
  | .warning => 30
  | .error => 40

def Level.name : Level → String
  | .debug => "DEBUG"
  | .info => "INFO"
  | .warning => "WARNING"
  | .error => "ERROR"

structure LogEntry where
  level : Level
  text : String
deriving DecidableEq, Repr

namespace LogEntry

def debug (text : String) : LogEntry := ⟨.debug, text⟩

def info (text : String) : LogEntry := ⟨.info, text⟩

def warning (text : String) : LogEntry := ⟨.warning, text⟩

def error (text : String) : LogEntry := ⟨.error, text⟩

def reaches (entry : LogEntry) (threshold : Nat) : Bool :=
  threshold ≤ entry.level.number

end LogEntry

structure Traced (ε α : Type) where
  value : α
  events : List ε := []

namespace Traced

variable {ε α β : Type}

def pure (a : α) : Traced ε α := ⟨a, []⟩

def bind (x : Traced ε α) (f : α → Traced ε β) : Traced ε β :=
  let y := f x.value
  ⟨y.value, x.events ++ y.events⟩

def map (f : α → β) (x : Traced ε α) : Traced ε β := ⟨f x.value, x.events⟩

instance : Monad (Traced ε) where
  pure := pure
  bind := bind
  map := map

def emit (e : ε) : Traced ε Unit := ⟨(), [e]⟩

def mapEvents {δ : Type} (f : ε → δ) (x : Traced ε α) : Traced δ α := ⟨x.value, x.events.map f⟩

@[simp] theorem pure_value (a : α) : (Pure.pure a : Traced ε α).value = a := rfl

@[simp] theorem pure_events (a : α) : (Pure.pure a : Traced ε α).events = [] := rfl

@[simp] theorem bind_value (x : Traced ε α) (f : α → Traced ε β) :
    (x >>= f).value = (f x.value).value := rfl

@[simp] theorem bind_events (x : Traced ε α) (f : α → Traced ε β) :
    (x >>= f).events = x.events ++ (f x.value).events := rfl

@[simp] theorem map_value (f : α → β) (x : Traced ε α) : (f <$> x).value = f x.value := rfl

end Traced

abbrev Logged (α : Type) := Traced LogEntry α

end PowerDiscovery
