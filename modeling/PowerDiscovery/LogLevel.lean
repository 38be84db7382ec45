import PowerDiscovery.Fault
import PowerDiscovery.Journal
import PowerDiscovery.Text.Letter

/-! # Log levels

The threshold of the log is set by a word of the settings and raised by the debugging options of the
command line.  A threshold of zero is none of its own: the general one holds. -/

namespace PowerDiscovery

open Text

structure Thresholds where
  general : Nat
  own : Nat

namespace Thresholds

inductive Meaning where
  | level (n : Nat)
  | pattern (text : String)
  | styles

/-- The meaning of a word for a level; an unknown word is the usual level.  Two words stand for something
else than a level, and then no threshold can be set. -/
def meaning (word : String) : Meaning :=
  match capitals word with
  | "CRITICAL" | "FATAL" => .level 50
  | "ERROR" => .level 40
  | "WARNING" | "WARN" => .level 30
  | "INFO" => .level 20
  | "DEBUG" => .level 10
  | "NOTSET" => .level 0
  | "BASIC_FORMAT" => .pattern "%(levelname)s:%(name)s:%(message)s"
  | "_STYLES" => .styles
  | _ => .level 20

/-- The thresholds for a number of debugging options and a level of the settings, which has to be one that
can be written. -/
def set (debugLevel : Int) (v : Value) : Except Fault Thresholds := do
  let word ← v.written
  if debugLevel ≥ 2 then return ⟨10, 10⟩
  else match meaning word with
    | .level n => return ⟨n, if debugLevel = 0 then n else 10⟩
    | .pattern text => throw (.outside (.value none) s!"Unknown level: {literal text}")
    | .styles => throw (.notLevel "dict")

def effective (t : Thresholds) : Nat :=
  if t.own = 0 then t.general else t.own

def initial : Thresholds := ⟨30, 0⟩

end Thresholds

end PowerDiscovery
