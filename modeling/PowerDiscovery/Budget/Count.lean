import PowerDiscovery.Value

/-! # Counts of slots

A number of slots as settings give it.  A truth value counts as one or zero and keeps its own word. -/

namespace PowerDiscovery

inductive Count where
  | number (n : Int)
  | truth (b : Bool)
deriving DecidableEq, Repr

namespace Count

def amount : Count → Int
  | .number n => n
  | .truth b => if b then 1 else 0

def toValue : Count → Value
  | .number n => .int n
  | .truth b => .truth b

/-- The descriptors kept back for what is always open. -/
def reserve : Int := 3

def ceiling (fdLimit : Int) : Int := max (fdLimit - reserve) 1

/-- A count cut down to what a limit on open files leaves room for; zero or less is no limit. -/
def clamp (value : Count) (fdLimit : Option Int) : Count :=
  match fdLimit with
  | none => value
  | some limit =>
    if limit ≤ 0 || value.amount ≤ ceiling limit then value else .number (ceiling limit)

end Count

end PowerDiscovery
