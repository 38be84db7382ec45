import PowerDiscovery.Address.Printer
import PowerDiscovery.Address.Reader

/-! # Spans of addresses

A span holds every address between two ends of one family, both included, from the lower to the higher
one.  `take` reaches its first members without looking at the rest, however many there are. -/

namespace PowerDiscovery

structure Span where
  family : Family
  first : Nat
  last : Nat
  ordered : first ≤ last
  last_lt : last < Nat.pow 2 family.width

namespace Span

def between (a b : Address) (h : a.family = b.family) : Span :=
  { family := a.family
    first := min a.value b.value
    last := max a.value b.value
    ordered := by omega
    last_lt := by
      have ha := a.value_lt
      have hb := b.value_lt
      rw [← h] at hb
      omega }

def read (start stop : String) : Except Address.Error Span := do
  let a ← Address.read start
  let b ← Address.read stop
  if h : a.family = b.family then return between a b h
  else throw (.mixedFamilies start stop)

def size (s : Span) : Nat := s.last + 1 - s.first

def take (s : Span) (n : Nat) : List Address :=
  (List.range' s.first (min n s.size)).map (Address.ofNat s.family)

def toList (s : Span) : List Address := s.take s.size

/-- The first `n` addresses between two texts; nothing is read for none. -/
def walk (start stop : String) (n : Nat) : Except Address.Error (List String) :=
  if n = 0 then .ok []
  else (read start stop).map fun s => (s.take n).map Address.text

end Span

end PowerDiscovery
