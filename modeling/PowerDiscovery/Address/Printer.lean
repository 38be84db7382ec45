import PowerDiscovery.Address.Basic

/-! # Printing addresses

An IPv4 address is printed as four decimal octets.  An IPv6 address is printed as eight lower-case
hexadecimal groups, the first of the longest runs of at least two zero groups left out as `::`, with its
scope after a percent sign. -/

namespace PowerDiscovery.Address

/-- The digits of a number in a base, most significant first, filled up with zeros to a count. -/
def places (base : Nat) : Nat → Nat → List Nat
  | 0, _ => []
  | count + 1, n => places base count (n / base) ++ [n % base]

@[simp] theorem length_places (base count n : Nat) : (places base count n).length = count := by
  induction count generalizing n with
  | zero => rfl
  | succ count ih => simp [places, ih]

theorem lt_of_mem_places {base count n d : Nat} (hbase : 0 < base) (h : d ∈ places base count n) :
    d < base := by
  induction count generalizing n with
  | zero => simp [places] at h
  | succ count ih =>
    rcases List.mem_append.1 h with h | h
    · exact ih h
    · rw [List.mem_singleton.1 h]
      exact Nat.mod_lt n hbase

theorem ofDigits_places {base count n : Nat} (h : n < Nat.pow base count) :
    Text.ofDigits base (places base count n) = n := by
  induction count generalizing n with
  | zero => exact (Nat.lt_one_iff.1 h).symm
  | succ count ih =>
    have hdiv : n / base < Nat.pow base count := Nat.div_lt_of_lt_mul (Nat.mul_comm _ _ ▸ h)
    rw [places, Text.ofDigits_concat, ih hdiv, Nat.div_add_mod']

structure ZeroRun where
  start : Nat
  length : Nat

/-- A search for the longest run of zero groups: the first of the longest ones so far, the place of the
next group, and the length of the run that ends there. -/
structure RunSearch where
  best : ZeroRun := ⟨0, 0⟩
  place : Nat := 0
  current : Nat := 0

def RunSearch.step (s : RunSearch) (group : Nat) : RunSearch :=
  let current := if group = 0 then s.current + 1 else 0
  { best := if current > s.best.length then ⟨s.place + 1 - current, current⟩ else s.best
    place := s.place + 1
    current := current }

def longestRun (groups : List Nat) : ZeroRun :=
  (groups.foldl RunSearch.step {}).best

def groupText (n : Nat) : String :=
  String.ofList (Nat.toDigits 16 n)

def groupsText (groups : List Nat) : String :=
  String.intercalate ":" (groups.map groupText)

def inet6Text (n : Nat) : String :=
  let groups := places 0x10000 8 n
  let run := longestRun groups
  if run.length ≥ 2 then
    groupsText (groups.take run.start) ++ "::" ++ groupsText (groups.drop (run.start + run.length))
  else groupsText groups

def inetText (n : Nat) : String :=
  String.intercalate "." ((places 256 4 n).map toString)

def text (a : Address) : String :=
  match a.family with
  | .inet => inetText a.value
  | .inet6 => inet6Text a.value ++ (a.scope.map ("%" ++ ·)).getD ""

end PowerDiscovery.Address
