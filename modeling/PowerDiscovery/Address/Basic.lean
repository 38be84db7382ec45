import PowerDiscovery.Number.Numeral

/-! # Internet addresses

An address is a number below `2 ^ width` of its family; an IPv6 address may name a scope.  The errors
here are those of every text that has to be an address, a network, a netmask or a range. -/

namespace PowerDiscovery

open Text

inductive Family where
  | inet
  | inet6
deriving DecidableEq, Repr

def Family.width : Family → Nat
  | .inet => 32
  | .inet6 => 128

structure Address where
  family : Family
  value : Nat
  scope : Option String := none
  value_lt : value < Nat.pow 2 family.width
deriving DecidableEq, Repr

namespace Address

inductive Error where
  | notCidr (text : String)
  | notNetwork (text : String)
  | notAddress (text : String)
  | wordless
  | notNetmask (text : String)
  | notNumeral (cause : Numeral.Error)
  | mixedFamilies (start stop : String)
  | unknownMode (text : String)
deriving DecidableEq, Repr

def Error.message : Error → String
  | .notCidr text => s!"Not a CIDR net/mask specification: {text}"
  | .notNetwork text => s!"{literal text} does not appear to be an IPv4 or IPv6 network"
  | .notAddress text => s!"{literal text} does not appear to be an IPv4 or IPv6 address"
  | .wordless => "[] does not appear to be an IPv4 or IPv6 address"
  | .notNetmask text => s!"{literal text} is not a valid netmask"
  | .notNumeral cause => cause.message
  | .mixedFamilies start stop => s!"Address family mismatch in range {start} .. {stop}"
  | .unknownMode text => s!"Unknown auto-discovery mode: {text}"

def ofNat? (family : Family) (value : Nat) (scope : Option String := none) : Option Address :=
  if h : value < Nat.pow 2 family.width then some ⟨family, value, scope, h⟩ else none

theorem ofNat?_eq_some_iff {family : Family} {value : Nat} {scope : Option String} {a : Address} :
    ofNat? family value scope = some a ↔ a.family = family ∧ a.value = value ∧ a.scope = scope := by
  obtain ⟨family', value', scope', hlt⟩ := a
  simp only [ofNat?, Option.dite_none_right_eq_some, Option.some.injEq, Address.mk.injEq]
  constructor
  · rintro ⟨-, rfl, rfl, rfl⟩
    exact ⟨rfl, rfl, rfl⟩
  · rintro ⟨rfl, rfl, rfl⟩
    exact ⟨hlt, rfl, rfl, rfl⟩

def ofNat (family : Family) (value : Nat) : Address :=
  ⟨family, value % Nat.pow 2 family.width, none, Nat.mod_lt _ (Nat.two_pow_pos _)⟩

def isLoopback (a : Address) : Bool :=
  match a.family with
  | .inet => a.value / 0x1000000 == 127
  | .inet6 => a.value == 1

end Address

end PowerDiscovery
