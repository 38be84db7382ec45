import PowerDiscovery.Address.Printer
import PowerDiscovery.Address.Reader

/-! # Networks

A network is an address and a prefix length.  It holds the addresses that agree with its address on the
first bits; `first` and `last` are the lowest and the highest of them. -/

namespace PowerDiscovery

open Text

/-- A network as written: an address in it and the number of leading bits that its members share. -/
structure Network where
  address : Address
  length : Nat
  length_le : length ≤ address.family.width

namespace Network

def size (n : Network) : Nat := Nat.pow 2 (n.address.family.width - n.length)

def base (n : Network) : Nat := n.address.value / n.size * n.size

def first (n : Network) : Address :=
  if n.base = n.address.value then n.address else Address.ofNat n.address.family n.base

def last (n : Network) : Address :=
  Address.ofNat n.address.family (n.base + (n.size - 1))

def Holds (n : Network) (a : Address) : Prop :=
  a.family = n.address.family ∧ a.value / n.size = n.address.value / n.size

/-- The number of leading one bits of a number of `width` bits that has ones only at its head. -/
def leadingOnes? (width n : Nat) : Option Nat :=
  (List.range (width + 1)).find? fun k => n == Nat.pow 2 width - Nat.pow 2 (width - k)

def lengthDigits? (family : Family) (cs : List Char) : Option Nat := do
  let digits ← cs.mapM asciiDigit?
  let n := ofDigits 10 digits
  if digits.isEmpty || digits.length > Numeral.maxDigits || n > family.width then none else some n

/-- Reads a netmask, or else a host mask, in the notation of addresses; a text that is both counts as a
netmask. -/
def maskLength? (cs : List Char) : Option Nat := do
  let n ← Address.readInet? cs
  match leadingOnes? 32 n with
  | some k => some k
  | none => leadingOnes? 32 (0xFFFFFFFF - n)

def readLength? (family : Family) (text : String) : Option Nat :=
  let cs := text.toList
  match lengthDigits? family cs, family with
  | some n, _ => some n
  | none, .inet => maskLength? cs
  | none, .inet6 => none

def readFamily? (family : Family) (text : String) : Option Network := do
  let (addressText, length) ← match pieces '/' text with
    | [addressText] => some (addressText, some family.width)
    | [addressText, mask] => some (addressText, readLength? family mask)
    | _ => none
  let address ← Address.readFamily? family addressText
  let length ← length
  if h : length ≤ address.family.width then some ⟨address, length, h⟩ else none

def read? (text : String) : Option Network :=
  (readFamily? .inet text).or (readFamily? .inet6 text)

/-- Reads a network in CIDR notation; white space may stand around it. -/
def readCidr (text : String) : Except Address.Error Network :=
  if !text.contains '/' then .error (.notCidr text)
  else
    let trimmed := trim text
    match read? trimmed with
    | some n => .ok n
    | none => .error (.notNetwork trimmed)

/-- The lowest and the highest address of a network in CIDR notation, as texts. -/
def cidrRange (text : String) : Except Address.Error (String × String) :=
  (readCidr text).map fun n => (n.first.text, n.last.text)

/-- The prefix length of the netmask that an interface reports.  A mask with a slash carries its length
after the last one. -/
def netmaskLength (family : Family) (netmask : String) : Except Address.Error Int :=
  if netmask.contains '/' then
    match Numeral.read ((pieces '/' netmask).getLast?.getD "") with
    | .ok n => .ok n
    | .error e => .error (.notNumeral e)
  else match readLength? family netmask with
    | some n => .ok n
    | none => .error (.notNetmask netmask)

end Network

end PowerDiscovery
