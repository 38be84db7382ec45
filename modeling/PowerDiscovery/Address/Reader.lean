import PowerDiscovery.Address.Basic

/-! # Reading addresses

An IPv4 address is four octets of one to three ASCII digits without a leading zero.  An IPv6 address is
eight groups of one to four hexadecimal digits; one run of zero groups may be left out as `::`, the last
two groups may be written as an IPv4 address, and a scope may follow a percent sign. -/

namespace PowerDiscovery.Address

open Text

def octet? (cs : List Char) : Option Nat := do
  let digits ← cs.mapM asciiDigit?
  let n := ofDigits 10 digits
  if digits.isEmpty || digits.length > 3 || (digits.head? == some 0 && digits.length > 1) || n > 255 then
    none
  else some n

def readInet? (cs : List Char) : Option Nat := do
  let octets ← (split '.' cs).mapM octet?
  if octets.length = 4 then some (ofDigits 256 octets) else none

def hexDigit? (c : Char) : Option Nat :=
  if c.isDigit then some (c.toNat - '0'.toNat)
  else if 'a' ≤ c && c ≤ 'f' then some (c.toNat - 'a'.toNat + 10)
  else if 'A' ≤ c && c ≤ 'F' then some (c.toNat - 'A'.toNat + 10)
  else none

def group? (cs : List Char) : Option Nat := do
  let digits ← cs.mapM hexDigit?
  if digits.isEmpty || digits.length > 4 then none else some (ofDigits 16 digits)

def expandTail (parts : List (List Char)) : Option (List (List Char)) :=
  match parts.getLast? with
  | some last =>
    if last.contains '.' then do
      let n ← readInet? last
      return parts.dropLast ++ [Nat.toDigits 16 (n / 0x10000), Nat.toDigits 16 (n % 0x10000)]
    else some parts
  | none => some parts

def gaps (parts : List (List Char)) : List Nat :=
  (List.range (parts.length - 1)).filter fun i => i > 0 && (parts[i]?).any List.isEmpty

/-- The groups before and after the gap at a place.  An address that begins or ends with a colon has the
gap there. -/
def aroundGap? (parts : List (List Char)) (gap : Nat) :
    Option (List (List Char) × List (List Char)) := do
  let before := parts.take gap
  let after := parts.drop (gap + 1)
  let before ← if before.head?.any List.isEmpty then
      (if before.length = 1 then some [] else none) else some before
  let after ← if after.getLast?.any List.isEmpty then
      (if after.length = 1 then some [] else none) else some after
  if before.length + after.length < 8 then some (before, after) else none

def readInet6? (cs : List Char) : Option Nat := do
  let parts := split ':' cs
  if parts.length < 3 then none
  else
    let parts ← expandTail parts
    if parts.length > 9 then none
    else match gaps parts with
      | [] =>
        let groups ← parts.mapM group?
        if groups.length = 8 then some (ofDigits 0x10000 groups) else none
      | [gap] =>
        let (before, after) ← aroundGap? parts gap
        let before ← before.mapM group?
        let after ← after.mapM group?
        let zeros := List.replicate (8 - (before.length + after.length)) 0
        some (ofDigits 0x10000 (before ++ zeros ++ after))
      | _ => none

/-- Splits a scope off; none if the scope is empty or holds a percent sign. -/
def cutScope? (cs : List Char) : Option (List Char × Option String) :=
  match cut '%' cs with
  | (body, none) => some (body, none)
  | (body, some scope) =>
    if scope.isEmpty || scope.contains '%' then none else some (body, some (String.ofList scope))

def readFamily? (family : Family) (text : String) : Option Address :=
  match family with
  | .inet => do ofNat? .inet (← readInet? text.toList)
  | .inet6 => do
    if text.contains '/' then none
    else
      let (body, scope) ← cutScope? text.toList
      ofNat? .inet6 (← readInet6? body) scope

def read (text : String) : Except Error Address :=
  match readFamily? .inet text with
  | some a => .ok a
  | none => match readFamily? .inet6 text with
    | some a => .ok a
    | none => .error (.notAddress text)

end PowerDiscovery.Address
