/-! # Reading UTF-8 with replacement

`decodeUtf8` reads octets as UTF-8.  Each maximal run of octets that begins a character but does not
complete it, and each octet that begins none, becomes one replacement character. -/

namespace PowerDiscovery.Text

def replacement : Char := Char.ofNat 0xFFFD

/-- What the first octet of a character promises: how many octets follow, the value bits it carries,
and the bounds that the second octet has to keep. -/
structure Utf8Lead where
  tails : Nat
  bits : Nat
  low : Nat := 0x80
  high : Nat := 0xBF

def utf8Lead? (b : Nat) : Option Utf8Lead :=
  if b < 0x80 then some { tails := 0, bits := b }
  else if 0xC2 ≤ b && b ≤ 0xDF then some { tails := 1, bits := b - 0xC0 }
  else if b = 0xE0 then some { tails := 2, bits := 0, low := 0xA0 }
  else if b = 0xED then some { tails := 2, bits := 0xD, high := 0x9F }
  else if 0xE1 ≤ b && b ≤ 0xEF then some { tails := 2, bits := b - 0xE0 }
  else if b = 0xF0 then some { tails := 3, bits := 0, low := 0x90 }
  else if 0xF1 ≤ b && b ≤ 0xF3 then some { tails := 3, bits := b - 0xF0 }
  else if b = 0xF4 then some { tails := 3, bits := 4, high := 0x8F }
  else none

/-- What is owed while a character is read: the octets still to come, the bits so far, and the bounds
of the next octet. -/
abbrev Utf8Debt := Option Utf8Lead

/-- The debt and the finished characters after an octet that begins a character or stands alone. -/
def beginUtf8 (b : Nat) : List Char × Utf8Debt :=
  match utf8Lead? b with
  | none => ([replacement], none)
  | some lead => if lead.tails = 0 then ([Char.ofNat lead.bits], none) else ([], some lead)

/-- One octet under a debt: it pays, or the debt is written off and the octet begins anew. -/
def stepUtf8 (debt : Utf8Debt) (b : Nat) : List Char × Utf8Debt :=
  match debt with
  | none => beginUtf8 b
  | some lead =>
    if lead.low ≤ b && b ≤ lead.high then
      let bits := lead.bits * 64 + (b - 0x80)
      if lead.tails ≤ 1 then ([Char.ofNat bits], none)
      else ([], some { tails := lead.tails - 1, bits := bits })
    else
      let (cs, next) := beginUtf8 b
      (replacement :: cs, next)

def decodeUtf8From (debt : Utf8Debt) : List UInt8 → List Char
  | [] => if debt.isSome then [replacement] else []
  | b :: bs =>
    let (cs, next) := stepUtf8 debt b.toNat
    cs ++ decodeUtf8From next bs

def decodeUtf8 (octets : List UInt8) : String :=
  String.ofList (decodeUtf8From none octets)

end PowerDiscovery.Text
