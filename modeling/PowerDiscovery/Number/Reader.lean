import PowerDiscovery.Number.Binary64
import PowerDiscovery.Number.Numeral
import PowerDiscovery.Text.Letter

/-! # Reading a floating point number

Accepted are digits with an optional fraction and an optional decimal exponent, and the words `inf`,
`infinity` and `nan` in letters of either case, each with an optional sign and with white space around
it.  Digits may be of any script, and a single underscore may stand between two digits. -/

namespace PowerDiscovery.Binary64

open Text

def plainDigit (c : Char) : Char :=
  match digitValue? c with
  | some d => Char.ofNat ('0'.toNat + d)
  | none => c

def dropUnderscores : Option Char → List Char → Option (List Char)
  | _, [] => some []
  | before, '_' :: cs =>
    if before.any Char.isDigit && cs.head?.any Char.isDigit then dropUnderscores (some '_') cs else none
  | _, c :: cs => (dropUnderscores (some c) cs).map (c :: ·)

def cutDigits (cs : List Char) : List Nat × List Char :=
  ((cs.takeWhile Char.isDigit).map fun c => c.toNat - '0'.toNat, cs.dropWhile Char.isDigit)

def readExponent? : List Char → Option Int
  | [] => some 0
  | c :: cs =>
    if c = 'e' || c = 'E' then
      let (negative, body) := Numeral.cutSign cs
      match cutDigits body with
      | ([], _) => none
      | (digits, []) => some (Numeral.signed negative (ofDigits 10 digits))
      | _ => none
    else none

def readDecimal? (negative : Bool) (cs : List Char) : Option Binary64 := do
  let (whole, rest) := cutDigits cs
  let (fraction, rest) := match rest with
    | '.' :: rest => cutDigits rest
    | rest => ([], rest)
  if whole.isEmpty && fraction.isEmpty then none
  else
    let exponent ← readExponent? rest
    return ofDecimal negative (ofDigits 10 (whole ++ fraction)) (exponent - fraction.length)

def read? (text : String) : Option Binary64 := do
  let cs ← dropUnderscores none ((trimWhile Numeral.isEdge text.toList).map plainDigit)
  let (negative, body) := Numeral.cutSign cs
  let word := String.ofList (body.map Char.toLower)
  if word = "inf" || word = "infinity" then return .infinite negative
  else if word = "nan" then return .nan
  else readDecimal? negative body

end PowerDiscovery.Binary64
