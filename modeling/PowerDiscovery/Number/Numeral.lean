import PowerDiscovery.Text.Blank
import PowerDiscovery.Text.Digit
import PowerDiscovery.Text.Literal
import PowerDiscovery.Text.Split

/-! # Whole numbers written in decimal

A numeral is an optional sign and decimal digits of any script; a single underscore may stand between
two digits, and white space may stand around it.  At most `maxDigits` digits are read or written. -/

namespace PowerDiscovery

open Text

namespace Numeral

def maxDigits : Nat := 4300

def shownLength : Nat := 200

inductive Error where
  | malformed (text : String) (base : Nat := 10)
  | tooLong (digits : Nat)
  | unwritable
deriving DecidableEq, Repr

/-- The wording of an error.  The literal of a long text is cut, which may take its closing quote. -/
def Error.message : Error → String
  | .malformed text base =>
    s!"invalid literal for int() with base {base}: " ++
      String.ofList ((literal text).toList.take shownLength)
  | .tooLong digits =>
    s!"Exceeds the limit ({maxDigits} digits) for integer string conversion: value has {digits} digits; "
      ++ "use sys.set_int_max_str_digits() to increase the limit"
  | .unwritable =>
    s!"Exceeds the limit ({maxDigits} digits) for integer string conversion; "
      ++ "use sys.set_int_max_str_digits() to increase the limit"

def isWritable (n : Int) : Bool := n.natAbs < Nat.pow 10 maxDigits

/-- White space as it may stand around a number: the information separators do not count. -/
def isEdge (c : Char) : Bool :=
  isBlank c && !(0x1C ≤ c.toNat && c.toNat ≤ 0x1F)

/-- The values of digits that stand in groups with a single underscore between the groups. -/
def groups? (cs : List Char) : Option (List Nat) := do
  let groups ← (split '_' cs).mapM fun group =>
    if group.isEmpty then none else group.mapM digitValue?
  return groups.flatten

def cutSign : List Char → Bool × List Char
  | '-' :: cs => (true, cs)
  | '+' :: cs => (false, cs)
  | cs => (false, cs)

def signed (negative : Bool) (n : Nat) : Int :=
  if negative then -(n : Int) else n

def read (text : String) : Except Error Int :=
  let (negative, body) := cutSign (trimWhile isEdge text.toList)
  let inNumeral c := c == '_' || (digitValue? c).isSome
  match groups? (body.takeWhile inNumeral) with
  | none => .error (.malformed text)
  | some digits =>
    if digits.length > maxDigits then .error (.tooLong digits.length)
    else if (body.dropWhile inNumeral).isEmpty then .ok (signed negative (ofDigits 10 digits))
    else .error (.malformed text)

def read? (text : String) : Option Int :=
  (read text).toOption

end Numeral

/-- A whole number in decimal, padded with zeros to a width; the sign counts towards the width. -/
def padded (width : Nat) (n : Int) : String :=
  let digits := toString n.natAbs
  let sign := if n < 0 then "-" else ""
  sign ++ String.ofList (List.replicate (width - sign.length - digits.length) '0') ++ digits

end PowerDiscovery
