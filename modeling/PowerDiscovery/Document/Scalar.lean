import PowerDiscovery.Text.Split
import PowerDiscovery.Value

/-! # Scalars of settings documents

A scalar without quotes is a missing value, a truth value, a whole number in digits of one of four bases or
in groups of sixty, or a number with a fraction, if it has the form of one; any other is a text. -/

namespace PowerDiscovery.Document

open Text

inductive Error where
  | badCharacter
  | badBeginning
  | badIndent
  | notEntry
  | nestedEntry
  | openQuote
  | badEscape
  | reservedWord
  | secondDocument
  | badNumeral (cause : Numeral.Error)
deriving DecidableEq, Repr

def Error.message : Error → String
  | .badCharacter => "a character is not allowed"
  | .badBeginning => "a value begins with a character that cannot begin one"
  | .badIndent => "a line is indented unlike its neighbours"
  | .notEntry => "a line is not an entry of a mapping"
  | .nestedEntry => "an entry is not allowed here"
  | .openQuote => "a quoted text does not end"
  | .badEscape => "an escape stands for no character"
  | .reservedWord => "a word is reserved"
  | .secondDocument => "only a single document is expected"
  | .badNumeral cause => cause.message

def plainDigits (cs : List Char) : List Char := cs.filter (· != '_')

def digitIn? (base : Nat) (c : Char) : Option Nat :=
  let n := if c.isDigit then c.toNat - '0'.toNat
    else if 'a' ≤ c && c ≤ 'f' then c.toNat - 'a'.toNat + 10
    else if 'A' ≤ c && c ≤ 'F' then c.toNat - 'A'.toNat + 10
    else base
  if n < base then some n else none

/-- The base of a whole number without its sign, and what follows the mark of the base.  A zero marks
octal digits. -/
def baseOf? : List Char → Option (Nat × List Char)
  | [] => none
  | ['0'] => some (10, ['0'])
  | '0' :: 'b' :: cs => some (2, cs)
  | '0' :: 'x' :: cs => some (16, cs)
  | '0' :: cs => some (8, cs)
  | c :: cs => if c = '_' then none else some (10, c :: cs)

/-- The number of digits in a base, or why they make none: a mark may be followed by nothing but
underscores, and decimal digits may be too many. -/
def ofBase (base : Nat) (negative : Bool) (digits : List Nat) : Except Numeral.Error Int :=
  if digits.isEmpty && base != 8 then .error (.malformed "" base)
  else if base = 10 && digits.length > Numeral.maxDigits then .error (.tooLong digits.length)
  else .ok (Numeral.signed negative (ofDigits base digits))

def basedNumber? (cs : List Char) : Option (Except Numeral.Error Int) := do
  let (negative, body) := Numeral.cutSign cs
  let (base, written) ← baseOf? body
  let digits ← (plainDigits written).mapM (digitIn? base)
  if written.isEmpty then none else some (ofBase base negative digits)

def sixtyGroup? : List Char → Option Nat
  | [d] => digitIn? 10 d
  | [t, d] => do return 10 * (← digitIn? 6 t) + (← digitIn? 10 d)
  | _ => none

def sixtiesNumber? (cs : List Char) : Option (Except Numeral.Error Int) := do
  let (negative, body) := Numeral.cutSign cs
  match split ':' body with
  | first :: group :: groups =>
    let (base, written) ← baseOf? first
    let digits ← (plainDigits written).mapM (digitIn? 10)
    let later ← (group :: groups).mapM sixtyGroup?
    if base ≠ 10 || digits.head? == some 0 then none
    else some ((ofBase 10 false digits).map fun n =>
      Numeral.signed negative (later.foldl (60 * · + ·) n.natAbs))
  | _ => none

def isExponent : List Char → Bool
  | [] => true
  | e :: sign :: digits =>
    (e == 'e' || e == 'E') && (sign == '+' || sign == '-') && !digits.isEmpty && digits.all Char.isDigit
  | _ => false

/-- Whether a scalar has the form of a number with a fraction.  A sign needs a digit before the point. -/
def isFractional (cs : List Char) : Bool :=
  let (_, body) := Numeral.cutSign cs
  let isDigitLike (c : Char) := c.isDigit || c == '_'
  let whole := body.takeWhile isDigitLike
  match body.dropWhile isDigitLike with
  | '.' :: rest =>
    isExponent (rest.dropWhile isDigitLike) &&
      if whole.isEmpty then body.length == cs.length && rest.head?.any Char.isDigit
      else whole.head?.any Char.isDigit
  | _ => false

/-- The number with a fraction that a scalar writes, or one of the words for numbers that are none. -/
def fractional? (cs : List Char) : Option Binary64 :=
  let (negative, body) := Numeral.cutSign cs
  let word := String.ofList body
  if [".inf", ".Inf", ".INF"].contains word then some (.infinite negative)
  else if [".nan", ".NaN", ".NAN"].contains (String.ofList cs) then some .nan
  else if isFractional cs then Binary64.read? (String.ofList (plainDigits cs))
  else none

def nullWords : List String := ["", "~", "null", "Null", "NULL"]

def trueWords : List String :=
  ["yes", "Yes", "YES", "true", "True", "TRUE", "on", "On", "ON"]

def falseWords : List String :=
  ["no", "No", "NO", "false", "False", "FALSE", "off", "Off", "OFF"]

def reservedWords : List String := ["=", "<<"]

def resolve (cs : List Char) : Except Error Value :=
  let word := String.ofList cs
  if nullWords.contains word then .ok .null
  else if trueWords.contains word then .ok (.truth true)
  else if falseWords.contains word then .ok (.truth false)
  else if reservedWords.contains word then .error .reservedWord
  else match (basedNumber? cs).or (sixtiesNumber? cs) with
    | some (.ok n) => .ok (.int n)
    | some (.error e) => .error (.badNumeral e)
    | none => match fractional? cs with
      | some x => .ok (.real x)
      | none => .ok (.text word)

end PowerDiscovery.Document
