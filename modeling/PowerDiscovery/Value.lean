import PowerDiscovery.Number.Reader
import PowerDiscovery.Number.Shortest
import PowerDiscovery.Text.Literal

/-! # Values of settings

A settings file may put a value of any kind under any name, so settings keep values of one type and
each use decides what it accepts.  `display` is the form of a value in messages and in device options;
`literal` is its form inside a list or a mapping, where text is quoted.  A value that holds a number with
too many digits has these forms too, but `isWritable` tells that they must not be shown. -/

namespace PowerDiscovery

inductive Value where
  | null
  | truth (b : Bool)
  | int (n : Int)
  | real (x : Binary64)
  | text (s : String)
  | list (items : List Value)
  | mapping (entries : List (String × Value))

namespace Value

mutual

def literal : Value → String
  | .null => "None"
  | .truth b => if b then "True" else "False"
  | .int n => toString n
  | .real x => x.text
  | .text s => Text.literal s
  | .list items => "[" ++ String.intercalate ", " (literals items) ++ "]"
  | .mapping entries => "\x7b" ++ String.intercalate ", " (entryLiterals entries) ++ "\x7d"

def literals : List Value → List String
  | [] => []
  | item :: items => literal item :: literals items

def entryLiterals : List (String × Value) → List String
  | [] => []
  | (key, value) :: entries => (Text.literal key ++ ": " ++ literal value) :: entryLiterals entries

end

def display : Value → String
  | .text s => s
  | v => v.literal

mutual

def isWritable : Value → Bool
  | .int n => Numeral.isWritable n
  | .list items => areWritable items
  | .mapping entries => areEntriesWritable entries
  | _ => true

def areWritable : List Value → Bool
  | [] => true
  | item :: items => isWritable item && areWritable items

def areEntriesWritable : List (String × Value) → Bool
  | [] => true
  | (_, value) :: entries => isWritable value && areEntriesWritable entries

end

/-- Whether a value counts as given: zero, no text, no items and no entries count as nothing. -/
def isGiven : Value → Bool
  | .null => false
  | .truth b => b
  | .int n => n != 0
  | .real x => !x.isZero
  | .text s => !s.isEmpty
  | .list items => !items.isEmpty
  | .mapping entries => !entries.isEmpty

def orElse (v w : Value) : Value :=
  if v.isGiven then v else w

def isNull : Value → Bool
  | .null => true
  | _ => false

def isText (v : Value) (s : String) : Bool :=
  match v with
  | .text t => t == s
  | _ => false

def isOneOf (v : Value) (words : List String) : Bool :=
  words.any v.isText

def equalsNat (v : Value) (n : Nat) : Bool :=
  match v with
  | .truth b => (if b then 1 else 0) == n
  | .int k => k == n
  | .real x => x.equalsNat n
  | _ => false

def kindName : Value → String
  | .null => "NoneType"
  | .truth _ => "bool"
  | .int _ => "int"
  | .real _ => "float"
  | .text _ => "str"
  | .list _ => "list"
  | .mapping _ => "dict"

/-- Sets an entry in a list of entries: a new key goes to the end, a known one keeps its place. -/
def setEntry (entries : List (String × Value)) (key : String) (value : Value) :
    List (String × Value) :=
  if entries.any fun entry => entry.1 == key then
    entries.map fun entry => if entry.1 == key then (key, value) else entry
  else entries ++ [(key, value)]

def lookup? (entries : List (String × Value)) (key : String) : Option Value :=
  (entries.find? fun entry => entry.1 == key).map (·.2)

end Value

end PowerDiscovery
