import PowerDiscovery.CommandLine.Flag
import PowerDiscovery.Location
import PowerDiscovery.Text.Split
import PowerDiscovery.Value

/-! # Reading the command line

The words of a command line are classified first, one by one; then the options take their values from
left to right.  A long name may be cut short as long as one option begins with it, short names may stand
in one word, and a value may follow its option in the same word.  After a word `--` there are no more
options. -/

namespace PowerDiscovery.CommandLine

open Text

inductive Error where
  | ambiguous (word : String) (candidates : List Flag)
  | expectedValue (flag : Flag)
  | notWhole (flag : Flag) (text : String)
  | ignoredValue (flag : Flag) (text : String)
  | conflict (flag other : Flag)
  | unrecognized (words : List String)
deriving DecidableEq, Repr

def Error.message : Error → String
  | .ambiguous word candidates =>
    s!"ambiguous option: {word} could match " ++ String.intercalate ", " (candidates.map Flag.long)
  | .expectedValue flag => s!"argument {flag.title}: expected one argument"
  | .notWhole flag text => s!"argument {flag.title}: invalid int value: {literal text}"
  | .ignoredValue flag text => s!"argument {flag.title}: ignored explicit argument {literal text}"
  | .conflict flag other => s!"argument {flag.title}: not allowed with argument {other.title}"
  | .unrecognized words => "unrecognized arguments: " ++ String.intercalate " " words

inductive Word where
  | plain
  | marker
  | unknown
  | option (flag : Flag) (isShort : Bool) (value : Option (List Char))
deriving DecidableEq, Repr

/-- Whether a word reads as a negative number: digits, with or without a fraction.  One line feed may
follow. -/
def isNegativeNumber (cs : List Char) : Bool :=
  let isDigit (c : Char) := (digitValue? c).isSome
  let body := match cs.reverse with
    | '\n' :: rest => rest.reverse
    | _ => cs
  match body with
  | '-' :: digits => match digits.dropWhile isDigit with
    | [] => !digits.isEmpty
    | '.' :: fraction => !fraction.isEmpty && fraction.all isDigit
    | _ => false
  | _ => false

def ofName? (cs : List Char) : Option (Flag × Bool) :=
  match cs with
  | ['-', c] => (Flag.ofShort? c).map (·, true)
  | _ => (Flag.ofLong? (String.ofList cs)).map (·, false)

def Word.ofOther (cs : List Char) : Word :=
  if isNegativeNumber cs || cs.contains ' ' then .plain else .unknown

def Word.ofLong (word : String) (beginning : List Char) (value : Option (List Char)) :
    Except Error Word :=
  match Flag.ofBeginning beginning with
  | [] => .ok (ofOther word.toList)
  | [flag] => .ok (.option flag false value)
  | candidates => .error (.ambiguous word candidates)

def Word.read (word : String) : Except Error Word :=
  let cs := word.toList
  let (beginning, value) := cut '=' cs
  match ofName? cs, ofName? beginning, cs with
  | some (flag, isShort), _, _ => .ok (.option flag isShort none)
  | none, some (flag, isShort), _ => .ok (.option flag isShort value)
  | none, none, '-' :: '-' :: _ => ofLong word beginning value
  | none, none, '-' :: c :: rest => match Flag.ofShort? c with
    | some flag => .ok (.option flag true (some rest))
    | none => .ok (ofOther cs)
  | none, none, _ => .ok .plain

def readWords : List String → Except Error (List (String × Word))
  | [] => .ok []
  | word :: words =>
    if word = "--" then .ok ((word, .marker) :: words.map (·, .plain))
    else do return (word, ← Word.read word) :: (← readWords words)

structure Given where
  flag : Flag
  value : Value := .null

structure Cluster where
  switches : List Flag
  last : Flag
  value : Option (List Char)

/-- Spreads the options of a word: while an option takes no value, what follows its short name are more
short names. -/
def Cluster.spread (flag : Flag) (isShort : Bool) : List Char → Except Error Cluster
  | [] =>
    if flag.operand = .none then .error (.ignoredValue flag "") else .ok ⟨[], flag, some []⟩
  | c :: cs =>
    if flag.operand ≠ .none then .ok ⟨[], flag, some (c :: cs)⟩
    else match isShort, Flag.ofShort? c with
      | true, some next =>
        if cs.isEmpty then .ok ⟨[flag], next, none⟩
        else do
          let cluster ← spread next true cs
          return { cluster with switches := flag :: cluster.switches }
      | _, _ => .error (.ignoredValue flag (String.ofList (c :: cs)))

def Cluster.read (flag : Flag) (isShort : Bool) : Option (List Char) → Except Error Cluster
  | none => .ok ⟨[], flag, none⟩
  | some cs => spread flag isShort cs

/-- Reads the value of an option.  A value that is just two dashes is dropped, and leaves none. -/
def readValue (flag : Flag) (text : String) : Except Error Value :=
  if text = "--" then .ok (.list [])
  else match flag.operand with
    | .whole _ => match Numeral.read? text with
      | some n => .ok (.int n)
      | none => .error (.notWhole flag text)
    | .location _ => .ok (.text (Location.normal text))
    | _ => .ok (.text text)

def addGiven (sofar : List Given) (given : Given) : Except Error (List Given) :=
  let others := if Flag.modes.contains given.flag then Flag.modes.filter (· ≠ given.flag) else []
  match others.find? fun other => sofar.any fun g => g.flag = other with
  | some other => .error (.conflict given.flag other)
  | none => .ok (sofar ++ [given])

def addSwitches (sofar : List Given) : List Flag → Except Error (List Given)
  | [] => .ok sofar
  | flag :: flags => do addSwitches (← addGiven sofar { flag := flag }) flags

def Cluster.addTo (sofar : List Given) (c : Cluster) (text : String) : Except Error (List Given) := do
  let given ← addSwitches sofar c.switches
  addGiven given ⟨c.last, ← readValue c.last text⟩

/-- The options given, the words that belong to none, and the options of the word before if the last of
them waits for its value. -/
structure Parsed where
  given : List Given := []
  extras : List String := []
  waiting : Option Cluster := none

def Parsed.take (p : Parsed) (word : String × Word) : Except Error Parsed :=
  match p.waiting, word.2 with
  | some cluster, .plain => do
    return { p with given := ← cluster.addTo p.given word.1, waiting := none }
  | some cluster, _ => .error (.expectedValue cluster.last)
  | none, .option flag isShort value => do
    let cluster ← Cluster.read flag isShort value
    if cluster.last.operand = .none then
      return { p with given := ← addSwitches p.given (cluster.switches ++ [cluster.last]) }
    else match cluster.value with
      | some text => return { p with given := ← cluster.addTo p.given (String.ofList text) }
      | none => return { p with waiting := some cluster }
  | none, _ => .ok { p with extras := p.extras ++ [word.1] }

def readOptions (words : List String) : Except Error (List Given) := do
  let parsed ← (← readWords words).foldlM Parsed.take {}
  match parsed.waiting with
  | some cluster => throw (.expectedValue cluster.last)
  | none => if parsed.extras.isEmpty then return parsed.given else throw (.unrecognized parsed.extras)

end PowerDiscovery.CommandLine
