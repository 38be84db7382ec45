/-! # Capital and small letters

Two maps that agree with Unicode's full case mappings wherever the outcome is ASCII.  Every word that
is looked up after one of them is ASCII, and a letter with no ASCII outcome can be part of none of
them, so it may stay as it is. -/

namespace PowerDiscovery.Text

/-- The capital form: ASCII letters, and the other letters whose capital form is ASCII. -/
def capital (c : Char) : List Char :=
  match c.toNat with
  | 0xDF => ['S', 'S']
  | 0x131 => ['I']
  | 0x17F => ['S']
  | 0xFB00 => ['F', 'F']
  | 0xFB01 => ['F', 'I']
  | 0xFB02 => ['F', 'L']
  | 0xFB03 => ['F', 'F', 'I']
  | 0xFB04 => ['F', 'F', 'L']
  | 0xFB05 => ['S', 'T']
  | 0xFB06 => ['S', 'T']
  | _ => [c.toUpper]

/-- The small form: ASCII letters, and the Kelvin sign, the one other letter that becomes ASCII. -/
def small (c : Char) : Char :=
  if c.toNat = 0x212A then 'k' else c.toLower

def capitals (s : String) : String :=
  String.ofList (s.toList.flatMap capital)

def smalls (s : String) : String :=
  String.ofList (s.toList.map small)

end PowerDiscovery.Text
