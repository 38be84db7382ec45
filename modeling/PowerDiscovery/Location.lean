import PowerDiscovery.Text.Split

/-! # File locations

The written form of a location: repeated separators and steps to the same directory drop out, a
trailing separator goes, exactly two leading separators stay two, and an empty location is `.`. -/

namespace PowerDiscovery.Location

open Text

def root : List Char → List Char
  | '/' :: '/' :: '/' :: _ => ['/']
  | '/' :: '/' :: _ => ['/', '/']
  | '/' :: _ => ['/']
  | _ => []

def names (cs : List Char) : List (List Char) :=
  (split '/' cs).filter fun name => !name.isEmpty && name != ['.']

def normal (s : String) : String :=
  let cs := s.toList
  match root cs ++ join '/' (names cs) with
  | [] => "."
  | out => String.ofList out

def child (directory name : String) : String :=
  normal (if directory.endsWith "/" then directory ++ name else directory ++ "/" ++ name)

def stepUp : String := ".."

def origin (s : String) : String := if s.startsWith "/" then "/" else "."

def steps (s : String) : List String := (names s.toList).map String.ofList

/-- The location of the directory that holds another one.  The root holds itself, and above the directory
where relative locations start there are only steps up. -/
def above (s : String) : String :=
  let way := steps s
  if s = "." || way.getLast? = some stepUp then child s stepUp
  else way.dropLast.foldl child (origin s)

/-- The ending of a file name: from its last dot on, unless that dot is its first or last character. -/
def ending (name : String) : String :=
  let cs := name.toList
  let tail := (cs.reverse.takeWhile (· != '.')).reverse
  if tail.length = cs.length || tail.isEmpty || tail.length + 1 = cs.length then ""
  else String.ofList ('.' :: tail)

end PowerDiscovery.Location
