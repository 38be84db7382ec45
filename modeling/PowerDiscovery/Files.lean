import PowerDiscovery.Document.Reader
import PowerDiscovery.Fault
import PowerDiscovery.Location

/-! # Files and the environment

The files that a program may look at, as a map from locations to what stands there, and the variables of
its environment. -/

namespace PowerDiscovery

structure Member where
  name : String
  isFile : Bool

inductive FileEntry where
  | directory (members : List Member)
  | document (contents : Except Document.Error Value)

abbrev Files := String → Option FileEntry

abbrev Environment := List (String × String)

namespace Environment

def get? (e : Environment) (name : String) : Option String :=
  (e.find? fun v => v.1 == name).map (·.2)

/-- The value of a variable that is set to some text. -/
def nonempty? (e : Environment) (name : String) : Option String :=
  (e.get? name).filter fun s => !s.isEmpty

end Environment

namespace Fault

def atLocation (condition : String) (number : Nat) (meaning location : String) : Fault :=
  .outside (.system condition) s!"[Errno {number}] {meaning}: {Text.literal location}"

def notDirectory (location : String) : Fault :=
  atLocation "NotADirectoryError" 20 "Not a directory" location

def isDirectory (location : String) : Fault :=
  atLocation "IsADirectoryError" 21 "Is a directory" location

end Fault

namespace Files

/-- Why a way leads nowhere: a name is missing, a document stands where a directory has to, a name or the
way itself is too long, or the way holds the character that ends texts for the system. -/
inductive Obstacle where
  | missing
  | document
  | length
  | terminator
deriving DecidableEq, Repr

def Obstacle.fault (location : String) : Obstacle → Fault
  | .missing => .atLocation "FileNotFoundError" 2 "No such file or directory" location
  | .document => .notDirectory location
  | .length => .atLocation "OSError" 36 "File name too long" location
  | .terminator => .outside (.value none) "embedded null byte"

/-- Whether an obstacle means no more than that nothing stands at the location. -/
def Obstacle.isAbsence (o : Obstacle) : Bool := o != .length

def maxName : Nat := 255

def maxLocation : Nat := 4095

/-- The location without steps up to which names lead from a directory.  Every name but the last has to be
a directory that exists, also one that is left again by a step up. -/
def follow (files : Files) (place : String) : List String → Except Obstacle String
  | [] => .ok place
  | name :: names =>
    match files place with
    | none => .error .missing
    | some (.document _) => .error .document
    | some (.directory _) =>
      if name.utf8ByteSize > maxName then .error .length
      else if name = Location.stepUp then follow files (Location.above place) names
      else follow files (Location.child place name) names

def find (files : Files) (location : String) : Except Obstacle FileEntry :=
  match files location with
  | some entry => .ok entry
  | none =>
    if location.contains (Char.ofNat 0) then .error .terminator
    else if location.utf8ByteSize > maxLocation then .error .length
    else do
      let place ← files.follow (Location.origin location) (Location.steps location)
      match files place with
      | some entry => return entry
      | none => throw .missing

def find? (files : Files) (location : String) : Except Fault (Option FileEntry) :=
  match files.find location with
  | .ok entry => .ok (some entry)
  | .error o => if o.isAbsence then .ok none else .error (o.fault location)

def list (files : Files) (location : String) : Except Fault (List Member) :=
  match files.find location with
  | .ok (.directory members) => .ok members
  | .ok (.document _) => .error (.notDirectory location)
  | .error o => .error (o.fault location)

/-- Whether a member of a directory is a regular file, if its own location can be looked at. -/
def isFile (location : String) (m : Member) : Except Fault Bool :=
  let place := Location.child location m.name
  if place.utf8ByteSize > maxLocation then .error (Obstacle.length.fault place) else .ok m.isFile

end Files

end PowerDiscovery
