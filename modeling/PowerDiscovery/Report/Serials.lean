import PowerDiscovery.Fault
import PowerDiscovery.Report.Layout
import PowerDiscovery.Text.Blank

/-! # The check of serial numbers

Devices of one list that report the same serial number, or a blank or all-zero one, cannot be told apart
by it.  The check names them in comments: first each shared number in the order of its first device, then
the devices with a blank one. -/

namespace PowerDiscovery.Report

open Text

/-- A serial number that identifies nothing: no text but white space, or only zeros. -/
def isBlankSerial (serial : String) : Bool :=
  (trimWhile isBlank serial.toList).all (· == '0')

/-- The devices seen by a check: those with a blank number, and those of each other number. -/
structure SerialGroups where
  blank : List String := []
  bySerial : List (String × List String) := []

namespace SerialGroups

def put (groups : List (String × List String)) (serial name : String) : List (String × List String) :=
  match groups with
  | [] => [(serial, [name])]
  | (other, names) :: rest =>
    if other = serial then (other, names ++ [name]) :: rest else (other, names) :: put rest serial name

def add (groups : SerialGroups) (name : String) (d : Device) : Except Fault SerialGroups :=
  match Value.lookup? d.options "serial" with
  | none => .ok groups
  | some (.text serial) =>
    if isBlankSerial serial then .ok { groups with blank := groups.blank ++ [name] }
    else .ok { groups with bySerial := put groups.bySerial serial name }
  | some other => .error (.lacks other "strip")

def addAll (groups : SerialGroups) : List (String × Device) → Except Fault SerialGroups
  | [] => .ok groups
  | (name, d) :: rest => do (← groups.add name d).addAll rest

def shared (groups : SerialGroups) : List (String × List String) :=
  groups.bySerial.filter fun group => group.2.length > 1

def listed (names : List String) : String := String.intercalate ", " names

/-- The comments on the groups, with an empty line after them; no text if there is nothing to say. -/
def comments (groups : SerialGroups) : String :=
  let shared := groups.shared.map fun (serial, names) =>
    s!"# WARNING: devices {listed names} report the same serial number {quoted serial}"
  let blank := if groups.blank.isEmpty then [] else
    [s!"# WARNING: devices {listed groups.blank} report blank or all-zero serial numbers"]
  let hint := ["# Devices without a unique serial number may need other matching " ++
    "options (bus, busport, device) to be told apart."]
  if (shared ++ blank).isEmpty then ""
  else String.intercalate "\n" (shared ++ blank ++ hint) ++ "\n\n"

end SerialGroups

def serialComments (devices : List (String × Device)) : Except Fault String := do
  return (← SerialGroups.addAll {} devices).comments

end PowerDiscovery.Report
