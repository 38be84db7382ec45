import PowerDiscovery.Backend
import PowerDiscovery.Value

/-! # Power devices

A device that a scan found: the driver that handles it, the port to reach it, and further driver
options in the order in which they are displayed. -/

namespace PowerDiscovery

abbrev DeviceOptions := List (String × Value)

/-- Sets an option: a new name goes to the end, a known one keeps its place. -/
def DeviceOptions.put (options : DeviceOptions) (name : String) (value : Value) : DeviceOptions :=
  Value.setEntry options name value

structure Device where
  backend : Backend
  driver : String
  port : String
  options : DeviceOptions := []

def Device.isWritable (d : Device) : Bool := d.options.all (·.2.isWritable)

/-- The devices so far, followed by those of one more scan, which may have given none at all.  Nothing
is dropped: a device that two scans found is kept twice. -/
def Device.merge (sofar : List Device) (found : Option (List Device)) : List Device :=
  sofar ++ found.getD []

end PowerDiscovery
