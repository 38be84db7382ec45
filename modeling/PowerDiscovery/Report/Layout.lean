import PowerDiscovery.Device
import PowerDiscovery.Text.Quoted

/-! # Layouts of devices

The text of a device as a section of a driver configuration and as a single line. -/

namespace PowerDiscovery.Report

def field (v : Value) : String := Text.quoted v.display

def sectionName (n : Nat) : String := s!"nutdev{n}"

/-- A device as a section: its name, then one indented line for the driver, the port and each option,
then an empty line. -/
def sectionText (name : String) (d : Device) : String :=
  let lines := s!"[{name}]" :: s!"\tdriver = {Text.quoted d.driver}" :: s!"\tport = {Text.quoted d.port}" ::
    d.options.map fun (key, value) => s!"\t{key} = {field value}"
  String.intercalate "\n" lines ++ "\n\n"

def line (d : Device) : String :=
  let fields := s!"driver={Text.quoted d.driver}" :: s!"port={Text.quoted d.port}" ::
    d.options.map fun (key, value) => s!"{key}={field value}"
  d.backend.displayName ++ ":" ++ String.intercalate "," fields ++ "\n"

/-- Numbers devices from one on. -/
def numbered (first : Nat) : List Device → List (String × Device)
  | [] => []
  | d :: devices => (sectionName first, d) :: numbered (first + 1) devices

end PowerDiscovery.Report
