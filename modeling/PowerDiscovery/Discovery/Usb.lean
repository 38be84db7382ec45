import PowerDiscovery.Discovery.Engine
import PowerDiscovery.Site.Basic

/-! # The USB bus

A device whose vendor and product are known is reported with the driver for it.  How much is said about
its place on the bus depends on the detail asked for; more detail only adds options at the end. -/

namespace PowerDiscovery.Usb

open Text

/-- The drivers of known devices, by vendor and product; no product stands for all of a vendor. -/
def knownDevices : List (Int × Option Int × String) := [
  (0x0463, some 0x0001, "usbhid-ups"),
  (0x0463, some 0xFFFF, "usbhid-ups"),
  (0x051D, none, "usbhid-ups"),
  (0x0764, some 0x0005, "usbhid-ups"),
  (0x0764, some 0x0501, "usbhid-ups"),
  (0x0764, some 0x0601, "usbhid-ups"),
  (0x09AE, none, "usbhid-ups"),
  (0x050D, none, "usbhid-ups"),
  (0x03F0, some 0x1F06, "usbhid-ups"),
  (0x03F0, some 0x1FE0, "usbhid-ups"),
  (0x047C, some 0xFFFF, "usbhid-ups"),
  (0x0665, some 0x5161, "nutdrv_qx"),
  (0x06DA, some 0x0003, "nutdrv_qx"),
  (0x0001, some 0x0000, "nutdrv_qx"),
  (0x10AF, some 0x0001, "bcmxcp_usb"),
  (0x0592, some 0x0002, "bcmxcp_usb"),
  (0x0D9F, some 0x0004, "nutdrv_qx"),
  (0x0D9F, some 0x00A2, "usbhid-ups"),
  (0x2B2D, some 0xFFFF, "nutdrv_qx")]

/-- The driver entered for a vendor and a product, or for all of a vendor. -/
def driverOf? (vendor : Int) (product : Option Int) : Option String :=
  (knownDevices.find? fun d => d.1 == vendor && d.2.1 == product).map (·.2.2)

def driver? (vendor : Int) (product : Option Int) : Option String :=
  (driverOf? vendor product).or (driverOf? vendor none)

/-- A number in hexadecimal, in at least four places; a sign takes one. -/
def hexId (n : Int) : String :=
  String.ofList (if n < 0 then '-' :: hex 3 n.natAbs else hex 4 n.natAbs)

def placeText (n : Int) : String := padded 3 n

def isUnreadable : Fault → Bool
  | .outside .usb _ | .outside .notImplemented _ => true
  | f => f.isValue

/-- A string of a device without the white space around it, if it has one that can be read. -/
def readString (unit : UsbUnit) (index : Nat) : Attempt (Option String) :=
  if index = 0 then return none
  else match unit.string index with
    | .ok found => return (found.filter fun s => !s.isEmpty).map trim
    | .error f => do
      if !isUnreadable f then throw f
      Action.debug s!"Cannot read USB string descriptor {index}: {f.message}"
      return none

def stringOption (name : String) (found : Option String) : DeviceOptions :=
  match found with
  | some s => if s.isEmpty then [] else [(name, .text s)]
  | none => []

def busPlace (unit : UsbUnit) : DeviceOptions :=
  if !unit.path.isEmpty then [("busport", .text (String.intercalate "." (unit.path.map toString)))]
  else if unit.port ≠ 0 then [("busport", .text (placeText unit.port))]
  else []

def placeOptions (options : UsbOptions) (unit : UsbUnit) : Except Fault DeviceOptions := do
  return (if ← options.reportsBus then [("bus", .text (placeText unit.bus))] else []) ++
    (if ← options.reportsPlace then busPlace unit else []) ++
    (if ← options.reportsDevice then [("device", .text (placeText unit.address))] else []) ++
    (if ← options.reportsRelease then [("bcdDevice", .text (hexId unit.release))] else [])

def deviceOptions (options : UsbOptions) (unit : UsbUnit) : Attempt DeviceOptions := do
  let product ← readString unit unit.productIndex
  let serial ← readString unit unit.serialIndex
  let vendor ← readString unit unit.vendorIndex
  let place ← Attempt.ofExcept (placeOptions options unit)
  return [("vendorid", .text (hexId unit.vendor).toUpper),
    ("productid", .text (hexId unit.product).toUpper)] ++
    stringOption "product" product ++ stringOption "serial" serial ++ stringOption "vendor" vendor ++
    place

def devicesOf (options : UsbOptions) : List UsbUnit → Attempt (List Device)
  | [] => return []
  | unit :: units => do
    match driver? unit.vendor (some unit.product) with
    | none => devicesOf options units
    | some driver =>
      Action.debug s!"USB device {hexId unit.vendor}:{hexId unit.product} matches {driver}"
      let found : Device :=
        { backend := .usb, driver := driver, port := "auto", options := ← deviceOptions options unit }
      return found :: (← devicesOf options units)

def enumerate (site : Site) (options : UsbOptions) : Attempt (List Device) := do
  devicesOf options (← Attempt.ofExcept site.usb)

/-- The engine for the USB bus.  A missing system library for USB is warned about and finds nothing. -/
def engine (site : Site) : Engine where
  isAvailable := site.installed .usb
  scan _ _ _ _ options := do
    if !site.installed .usb then throw (.unavailable .usb "pyusb")
    let options := match options with
      | .usb o => o
      | _ => {}
    match ← (enumerate site options).outcome with
    | .ok devices => return some devices
    | .error f =>
      if !f.isNoUsbBackend then throw f
      Action.warning s!"No USB backend library available: {f.message}"
      return some []

end PowerDiscovery.Usb
