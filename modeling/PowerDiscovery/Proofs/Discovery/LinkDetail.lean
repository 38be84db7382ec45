import PowerDiscovery.Discovery.Usb
import PowerDiscovery.Proofs.Discovery.Losses

/-! # Levels of detail about USB devices

A scan of the bus finds the same devices at every level of detail.  The levels differ only in what they say
about the place of a device, which stands at the end of its options, and a higher level goes on where a lower
one stops. -/

namespace PowerDiscovery.Usb

def atLevel (level : Int) : UsbOptions where
  detail := .int level

variable {a b level : Int}

/-! ### The place of a device -/

/-- What a level of detail says about the place of a device. -/
def placeAt (level : Int) (unit : UsbUnit) : DeviceOptions :=
  (if 1 ≤ level then ("bus", .text (placeText unit.bus)) :: busPlace unit else []) ++
    ((if 2 ≤ level then [("device", .text (placeText unit.address))] else []) ++
      if 3 ≤ level then [("bcdDevice", .text (hexId unit.release))] else [])

private theorem placeOptions_atLevel (level : Int) (unit : UsbUnit) :
    placeOptions (atLevel level) unit = .ok (placeAt level unit) := by
  have hreaches (n : Nat) : (atLevel level).detail.reaches n = .ok (decide ((n : Int) ≤ level)) := rfl
  simp only [placeOptions, UsbOptions.reportsBus, UsbOptions.reportsPlace, UsbOptions.reportsDevice,
    UsbOptions.reportsRelease, hreaches, bind, Except.bind, pure, Except.pure, placeAt]
  by_cases h : 1 ≤ level
  · simp [h]
  · simp [h]

private theorem placeAt_of_lt (h : level < 1) (unit : UsbUnit) : placeAt level unit = [] := by
  simp [placeAt, show ¬ 1 ≤ level by omega, show ¬ 2 ≤ level by omega, show ¬ 3 ≤ level by omega]

private theorem placeAt_of_le (h : 3 ≤ level) (unit : UsbUnit) : placeAt level unit = placeAt 3 unit := by
  simp [placeAt, show 1 ≤ level by omega, show 2 ≤ level by omega, h]

private theorem placeAt_isPrefix (hab : a ≤ b) (unit : UsbUnit) : placeAt a unit <+: placeAt b unit := by
  by_cases h1 : 1 ≤ a
  · by_cases h2 : 2 ≤ a
    · by_cases h3 : 3 ≤ a
      · simp only [placeAt_of_le h3, placeAt_of_le (h3.trans hab), List.prefix_refl]
      · simp [placeAt, h1, h1.trans hab, h2, h2.trans hab, h3]
    · simp [placeAt, h1, h1.trans hab, h2, show ¬ 3 ≤ a by omega]
  · rw [placeAt_of_lt (by omega)]
    exact List.nil_prefix

/-! ### One device -/

/-- What is said about a device at every level of detail. -/
def plainOptions (unit : UsbUnit) : Except Fault DeviceOptions := do
  let product ← (readString unit unit.productIndex).run.value
  let serial ← (readString unit unit.serialIndex).run.value
  let vendor ← (readString unit unit.vendorIndex).run.value
  return [("vendorid", .text (hexId unit.vendor).toUpper),
    ("productid", .text (hexId unit.product).toUpper)] ++
    stringOption "product" product ++ stringOption "serial" serial ++ stringOption "vendor" vendor

private theorem deviceOptions_value (level : Int) (unit : UsbUnit) :
    (deviceOptions (atLevel level) unit).run.value =
      (plainOptions unit).map fun plain => plain ++ placeAt level unit := by
  simp only [deviceOptions, plainOptions, run_bind_value, Attempt.ofExcept_value, placeOptions_atLevel]
  cases (readString unit unit.productIndex).run.value with
  | error f => rfl
  | ok product =>
    cases (readString unit unit.serialIndex).run.value with
    | error f => rfl
    | ok serial =>
      cases (readString unit unit.vendorIndex).run.value with
      | error f => rfl
      | ok vendor => rfl

/-- The names of all options of a device, in their order. -/
def optionNames : List String :=
  ["vendorid", "productid", "product", "serial", "vendor", "bus", "busport", "device", "bcdDevice"]

private theorem names_stringOption (name : String) (found : Option String) :
    ((stringOption name found).map Prod.fst).Sublist [name] := by
  cases found with
  | none => exact List.nil_sublist _
  | some s =>
    rw [stringOption]
    split
    · exact List.nil_sublist _
    · exact List.Sublist.refl _

private theorem names_busPlace (unit : UsbUnit) : ((busPlace unit).map Prod.fst).Sublist ["busport"] := by
  unfold busPlace
  split
  · exact List.Sublist.refl _
  · split
    · exact List.Sublist.refl _
    · exact List.nil_sublist _

private theorem names_placeAt (level : Int) (unit : UsbUnit) :
    ((placeAt level unit).map Prod.fst).Sublist ["bus", "busport", "device", "bcdDevice"] := by
  have hbus : ((if 1 ≤ level then ("bus", .text (placeText unit.bus)) :: busPlace unit else [] :
      DeviceOptions).map Prod.fst).Sublist ["bus", "busport"] := by
    split
    · exact (names_busPlace unit).cons_cons "bus"
    · exact List.nil_sublist _
  have hdevice : ((if 2 ≤ level then [("device", .text (placeText unit.address))] else [] :
      DeviceOptions).map Prod.fst).Sublist ["device"] := by
    split
    · exact List.Sublist.refl _
    · exact List.nil_sublist _
  have hrelease : ((if 3 ≤ level then [("bcdDevice", .text (hexId unit.release))] else [] :
      DeviceOptions).map Prod.fst).Sublist ["bcdDevice"] := by
    split
    · exact List.Sublist.refl _
    · exact List.nil_sublist _
  simp only [placeAt, List.map_append]
  exact hbus.append (hdevice.append hrelease)

private theorem names_plainOptions {unit : UsbUnit} {plain : DeviceOptions} (h : plainOptions unit = .ok plain) :
    (plain.map Prod.fst).Sublist ["vendorid", "productid", "product", "serial", "vendor"] := by
  obtain ⟨product, -, h⟩ := bind_eq_ok.mp h
  obtain ⟨serial, -, h⟩ := bind_eq_ok.mp h
  obtain ⟨vendor, -, h⟩ := bind_eq_ok.mp h
  rw [← Except.ok.inj h]
  simp only [List.map_append]
  exact (((List.Sublist.refl ["vendorid", "productid"]).append (names_stringOption "product" product)).append
    (names_stringOption "serial" serial)).append (names_stringOption "vendor" vendor)

/-! ### The bus -/

/-- A known device on the bus, with its driver and what is said about it at every level of detail. -/
structure Sighting where
  unit : UsbUnit
  driver : String
  plain : DeviceOptions

def Sighting.report (level : Int) (s : Sighting) : Device where
  backend := .usb
  driver := s.driver
  port := "auto"
  options := s.plain ++ placeAt level s.unit

/-- The known devices on the bus, if what has to be read of them can be read. -/
def sightings : List UsbUnit → Except Fault (List Sighting)
  | [] => .ok []
  | unit :: units =>
    match driver? unit.vendor (some unit.product) with
    | none => sightings units
    | some driver => do
      let plain ← plainOptions unit
      return ⟨unit, driver, plain⟩ :: (← sightings units)

private theorem devicesOf_value (level : Int) (units : List UsbUnit) :
    (devicesOf (atLevel level) units).run.value =
      (sightings units).map fun found => found.map (Sighting.report level) := by
  induction units with
  | nil => rfl
  | cons unit units ih =>
    cases hdriver : driver? unit.vendor (some unit.product) with
    | none => simp only [devicesOf, sightings, hdriver, ih]
    | some driver =>
      simp only [devicesOf, sightings, hdriver, run_bind_value, deviceOptions_value, ih]
      cases plainOptions unit with
      | error f => rfl
      | ok plain =>
        cases sightings units with
        | error f => rfl
        | ok found => rfl

private theorem enumerate_value (site : Site) (level : Int) :
    (enumerate site (atLevel level)).run.value =
      (site.usb >>= sightings).map fun found => found.map (Sighting.report level) := by
  rw [enumerate, run_bind_value, Attempt.ofExcept_value]
  cases site.usb with
  | error f => rfl
  | ok units => exact devicesOf_value level units

private theorem mem_sightings {units : List UsbUnit} {found : List Sighting} {s : Sighting}
    (h : sightings units = .ok found) (hs : s ∈ found) : s.unit ∈ units ∧ plainOptions s.unit = .ok s.plain := by
  induction units generalizing found with
  | nil =>
    cases h
    cases hs
  | cons unit units ih =>
    rw [sightings] at h
    split at h
    · obtain ⟨hunit, hplain⟩ := ih h hs
      exact ⟨List.mem_cons_of_mem _ hunit, hplain⟩
    · obtain ⟨plain, hplain, h⟩ := bind_eq_ok.mp h
      obtain ⟨others, hothers, h⟩ := bind_eq_ok.mp h
      cases h
      rcases List.mem_cons.mp hs with rfl | hs
      · exact ⟨List.mem_cons_self, hplain⟩
      · obtain ⟨hunit, hplain⟩ := ih hothers hs
        exact ⟨List.mem_cons_of_mem _ hunit, hplain⟩

/-- Whether two reports, at two levels of detail, are about the same one of the devices on a bus: all that they
do not share is what the levels say about its place. -/
structure SameDevice (units : List UsbUnit) (a b : Int) (lower higher : Device) : Prop where
  driver : lower.driver = higher.driver
  port : lower.port = higher.port
  options : lower.options <+: higher.options
  names : (higher.options.map Prod.fst).Sublist optionNames
  place : ∃ unit ∈ units, ∃ plain, plainOptions unit = .ok plain ∧
    lower.options = plain ++ placeAt a unit ∧ higher.options = plain ++ placeAt b unit

private theorem sameDevice_report {units : List UsbUnit} {found : List Sighting}
    (hfound : sightings units = .ok found)
    (hab : a ≤ b) {s : Sighting} (hs : s ∈ found) : SameDevice units a b (s.report a) (s.report b) := by
  obtain ⟨hunit, hplain⟩ := mem_sightings hfound hs
  constructor
  · rfl
  · rfl
  · exact (List.prefix_append_right_inj _).mpr (placeAt_isPrefix hab s.unit)
  · simp only [Sighting.report, List.map_append]
    exact (names_plainOptions hplain).append (names_placeAt b s.unit)
  · exact ⟨s.unit, hunit, s.plain, hplain, rfl, rfl⟩

/-- More detail only adds options at the end.  At two levels of detail a scan of the bus fails alike or finds the
same devices in the same order, each with the options of the lower level before those that the higher one adds,
and no option is named twice.  Levels below 1 make no difference, nor do levels from 3 on. -/
theorem enumerate_levels (site : Site) (units : List UsbUnit) (hbus : site.usb = .ok units) (hab : a ≤ b) :
    let found (level : Int) := (enumerate site (atLevel level)).run.value
    (∀ lower higher, found a = .ok lower → found b = .ok higher →
      List.Forall₂ (SameDevice units a b) lower higher) ∧
    (∀ f, found a = .error f ↔ found b = .error f) ∧
    (b < 1 → found a = found b) ∧ (3 ≤ a → found a = found b) := by
  intro found
  have hvalue (level : Int) : found level =
      (sightings units).map fun seen => seen.map (Sighting.report level) := by
    have hseen := enumerate_value site level
    rw [hbus] at hseen
    exact hseen
  have hsame (hplace : ∀ unit, placeAt a unit = placeAt b unit) : found a = found b := by
    have hreport : Sighting.report a = Sighting.report b := by
      funext s
      simp only [Sighting.report, hplace]
    rw [hvalue, hvalue, hreport]
  refine ⟨?_, ?_, ?_, ?_⟩
  · intro lower higher hlower hhigher
    rw [hvalue] at hlower hhigher
    cases hseen : sightings units with
    | error f =>
      rw [hseen] at hlower
      cases hlower
    | ok seen =>
      rw [hseen] at hlower hhigher
      rw [← Except.ok.inj hlower, ← Except.ok.inj hhigher, List.forall₂_map_left_iff,
        List.forall₂_map_right_iff, List.forall₂_same]
      exact fun s hs => sameDevice_report hseen hab hs
  · intro f
    rw [hvalue, hvalue]
    cases sightings units with
    | error g => rfl
    | ok seen => exact ⟨nofun, nofun⟩
  · intro hb
    exact hsame fun unit => by rw [placeAt_of_lt (by omega), placeAt_of_lt hb]
  · intro ha
    exact hsame fun unit => by rw [placeAt_of_le ha, placeAt_of_le (ha.trans hab)]

/-- A unit behind a hub with a serial number that cannot be read, a device that is no power device, and a unit
at a port of its own. -/
private def hub : List UsbUnit :=
  [{ vendor := 0x0463, product := 0xFFFF, productIndex := 2, serialIndex := 3, address := 7, path := [2, 1]
     string := fun
       | 2 => .ok (some " 5E ")
       | _ => .error (.outside .usb "pipe") },
    { vendor := 0x046D, product := 0xC52B }, { vendor := 0x051D, product := 2, port := 4 }]

private def desk : Site where
  installed _ := true
  usb := .ok hub
  snmp _ := .silent
  http _ := .ok {}
  broadcast := {}
  upsd _ _ := {}
  services := []
  bmc _ := .error Fault.expired
  serial _ := .ok []
  serialPorts := []
  files _ := none

theorem enumerate_levels_desk : ∃ lower higher, (1 : Int) ≤ 3 ∧
    (enumerate desk (atLevel 1)).run.value = .ok lower ∧ (enumerate desk (atLevel 3)).run.value = .ok higher ∧
    List.Forall₂ (SameDevice hub 1 3) lower higher ∧ lower.length = 2 := by
  obtain ⟨hdetail, -, -, -⟩ := enumerate_levels (a := 1) (b := 3) desk hub rfl (by decide)
  exact ⟨_, _, by decide, rfl, rfl, hdetail _ _ rfl rfl, rfl⟩

end PowerDiscovery.Usb
