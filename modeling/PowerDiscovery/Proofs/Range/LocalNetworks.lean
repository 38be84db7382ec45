import Mathlib.Data.List.TakeWhile
import PowerDiscovery.Proofs.Address.PrefixLength
import PowerDiscovery.Proofs.Range.Folding
import PowerDiscovery.Proofs.Steps

/-! # The local networks that are recorded

A table of interfaces is gone through entry by entry.  An entry that counts gives an address and a prefix
length, and thereby a network; every other one is passed over.  The networks are recorded in the order of
their entries, up to the first one whose length does not fit the family of its address. -/

namespace PowerDiscovery

open Text

/-- An entry of a table of interfaces, with its interface and the family that it is listed under. -/
structure Listing where
  interface : Interface
  family : Family
  entry : InterfaceEntry

/-- The entries of a table: interface by interface, the IPv4 entries of each before its IPv6 ones. -/
def listings (interfaces : List Interface) : List Listing :=
  interfaces.flatMap fun i => i.entries.map fun e => ⟨i, e.1, e.2⟩

/-- An address without a scope and the prefix length that its netmask gives, as they are found in a table. -/
structure Finding where
  host : String
  address : Address
  length : Int
  read : Address.read host = .ok address
  unscoped : '%' ∉ host.toList

namespace Finding

def text (f : Finding) : String := s!"{f.host}/{f.length}"

/-- Whether the length is one that an address of this family can have. -/
def Fits (f : Finding) : Prop := 0 ≤ f.length ∧ f.length ≤ f.address.family.width

instance (f : Finding) : Decidable f.Fits := inferInstanceAs (Decidable (_ ∧ _))

end Finding

theorem InterfaceEntry.host_unscoped (entry : InterfaceEntry) : '%' ∉ entry.host.toList := by
  rw [host, String.toList_ofList]
  exact not_mem_cut '%' _

namespace Listing

/-- Whether an entry counts in a look-up, and what is found there. -/
structure Gives (mode : DiscoveryMode) (l : Listing) (f : Finding) : Prop where
  broadcast : ∃ entry ∈ l.interface.inet, entry.broadcast ≠ ""
  covered : mode.covers l.family = true
  host : f.host = l.entry.host
  remote : f.address.isLoopback = false
  masked : l.entry.netmask ≠ ""
  length : Network.netmaskLength l.family l.entry.netmask = .ok f.length

def Counts (mode : DiscoveryMode) (l : Listing) : Prop := ∃ f, l.Gives mode f

/-- Whether an entry counts although its network cannot be recorded. -/
def Misfits (mode : DiscoveryMode) (l : Listing) : Prop := ∃ f, l.Gives mode f ∧ ¬ f.Fits

/-- Whether an interface and the settings of a look-up let an entry count, whatever its address is. -/
def isOpen (mode : DiscoveryMode) (l : Listing) : Bool :=
  l.interface.canBroadcast && mode.covers l.family && !l.entry.netmask.isEmpty

def finding? (mode : DiscoveryMode) (l : Listing) : Option Finding :=
  match hread : Address.read l.entry.host with
  | .error _ => none
  | .ok address =>
    if l.isOpen mode && !address.isLoopback then
      (Network.netmaskLength l.family l.entry.netmask).toOption.map fun length =>
        ⟨l.entry.host, address, length, hread, l.entry.host_unscoped⟩
    else none

variable {mode : DiscoveryMode} {l : Listing} {f : Finding}

private theorem isOpen_iff : l.isOpen mode = true ↔ (∃ entry ∈ l.interface.inet, entry.broadcast ≠ "") ∧
    mode.covers l.family = true ∧ l.entry.netmask ≠ "" := by
  simp only [isOpen, Interface.canBroadcast, Bool.and_eq_true, List.any_eq_true, Bool.not_eq_true',
    ← Bool.not_eq_true, String.isEmpty_iff, and_assoc]

theorem finding?_eq_some : l.finding? mode = some f ↔ l.Gives mode f := by
  unfold finding?
  split
  · rename_i e hread
    constructor
    · intro h
      cases h
    · intro h
      have hf := f.read
      rw [h.host, hread] at hf
      cases hf
  · rename_i address hread
    rw [Option.ite_none_right_eq_some, Bool.and_eq_true, isOpen_iff, Bool.not_eq_true',
      Option.map_eq_some_iff]
    constructor
    · rintro ⟨⟨⟨hbroadcast, hcovered, hmasked⟩, hremote⟩, length, hlength, rfl⟩
      exact ⟨hbroadcast, hcovered, rfl, hremote, hmasked, toOption_eq_some.mp hlength⟩
    · intro h
      obtain ⟨host, address', length, hread', hscope⟩ := f
      have hhost : host = l.entry.host := h.host
      subst hhost
      rw [hread] at hread'
      cases hread'
      exact ⟨⟨⟨h.broadcast, h.covered, h.masked⟩, h.remote⟩, length, toOption_eq_some.mpr h.length, rfl⟩

theorem Gives.unique {f' : Finding} (h : l.Gives mode f) (h' : l.Gives mode f') : f = f' :=
  Option.some.inj ((finding?_eq_some.mpr h).symm.trans (finding?_eq_some.mpr h'))

theorem Misfits.cause (h : l.Misfits mode) : '/' ∈ l.entry.netmask.toList ∨
    ∃ address, Address.read l.entry.host = .ok address ∧ address.family ≠ l.family := by
  obtain ⟨f, hgives, hfits⟩ := h
  by_cases hslash : '/' ∈ l.entry.netmask.toList
  · exact .inl hslash
  · right
    have hlength := Network.netmaskLength_of_not_mem hslash hgives.length
    refine ⟨f.address, hgives.host ▸ f.read, ?_⟩
    intro hfamily
    rw [← hfamily] at hlength
    exact hfits hlength

theorem counts_iff : l.Counts mode ↔ (l.finding? mode).isSome = true := by
  simp only [Counts, ← finding?_eq_some, Option.isSome_iff_exists]

private theorem misfits_iff : l.Misfits mode ↔ (l.finding? mode).any (¬ Finding.Fits ·) = true := by
  simp only [Misfits, ← finding?_eq_some, Option.any_eq_true, decide_eq_true_eq]

instance : Decidable (l.Counts mode) := decidable_of_iff' _ counts_iff

instance : Decidable (l.Misfits mode) := decidable_of_iff' _ misfits_iff

end Listing

/-! ### What is found -/

private theorem Listing.finding?_of_error {mode : DiscoveryMode} {l : Listing} {e : Address.Error}
    (h : Address.read l.entry.host = .error e) : l.finding? mode = none := by
  unfold finding?
  split
  · rfl
  · rename_i hread
    rw [h] at hread
    cases hread

private theorem Listing.finding?_of_ok {mode : DiscoveryMode} {l : Listing} {address : Address}
    (h : Address.read l.entry.host = .ok address) : (l.finding? mode).map Finding.text =
      if l.isOpen mode && !address.isLoopback then
        (Network.netmaskLength l.family l.entry.netmask).toOption.map fun length =>
          s!"{l.entry.host}/{length}"
      else none := by
  unfold finding?
  split
  · rename_i hread
    rw [h] at hread
    cases hread
  · rename_i hread
    rw [h] at hread
    cases hread
    split
    · rw [Option.map_map]
      rfl
    · rfl

theorem InterfaceEntry.subnet_eq (mode : DiscoveryMode) (i : Interface) (family : Family)
    (entry : InterfaceEntry) : (entry.subnet mode i family).value =
      if entry.host.isEmpty || entry.netmask.isEmpty then none
      else match entry.cidr family with
        | .error _ => none
        | .ok found => if i.canBroadcast && mode.covers family then found else none := by
  unfold subnet
  split
  · rfl
  · simp only [Traced.bind_value]
    cases entry.cidr family <;> rfl

private theorem InterfaceEntry.subnet_value (mode : DiscoveryMode) (i : Interface) (family : Family)
    (entry : InterfaceEntry) :
    (entry.subnet mode i family).value = ((⟨i, family, entry⟩ : Listing).finding? mode).map Finding.text := by
  rw [subnet_eq]
  cases hread : Address.read entry.host with
  | error e =>
    rw [Listing.finding?_of_error (l := ⟨i, family, entry⟩) hread]
    simp only [cidr, hread]
    split <;> rfl
  | ok address =>
    -- An empty text names no address, so the test for one changes nothing.
    have hhost : entry.host.isEmpty = false := by
      rw [← Bool.not_eq_true, String.isEmpty_iff]
      intro hempty
      rw [hempty, Address.read_empty] at hread
      cases hread
    rw [Listing.finding?_of_ok (l := ⟨i, family, entry⟩) hread]
    have hcidr : entry.cidr family = if address.isLoopback then .ok none
        else (Network.netmaskLength family entry.netmask).map fun length =>
          some s!"{entry.host}/{length}" := by
      unfold cidr
      rw [hread]
      cases Network.netmaskLength family entry.netmask <;> rfl
    rw [hcidr, hhost, Bool.false_or]
    by_cases hmask : entry.netmask.isEmpty = true
    · simp [Listing.isOpen, hmask]
    · cases hremote : address.isLoopback with
      | true => simp [Listing.isOpen]
      | false =>
        cases Network.netmaskLength family entry.netmask with
        | error e => simp [hmask, Except.map, Except.toOption]
        | ok length => simp [hmask, Listing.isOpen, Except.map, Except.toOption]

private theorem Interface.subnetsOf_value (mode : DiscoveryMode) (i : Interface)
    (entries : List (Family × InterfaceEntry)) :
    (i.subnetsOf mode entries).value =
      ((entries.map fun e => Listing.mk i e.1 e.2).filterMap (Listing.finding? mode)).map Finding.text := by
  induction entries with
  | nil => rfl
  | cons e entries ih =>
    simp only [subnetsOf, Traced.bind_value, Traced.pure_value, InterfaceEntry.subnet_value, ih,
      List.map_cons, List.filterMap_cons]
    cases (Listing.mk i e.1 e.2).finding? mode <;> rfl

theorem localSubnets_value (mode : DiscoveryMode) (interfaces : List Interface) :
    (localSubnets mode interfaces).value =
      ((listings interfaces).filterMap (Listing.finding? mode)).map Finding.text := by
  induction interfaces with
  | nil => rfl
  | cons i interfaces ih =>
    simp only [localSubnets, Traced.bind_value, Traced.pure_value, Interface.subnetsOf_value, ih, listings,
      List.flatMap_cons, List.filterMap_append, List.map_append]

/-! ### What is recorded -/

/-- Whether a range reaches from the lowest to the highest one of the addresses of a network. -/
def AddressRange.IsNetwork (range : AddressRange) (address : Address) (length : Int) : Prop :=
  0 ≤ length ∧ length ≤ address.family.width ∧ ∃ low high : Address,
    range = ⟨.text low.text, .text high.text⟩ ∧
    Address.read low.text = .ok low ∧ Address.read high.text = .ok high ∧
    low.Agree length.toNat address ∧ high.Agree length.toNat address ∧
    ∀ x : Address, x.Agree length.toNat address ↔
      x.family = address.family ∧ low.value ≤ x.value ∧ x.value ≤ high.value

private theorem Network.isNetwork_ends (n : Network) (h : n.address.IsLegible) :
    AddressRange.IsNetwork ⟨.text n.first.text, .text n.last.text⟩ n.address n.length := by
  have hmem (x : Address) : x.Agree n.length n.address ↔
      x.family = n.address.family ∧ n.first.value ≤ x.value ∧ x.value ≤ n.last.value := by
    rw [← n.holds_iff_agree, n.holds_iff, n.first_value, n.last_value]
  have hordered : n.first.value ≤ n.last.value := by
    rw [n.first_value, n.last_value]
    omega
  have hlength := n.length_le
  obtain ⟨hfirst, hlast, _⟩ := n.read_ends h
  refine ⟨by omega, by omega, n.first, n.last, rfl, hfirst, hlast, ?_, ?_, hmem⟩
  · exact (hmem _).mpr ⟨n.first_family, Nat.le_refl _, hordered⟩
  · exact (hmem _).mpr ⟨rfl, hordered, Nat.le_refl _⟩

private theorem Finding.cidrRange_of_fits {f : Finding} (h : f.Fits) : ∃ start stop,
    Network.cidrRange f.text = .ok (start, stop) ∧
      AddressRange.IsNetwork ⟨.text start, .text stop⟩ f.address f.length := by
  have hrange := Network.cidrRange_written f.read f.unscoped f.length
  obtain ⟨n, hn, haddress, hlength⟩ := Network.ofLength?_of_le h.1 h.2
  rw [hn] at hrange
  have hends := n.isNetwork_ends (haddress ▸ Address.isLegible_of_read f.read)
  rw [haddress, hlength] at hends
  exact ⟨n.first.text, n.last.text, hrange, hends⟩

private theorem Finding.cidrRange_of_not_fits {f : Finding} (h : ¬ f.Fits) :
    Network.cidrRange f.text = .error (.notNetwork f.text) := by
  have hrange := Network.cidrRange_written f.read f.unscoped f.length
  have hnone : Network.ofLength? f.address f.length = none := dif_neg h
  rw [hnone] at hrange
  exact hrange

/-- Whether a range is the network of an entry that counts. -/
def Listing.Records (mode : DiscoveryMode) (l : Listing) (range : AddressRange) : Prop :=
  ∃ f, l.Gives mode f ∧ range.IsNetwork f.address f.length

section Misfits

variable {mode : DiscoveryMode} {ls : List Listing} {l : Listing} {e : Address.Error}

/-- The entries that count and stand before the first misfit. -/
def recordable (mode : DiscoveryMode) (ls : List Listing) : List Listing :=
  (ls.takeWhile fun l => ¬ l.Misfits mode).filter fun l => l.Counts mode

def firstMisfit? (mode : DiscoveryMode) (ls : List Listing) : Option Listing :=
  ls.find? fun l => l.Misfits mode

private theorem recordable_of_no_misfit (h : ∀ l ∈ ls, ¬ l.Misfits mode) :
    recordable mode ls = ls.filter fun l => l.Counts mode := by
  have hall : ls.takeWhile (fun l => ¬ l.Misfits mode) = ls := by
    rw [List.takeWhile_eq_self_iff]
    intro l hl
    exact decide_eq_true (h l hl)
  rw [recordable, hall]

private theorem mem_of_firstMisfit? (h : firstMisfit? mode ls = some l) : l ∈ ls ∧ l.Misfits mode := by
  have hmisfit := List.find?_some h
  rw [decide_eq_true_eq] at hmisfit
  exact ⟨List.mem_of_find?_eq_some h, hmisfit⟩

private theorem firstMisfit?_eq_none_iff : firstMisfit? mode ls = none ↔ ∀ l ∈ ls, ¬ l.Misfits mode := by
  simp only [firstMisfit?, List.find?_eq_none, decide_eq_true_eq]

/-- Whether going through entries stops with an error: that of the first misfit. -/
def Stops (mode : DiscoveryMode) (ls : List Listing) (e : Address.Error) : Prop :=
  ∃ l f, firstMisfit? mode ls = some l ∧ l.Gives mode f ∧ e = .notNetwork f.text

private theorem exists_stops_iff : (∃ e, Stops mode ls e) ↔ ∃ l ∈ ls, l.Misfits mode := by
  constructor
  · rintro ⟨_, l, _, hl, _, _⟩
    exact ⟨l, mem_of_firstMisfit? hl⟩
  · rintro ⟨l, hl, hmisfit⟩
    cases hfirst : firstMisfit? mode ls with
    | none => exact absurd hmisfit (firstMisfit?_eq_none_iff.mp hfirst l hl)
    | some first =>
      obtain ⟨f, hgives, _⟩ := (mem_of_firstMisfit? hfirst).2
      exact ⟨_, first, f, hfirst, hgives, rfl⟩

private theorem recordable_cons : recordable mode (l :: ls) =
    if l.Misfits mode then [] else if l.Counts mode then l :: recordable mode ls else recordable mode ls := by
  by_cases hmisfit : l.Misfits mode
  · simp only [recordable, List.takeWhile_cons, hmisfit, not_true_eq_false, decide_false, if_true,
      Bool.false_eq_true, if_false, List.filter_nil]
  · simp only [recordable, List.takeWhile_cons, hmisfit, not_false_eq_true, decide_true, if_true, if_false,
      List.filter_cons, decide_eq_true_eq]

private theorem firstMisfit?_cons : firstMisfit? mode (l :: ls) =
    if l.Misfits mode then some l else firstMisfit? mode ls := by
  by_cases hmisfit : l.Misfits mode <;> simp only [firstMisfit?, List.find?_cons, hmisfit, decide_true,
    decide_false, if_true, if_false]

/-- The entries before the first misfit are recorded if they count, and the misfit is the end of it. -/
private theorem cidrRanges_listings (mode : DiscoveryMode) (ls : List Listing) :
    let recorded := cidrRanges ((ls.filterMap (Listing.finding? mode)).map Finding.text)
    List.Forall₂ (Listing.Records mode) (recordable mode ls) recorded.1 ∧
      ∀ e, recorded.2 = some e ↔ Stops mode ls e := by
  induction ls with
  | nil =>
    refine ⟨.nil, ?_⟩
    intro e
    constructor
    · intro h
      cases h
    · rintro ⟨l, _, h, _⟩
      cases h
  | cons l ls ih =>
    rw [recordable_cons]
    simp only [Stops, firstMisfit?_cons, List.filterMap_cons]
    cases hfound : l.finding? mode with
    | none =>
      have hcounts : ¬ l.Counts mode := by simp [Listing.counts_iff, hfound]
      have hmisfits : ¬ l.Misfits mode := by simp [Listing.misfits_iff, hfound]
      rw [if_neg hmisfits, if_neg hcounts, if_neg hmisfits]
      exact ih
    | some f =>
      have hgives : l.Gives mode f := Listing.finding?_eq_some.mp hfound
      have hcounts : l.Counts mode := ⟨f, hgives⟩
      simp only [List.map_cons, cidrRanges]
      by_cases hfits : f.Fits
      · have hmisfits : ¬ l.Misfits mode := by simp [Listing.misfits_iff, hfound, hfits]
        obtain ⟨start, stop, hrange, hnetwork⟩ := Finding.cidrRange_of_fits hfits
        obtain ⟨hranges, hstops⟩ := ih
        simp only [hrange, if_neg hmisfits, if_pos hcounts]
        exact ⟨.cons ⟨f, hgives, hnetwork⟩ hranges, hstops⟩
      · -- A misfit is the end, whatever follows it.
        have hmisfits : l.Misfits mode := ⟨f, hgives, hfits⟩
        simp only [Finding.cidrRange_of_not_fits hfits, if_pos hmisfits]
        refine ⟨.nil, ?_⟩
        intro e
        constructor
        · intro h
          cases h
          exact ⟨l, f, rfl, hgives, rfl⟩
        · rintro ⟨_, f', ⟨⟩, hgives', rfl⟩
          rw [hgives.unique hgives']

end Misfits

theorem Registry.discover_value {r : Registry} {name : String} {mode : DiscoveryMode}
    (hmode : DiscoveryMode.ofName? name = some mode) (hfirst : r.discovered = none)
    (interfaces : List Interface) :
    let recorded := cidrRanges (localSubnets mode interfaces).value
    (r.discover interfaces name).value =
      { registry := { ranges := r.ranges ++ recorded.1, discovered := some mode }
        failure := recorded.2 } := by
  simp only [discover, hmode]
  rw [discoverMode_value hfirst, addCidrs_value]

/-- A look-up of the local networks that comes to its end has recorded the network of each entry that counts,
in the order of the table, and nothing else. -/
theorem Registry.discover_records (r : Registry) (interfaces : List Interface) (name : String)
    (mode : DiscoveryMode) (hmode : DiscoveryMode.ofName? name = some mode) (hfirst : r.discovered = none)
    (hdone : (r.discover interfaces name).value.failure = none) :
    let counting := (listings interfaces).filter fun l => l.Counts mode
    let registry := (r.discover interfaces name).value.registry
    (∃ ranges, registry.ranges = r.ranges ++ ranges ∧ List.Forall₂ (Listing.Records mode) counting ranges) ∧
      registry.size = r.size + counting.length ∧ registry.discovered = some mode := by
  obtain ⟨hranges, hstops⟩ := cidrRanges_listings mode (listings interfaces)
  rw [← localSubnets_value] at hranges hstops
  rw [discover_value hmode hfirst] at hdone ⊢
  have hnone : ∀ l ∈ listings interfaces, ¬ l.Misfits mode := by
    intro l hl hmisfit
    obtain ⟨e, he⟩ := exists_stops_iff.mpr ⟨l, hl, hmisfit⟩
    have hfailed := hdone.symm.trans ((hstops e).mpr he)
    cases hfailed
  rw [recordable_of_no_misfit hnone] at hranges
  refine ⟨⟨_, rfl, hranges⟩, ?_, rfl⟩
  rw [size, List.length_append, hranges.length_eq]
  rfl

/-- Two interfaces and a loopback between them; the first one has an IPv6 address with a scope. -/
private def office (netmask : String) : List Interface :=
  [{ name := "eth0"
     inet := [{ address := "192.168.1.5", netmask := "255.255.255.0", broadcast := "192.168.1.255" }]
     inet6 := [{ address := "fe80::1%eth0", netmask := netmask }] },
   { name := "lo"
     inet := [{ address := "127.0.0.1", netmask := "255.0.0.0", broadcast := "127.255.255.255" }] },
   { name := "eth1"
     inet := [{ address := "10.0.0.5", netmask := "255.0.0.0", broadcast := "10.255.255.255" }] }]

private theorem discover_office : (Registry.discover {} (office "ffff:ffff:ffff:ffff::/64") "auto").value =
    { registry :=
        { ranges := [⟨.text "192.168.1.0", .text "192.168.1.255"⟩,
            ⟨.text "fe80::", .text "fe80::ffff:ffff:ffff:ffff"⟩, ⟨.text "10.0.0.0", .text "10.255.255.255"⟩]
          discovered := some .both } } := by
  have hfound : (localSubnets .both (office "ffff:ffff:ffff:ffff::/64")).value =
      ["192.168.1.5/24", "fe80::1/64", "10.0.0.5/8"] := by
    simp only [office, localSubnets, Interface.subnetsOf, Interface.entries, List.map_cons, List.map_nil,
      List.cons_append, List.nil_append, Traced.bind_value, Traced.pure_value, InterfaceEntry.subnet_eq,
      InterfaceEntry.cidr, Address.read, Address.readFamily?, Network.netmaskLength, String.contains_char_eq]
    rfl
  have hranges : cidrRanges ["192.168.1.5/24", "fe80::1/64", "10.0.0.5/8"] =
      ([⟨.text "192.168.1.0", .text "192.168.1.255"⟩, ⟨.text "fe80::", .text "fe80::ffff:ffff:ffff:ffff"⟩,
        ⟨.text "10.0.0.0", .text "10.255.255.255"⟩], none) := by
    simp only [cidrRanges, Network.cidrRange, Network.readCidr, Network.read?, Network.readFamily?,
      Address.readFamily?, String.contains_char_eq]
    rfl
  rw [Registry.discover_value rfl rfl, hfound, hranges]
  rfl

theorem Registry.discover_records_office :
    (Registry.discover {} (office "ffff:ffff:ffff:ffff::/64") "auto").value.failure = none ∧
    List.Forall₂ (Listing.Records .both)
      ((listings (office "ffff:ffff:ffff:ffff::/64")).filter fun l => l.Counts .both)
      [⟨.text "192.168.1.0", .text "192.168.1.255"⟩, ⟨.text "fe80::", .text "fe80::ffff:ffff:ffff:ffff"⟩,
        ⟨.text "10.0.0.0", .text "10.255.255.255"⟩] := by
  have hdone : (Registry.discover {} (office "ffff:ffff:ffff:ffff::/64") "auto").value.failure = none := by
    rw [discover_office]
  obtain ⟨⟨ranges, hranges, hrecorded⟩, _⟩ := discover_records {} _ "auto" .both rfl rfl hdone
  rw [discover_office] at hranges
  cases hranges
  exact ⟨hdone, hrecorded⟩

private theorem Registry.ofArguments_eq_error (interfaces : List Interface) {name : String} {mode : DiscoveryMode}
    (hmode : DiscoveryMode.ofName? name = some mode) (failure : Folder.Failure) :
    (Registry.ofArguments interfaces [.network (.text name)]).value = .error failure ↔
      ∃ e, (cidrRanges (localSubnets mode interfaces).value).2 = some e ∧ failure = .rejected ⟨name, e⟩ := by
  have hvalue := Folder.ofArguments_ranges interfaces [.network (.text name)]
  simp only [List.map_cons, List.map_nil, Folder.failuresOf, Folder.Event.failure?, Folder.networkRanges,
    hmode, List.findSome?_cons, List.findSome?_nil, id, Bool.false_eq_true, if_false] at hvalue
  cases hfailure : (cidrRanges (localSubnets mode interfaces).value).2 with
  | none =>
    rw [hfailure] at hvalue
    constructor
    · intro h
      rw [h] at hvalue
      cases hvalue
    · rintro ⟨e, h, _⟩
      cases h
  | some e =>
    rw [hfailure] at hvalue
    cases hrefused : (Registry.ofArguments interfaces [.network (.text name)]).value with
    | ok registry =>
      rw [hrefused] at hvalue
      cases hvalue
    | error failure' =>
      rw [hrefused] at hvalue
      have hsame : failure' = .rejected ⟨name, e⟩ := Except.error.inj hvalue
      rw [hsame, Except.error.injEq]
      constructor
      · rintro rfl
        exact ⟨e, rfl, rfl⟩
      · rintro ⟨_, ⟨⟩, rfl⟩
        rfl

/-- A look-up of the local networks goes on to the first entry that counts although its network cannot be
recorded, and such an entry makes it fail.  The entries before it are recorded or passed over.  An argument
that asks for the look-up is refused because of such a misfit, and because of nothing else. -/
theorem Registry.discover_ends_iff (r : Registry) (interfaces : List Interface) (name : String)
    (mode : DiscoveryMode) (hmode : DiscoveryMode.ofName? name = some mode) :
    let outcome := (r.discover interfaces name).value
    (outcome.failure = none ↔ r.discovered.isSome = true ∨ ∀ l ∈ listings interfaces, ¬ l.Misfits mode) ∧
    (∀ l : Listing, l.Misfits mode → '/' ∈ l.entry.netmask.toList ∨
      ∃ address, Address.read l.entry.host = .ok address ∧ address.family ≠ l.family) ∧
    (r.discovered.isSome = true → outcome.registry = r) ∧
    (r.discovered = none →
      (∃ ranges, outcome.registry = { ranges := r.ranges ++ ranges, discovered := some mode } ∧
        List.Forall₂ (Listing.Records mode) (recordable mode (listings interfaces)) ranges) ∧
      ∀ e, outcome.failure = some e ↔ Stops mode (listings interfaces) e) ∧
    ∀ failure, (Registry.ofArguments interfaces [.network (.text name)]).value = .error failure ↔
      ∃ e, Stops mode (listings interfaces) e ∧ failure = .rejected ⟨name, e⟩ := by
  intro outcome
  obtain ⟨hranges, hstops⟩ := cidrRanges_listings mode (listings interfaces)
  rw [← localSubnets_value] at hranges hstops
  have hagain (h : r.discovered.isSome = true) : outcome = { registry := r } := by
    simp [outcome, discover, hmode, discoverMode, h]
  have hfirst (h : r.discovered = none) (e : Address.Error) :
      outcome.failure = some e ↔ Stops mode (listings interfaces) e := by
    simp only [outcome, discover_value hmode h]
    exact hstops e
  refine ⟨?_, fun l h => h.cause, ?_, ?_, ?_⟩
  · cases hd : r.discovered with
    | none =>
      have hmisfit : outcome.failure = none ↔ ∀ l ∈ listings interfaces, ¬ l.Misfits mode := by
        rw [Option.eq_none_iff_forall_ne_some]
        simp only [ne_eq, hfirst hd, ← not_exists, exists_stops_iff]
        simp only [not_exists, not_and]
      simpa only [Option.isSome_none, Bool.false_eq_true, false_or] using hmisfit
    | some earlier =>
      have hdiscovered : r.discovered.isSome = true := by rw [hd]; rfl
      rw [hagain hdiscovered]
      simp only [Option.isSome_some, true_or]
  · intro hd
    rw [hagain hd]
  · intro hd
    refine ⟨?_, hfirst hd⟩
    simp only [outcome, discover_value hmode hd]
    exact ⟨_, rfl, hranges⟩
  · intro failure
    rw [ofArguments_eq_error interfaces hmode]
    simp only [hstops]

private theorem discover_oddMask : (Registry.discover {} (office "ffff::/200") "auto").value =
    { registry :=
        { ranges := [⟨.text "192.168.1.0", .text "192.168.1.255"⟩], discovered := some .both }
      failure := some (.notNetwork "fe80::1/200") } := by
  have hfound : (localSubnets .both (office "ffff::/200")).value =
      ["192.168.1.5/24", "fe80::1/200", "10.0.0.5/8"] := by
    simp only [office, localSubnets, Interface.subnetsOf, Interface.entries, List.map_cons, List.map_nil,
      List.cons_append, List.nil_append, Traced.bind_value, Traced.pure_value, InterfaceEntry.subnet_eq,
      InterfaceEntry.cidr, Address.read, Address.readFamily?, Network.netmaskLength, String.contains_char_eq]
    rfl
  have hranges : cidrRanges ["192.168.1.5/24", "fe80::1/200", "10.0.0.5/8"] =
      ([⟨.text "192.168.1.0", .text "192.168.1.255"⟩], some (.notNetwork "fe80::1/200")) := by
    simp only [cidrRanges, Network.cidrRange, Network.readCidr, Network.read?, Network.readFamily?,
      Address.readFamily?, String.contains_char_eq]
    rfl
  rw [Registry.discover_value rfl rfl, hfound, hranges]
  rfl

/-- A slash and 200 in one IPv6 netmask: the network of the second interface is lost, and the program is not
started. -/
theorem Registry.discover_ends_iff_oddMask :
    (Registry.discover {} (office "ffff::/200") "auto").value.registry.ranges =
      [⟨.text "192.168.1.0", .text "192.168.1.255"⟩] ∧
    (∃ l ∈ listings (office "ffff::/200"), l.Misfits .both) ∧
    (Registry.ofArguments (office "ffff::/200") [.network (.text "auto")]).value =
      .error (.rejected ⟨"auto", .notNetwork "fe80::1/200"⟩) := by
  obtain ⟨_, _, _, hlooked, hrefused⟩ := discover_ends_iff {} (office "ffff::/200") "auto" .both rfl
  have hstops : Stops .both (listings (office "ffff::/200")) (.notNetwork "fe80::1/200") := by
    apply ((hlooked rfl).2 _).mp
    rw [discover_oddMask]
  refine ⟨?_, exists_stops_iff.mp ⟨_, hstops⟩, (hrefused _).mpr ⟨_, hstops, rfl⟩⟩
  rw [discover_oddMask]

end PowerDiscovery
