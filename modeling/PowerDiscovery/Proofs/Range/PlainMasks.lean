import PowerDiscovery.Proofs.Range.LocalNetworks

/-! # Netmasks in plain notation

A netmask may be written as an address that has ones in its first places only.  An IPv4 netmask written so
tells its prefix length.  An IPv6 one does not: it needs its length after a slash, and an entry without it is
passed over. -/

namespace PowerDiscovery

open Text

namespace Network

/-- A text that names the address with ones in its first places and zeros in all others. -/
structure IsPlainMask (family : Family) (text : String) (count : Nat) : Prop where
  count_le : count ≤ family.width
  spelled : ∃ mask, Address.read text = .ok mask ∧ mask.family = family ∧ mask.scope = none ∧
    ∀ i < family.width, mask.bit i = decide (i < count)

private theorem value_of_bits {mask : Address} {count : Nat} (hcount : count ≤ mask.family.width)
    (hbits : ∀ i < mask.family.width, mask.bit i = decide (i < count)) :
    mask.value = 2 ^ mask.family.width - 2 ^ (mask.family.width - count) := by
  have hlt : mask.value < 2 ^ mask.family.width := mask.value_lt
  apply Nat.eq_of_testBit_eq
  intro j
  by_cases hj : j < mask.family.width
  · have hplace : mask.family.width - 1 - (mask.family.width - 1 - j) = j := by omega
    have hbit := hbits (mask.family.width - 1 - j) (by omega)
    have hones := testBit_leadingOnes hcount (i := mask.family.width - 1 - j) (by omega)
    rw [Address.bit, hplace] at hbit
    rw [hplace] at hones
    rw [hbit, hones]
  · -- Neither number has a one beyond the width.
    have hwidth : 2 ^ mask.family.width ≤ 2 ^ j := Nat.pow_le_pow_right (by decide) (by omega)
    have hpos : 0 < 2 ^ (mask.family.width - count) := Nat.two_pow_pos _
    rw [Nat.testBit_lt_two_pow (by omega), Nat.testBit_lt_two_pow (by omega)]

private theorem leadingOnes?_of_ones {width count : Nat} (hcount : count ≤ width) :
    leadingOnes? width (2 ^ width - 2 ^ (width - count)) = some count := by
  cases hones : leadingOnes? width (2 ^ width - 2 ^ (width - count)) with
  | none => exact absurd rfl (leadingOnes?_eq_none hones hcount)
  | some ones =>
    obtain ⟨hle, hvalue⟩ := leadingOnes?_eq_some hones
    have hsame : 2 ^ (width - count) = 2 ^ (width - ones) := by
      have hcount' : 2 ^ (width - count) ≤ 2 ^ width := Nat.pow_le_pow_right (by decide) (Nat.sub_le _ _)
      have hones' : 2 ^ (width - ones) ≤ 2 ^ width := Nat.pow_le_pow_right (by decide) (Nat.sub_le _ _)
      omega
    have hexponent := Nat.pow_right_injective (Nat.le_refl 2) hsame
    rw [Option.some.injEq]
    omega

variable {text : String} {count : Nat}

theorem IsPlainMask.readInet? (h : IsPlainMask .inet text count) :
    Address.readInet? text.toList = some (2 ^ 32 - 2 ^ (32 - count)) := by
  obtain ⟨⟨family, value, scope, hlt⟩, hread, hfamily, _, hbits⟩ := h.spelled
  change family = .inet at hfamily
  subst hfamily
  have hvalue : value = 2 ^ 32 - 2 ^ (32 - count) :=
    @value_of_bits ⟨.inet, value, scope, hlt⟩ count h.count_le hbits
  have hinet := Address.readFamily?_of_read hread .inet
  rw [if_pos rfl] at hinet
  obtain ⟨n, hn, haddress⟩ := Option.bind_eq_some_iff.mp hinet
  obtain ⟨_, hsame, _⟩ := Address.ofNat?_eq_some_iff.mp haddress
  change value = n at hsame
  rw [hn, ← hsame, hvalue]

private theorem IsPlainMask.netmaskLength_inet (h : IsPlainMask .inet text count) :
    netmaskLength .inet text = .ok (count : Int) := by
  have hread := h.readInet?
  have hslash : '/' ∉ text.toList := by
    intro hslash
    exact (Address.isPlain_of_readInet? hread _ hslash).ne_slash rfl
  have hdot : '.' ∈ text.toList := by
    by_contra hdot
    rw [readInet?_eq_none_of_not_mem hdot] at hread
    cases hread
  have hones : leadingOnes? 32 (2 ^ 32 - 2 ^ (32 - count)) = some count := leadingOnes?_of_ones h.count_le
  have hmask : maskLength? text.toList = some count := by
    simp only [maskLength?, hread, Option.bind_eq_bind, Option.bind_some, hones]
  have hlength : readLength? .inet text = some count := by
    simp only [readLength?, lengthDigits?_eq_none hdot rfl, hmask]
  rw [netmaskLength, String.contains_char_eq, decide_eq_false hslash, if_neg Bool.false_ne_true, hlength]

private theorem IsPlainMask.netmaskLength_inet6 (h : IsPlainMask .inet6 text count) :
    netmaskLength .inet6 text = .error (.notNetmask text) := by
  obtain ⟨mask, hread, hfamily, _, _⟩ := h.spelled
  have hinet6 := Address.readFamily?_of_read hread .inet6
  rw [hfamily, if_pos rfl] at hinet6
  simp only [Address.readFamily?, String.contains_char_eq, decide_eq_true_eq] at hinet6
  split at hinet6
  · cases hinet6
  · rename_i hslash
    obtain ⟨⟨body, scope⟩, hcut, hbody⟩ := Option.bind_eq_some_iff.mp hinet6
    obtain ⟨n, hn, _⟩ := Option.bind_eq_some_iff.mp hbody
    have hcolon : ':' ∈ text.toList := by
      apply (Address.cutScope?_eq_some hcut).1
      by_contra hcolon
      rw [Address.readInet6?_eq_none hcolon] at hn
      cases hn
    have hlength : readLength? .inet6 text = none := by
      simp only [readLength?, lengthDigits?_eq_none hcolon rfl]
    rw [netmaskLength, String.contains_char_eq, decide_eq_false hslash, if_neg Bool.false_ne_true, hlength]

end Network

namespace Listing

variable {mode : DiscoveryMode} {l : Listing} {address : Address} {count : Nat}

/-- An entry with a plain netmask, of an interface and a family that take part in a look-up, and with an
address that is no loopback. -/
structure Shows (mode : DiscoveryMode) (l : Listing) (address : Address) (count : Nat) : Prop where
  broadcast : ∃ entry ∈ l.interface.inet, entry.broadcast ≠ ""
  covered : mode.covers l.family = true
  read : Address.read l.entry.host = .ok address
  remote : address.isLoopback = false
  mask : Network.IsPlainMask l.family l.entry.netmask count

theorem Shows.gives (h : l.Shows mode address count) (hinet : l.family = .inet) :
    l.Gives mode ⟨l.entry.host, address, count, h.read, l.entry.host_unscoped⟩ := by
  have hmask := h.mask
  have hmasked : l.entry.netmask ≠ "" := by
    intro hempty
    obtain ⟨_, hread, _⟩ := hmask.spelled
    rw [hempty, Address.read_empty] at hread
    cases hread
  rw [hinet] at hmask
  have hlength := hmask.netmaskLength_inet
  rw [← hinet] at hlength
  exact ⟨h.broadcast, h.covered, rfl, h.remote, hmasked, hlength⟩

private theorem Shows.not_misfits (h : l.Shows mode address count) (hinet : l.family = .inet) :
    ¬ l.Misfits mode := by
  rintro ⟨f, hgives, hfits⟩
  apply hfits
  rw [← (h.gives hinet).unique hgives]
  have hcount := h.mask.count_le
  have hwidth : 32 ≤ address.family.width := by cases address.family <;> decide
  rw [hinet] at hcount
  change count ≤ 32 at hcount
  constructor
  · exact Int.natCast_nonneg count
  · exact Int.ofNat_le.mpr (Nat.le_trans hcount hwidth)

private theorem finding?_of_plain_inet6 (hinet6 : l.family = .inet6)
    (hmask : Network.IsPlainMask .inet6 l.entry.netmask count) : l.finding? mode = none := by
  rw [Option.eq_none_iff_forall_ne_some]
  intro f hfound
  have hlength := (finding?_eq_some.mp hfound).length
  rw [hinet6, hmask.netmaskLength_inet6] at hlength
  cases hlength

private theorem Gives.of_inet_eq {i j : Interface} (h : i.inet = j.inet) {family : Family} {entry : InterfaceEntry}
    {f : Finding} (hgives : (Listing.mk i family entry).Gives mode f) :
    (Listing.mk j family entry).Gives mode f := by
  have hbroadcast := hgives.broadcast
  change ∃ entry ∈ i.inet, entry.broadcast ≠ "" at hbroadcast
  rw [h] at hbroadcast
  exact ⟨hbroadcast, hgives.covered, hgives.host, hgives.remote, hgives.masked, hgives.length⟩

private theorem finding?_congr {i j : Interface} (h : i.inet = j.inet) (family : Family) (entry : InterfaceEntry) :
    (Listing.mk i family entry).finding? mode = (Listing.mk j family entry).finding? mode := by
  apply Option.ext
  intro f
  rw [finding?_eq_some, finding?_eq_some]
  constructor
  · exact .of_inet_eq h
  · exact .of_inet_eq h.symm

end Listing

private theorem exists_mem_of_forall₂ {α β : Type} {R : α → β → Prop} {xs : List α} {ys : List β}
    (h : List.Forall₂ R xs ys) {x : α} (hx : x ∈ xs) : ∃ y ∈ ys, R x y := by
  induction h with
  | nil => cases hx
  | cons hhead _ ih =>
    rcases List.mem_cons.mp hx with rfl | hx
    · exact ⟨_, List.mem_cons_self, hhead⟩
    · obtain ⟨y, hy, hrelated⟩ := ih hx
      exact ⟨y, List.mem_cons_of_mem _ hy, hrelated⟩

private theorem filterMap_finding?_without {mode : DiscoveryMode} {i j : Interface}
    {earlier later : List InterfaceEntry} {entry : InterfaceEntry} {count : Nat} (hinet : j.inet = i.inet)
    (hwith : i.inet6 = earlier ++ entry :: later) (hwithout : j.inet6 = earlier ++ later)
    (hmask : Network.IsPlainMask .inet6 entry.netmask count) :
    (j.entries.map fun e => Listing.mk j e.1 e.2).filterMap (Listing.finding? mode) =
      (i.entries.map fun e => Listing.mk i e.1 e.2).filterMap (Listing.finding? mode) := by
  have hpassed : (Listing.mk i .inet6 entry).finding? mode = none :=
    Listing.finding?_of_plain_inet6 rfl hmask
  have hsame : (j.entries.map fun e => Listing.mk j e.1 e.2).filterMap (Listing.finding? mode) =
      (j.entries.map fun e => Listing.mk i e.1 e.2).filterMap (Listing.finding? mode) := by
    rw [List.filterMap_map, List.filterMap_map]
    apply List.filterMap_congr
    intro e _
    rw [Function.comp_apply, Function.comp_apply, Listing.finding?_congr hinet]
  rw [hsame]
  simp only [Interface.entries, hinet, hwith, hwithout, List.map_append, List.map_cons,
    List.filterMap_append, List.filterMap_cons, hpassed]

private theorem localSubnets_without (mode : DiscoveryMode) (before after : List Interface) {i : Interface}
    {earlier later : List InterfaceEntry} {entry : InterfaceEntry} {count : Nat}
    (hentries : i.inet6 = earlier ++ entry :: later)
    (hmask : Network.IsPlainMask .inet6 entry.netmask count) :
    (localSubnets mode (before ++ { i with inet6 := earlier ++ later } :: after)).value =
      (localSubnets mode (before ++ i :: after)).value := by
  rw [localSubnets_value, localSubnets_value]
  simp only [listings, List.flatMap_append, List.flatMap_cons, List.filterMap_append]
  rw [filterMap_finding?_without (i := i) (j := { i with inet6 := earlier ++ later }) rfl hentries rfl hmask]

/-- A first look-up records the network of each IPv4 entry with a plain netmask, with as many leading bits as
the mask has ones, unless it fails because of another entry.  An IPv6 entry with a plain netmask never counts:
a table without it leads to the same result. -/
theorem Registry.discover_plainMask (r : Registry) (hfirst : r.discovered = none)
    (interfaces : List Interface) (name : String) (mode : DiscoveryMode)
    (hmode : DiscoveryMode.ofName? name = some mode) :
    let outcome := (r.discover interfaces name).value
    (∀ l ∈ listings interfaces, l.family = .inet → ∀ address count, l.Shows mode address count →
      ¬ l.Misfits mode ∧
        (outcome.failure = none → ∃ range ∈ outcome.registry.ranges, range.IsNetwork address count)) ∧
    (∀ l ∈ listings interfaces, l.family = .inet6 → ∀ address count, l.Shows mode address count →
      ¬ l.Counts mode) ∧
    ∀ before i after earlier entry later count, interfaces = before ++ i :: after →
      i.inet6 = earlier ++ entry :: later → Network.IsPlainMask .inet6 entry.netmask count →
        (r.discover (before ++ { i with inet6 := earlier ++ later } :: after) name).value = outcome := by
  intro outcome
  refine ⟨?_, ?_, ?_⟩
  · intro l hl hinet address count hshows
    refine ⟨hshows.not_misfits hinet, ?_⟩
    intro hdone
    obtain ⟨⟨ranges, hranges, hrecorded⟩, _⟩ := discover_records r interfaces name mode hmode hfirst hdone
    have hcounting : l ∈ (listings interfaces).filter fun l => l.Counts mode := by
      rw [List.mem_filter, decide_eq_true_eq]
      exact ⟨hl, _, hshows.gives hinet⟩
    obtain ⟨range, hrange, f, hgives, hnetwork⟩ := exists_mem_of_forall₂ hrecorded hcounting
    rw [← (hshows.gives hinet).unique hgives] at hnetwork
    refine ⟨range, ?_, hnetwork⟩
    rw [hranges]
    exact List.mem_append_right _ hrange
  · intro l _ hinet6 address count hshows
    have hmask := hshows.mask
    rw [hinet6] at hmask
    rw [Listing.counts_iff, Listing.finding?_of_plain_inet6 hinet6 hmask]
    exact Bool.false_ne_true
  · intro before i after earlier entry later count htable hentries hmask
    simp only [outcome, discover_value hmode hfirst, htable,
      localSubnets_without mode before after hentries hmask]

private def homeInet : InterfaceEntry :=
  { address := "192.168.1.5", netmask := "255.255.255.0", broadcast := "192.168.1.255" }

private def homeInet6 : InterfaceEntry :=
  { address := "2001:db8::5", netmask := "ffff:ffff:ffff:ffff::" }

private def home (inet6 : List InterfaceEntry) : Interface :=
  { name := "eth0", inet := [homeInet], inet6 := inet6 }

private theorem homeInet_mask : Network.IsPlainMask .inet homeInet.netmask 24 := by
  have hread : Address.readFamily? .inet "255.255.255.0" = some ⟨.inet, 0xFFFFFF00, none, by decide⟩ := by
    decide +kernel
  refine ⟨by decide, _, (Address.readFamily?_spec hread).2.2, rfl, rfl, ?_⟩
  intro i hi
  exact Network.testBit_leadingOnes (by decide : 24 ≤ 32) hi

private theorem homeInet6_mask : Network.IsPlainMask .inet6 homeInet6.netmask 64 := by
  have hread : Address.readFamily? .inet6 "ffff:ffff:ffff:ffff::" =
      some ⟨.inet6, 0xFFFFFFFFFFFFFFFF0000000000000000, none, by decide⟩ := by
    simp only [Address.readFamily?, String.contains_char_eq]
    decide +kernel
  refine ⟨by decide, _, (Address.readFamily?_spec hread).2.2, rfl, rfl, ?_⟩
  intro i hi
  exact Network.testBit_leadingOnes (by decide : 64 ≤ 128) hi

private theorem homeInet_shows (inet6 : List InterfaceEntry) :
    ∃ address, Listing.Shows .both ⟨home inet6, .inet, homeInet⟩ address 24 := by
  have hread : Address.readFamily? .inet homeInet.host = some ⟨.inet, 0xC0A80105, none, by decide⟩ := by
    decide +kernel
  exact ⟨_, ⟨homeInet, List.mem_singleton_self _, by decide⟩, rfl, (Address.readFamily?_spec hread).2.2,
    by decide, homeInet_mask⟩

private theorem homeInet6_shows :
    ∃ address, Listing.Shows .both ⟨home [homeInet6], .inet6, homeInet6⟩ address 64 := by
  have hread : Address.readFamily? .inet6 homeInet6.host =
      some ⟨.inet6, 0x20010DB8000000000000000000000005, none, by decide⟩ := by
    simp only [homeInet6, InterfaceEntry.host, Address.readFamily?, String.contains_char_eq]
    decide +kernel
  exact ⟨_, ⟨homeInet, List.mem_singleton_self _, by decide⟩, rfl, (Address.readFamily?_spec hread).2.2,
    by decide, homeInet6_mask⟩

/-- An interface with one address of each family and plain netmasks: the IPv4 network is recorded, and the
IPv6 network is lost. -/
theorem Registry.discover_plainMask_lost :
    let outcome := (Registry.discover {} [home [homeInet6]] "auto").value
    (∃ address, Listing.Shows .both ⟨home [homeInet6], .inet6, homeInet6⟩ address 64) ∧
      ¬ Listing.Counts .both ⟨home [homeInet6], .inet6, homeInet6⟩ ∧
      outcome.failure = none ∧ outcome.registry.ranges = [⟨.text "192.168.1.0", .text "192.168.1.255"⟩] ∧
      ∃ range ∈ outcome.registry.ranges, ∃ address, range.IsNetwork address 24 := by
  intro outcome
  obtain ⟨hrecorded, hlost, hwithout⟩ :=
    discover_plainMask {} rfl [home [homeInet6]] "auto" .both rfl
  have hsame := hwithout [] (home [homeInet6]) [] [] homeInet6 [] 64 rfl rfl homeInet6_mask
  have hfound : (localSubnets .both [home []]).value = ["192.168.1.5/24"] := by
    simp only [home, homeInet, localSubnets, Interface.subnetsOf, Interface.entries, List.map_cons,
      List.map_nil, List.cons_append, List.nil_append, Traced.bind_value, Traced.pure_value,
      InterfaceEntry.subnet_eq, InterfaceEntry.cidr, Address.read, Address.readFamily?,
      Network.netmaskLength, String.contains_char_eq]
    rfl
  have hranges : cidrRanges ["192.168.1.5/24"] =
      ([⟨.text "192.168.1.0", .text "192.168.1.255"⟩], none) := by
    simp only [cidrRanges, Network.cidrRange, Network.readCidr, Network.read?, Network.readFamily?,
      Address.readFamily?, String.contains_char_eq]
    rfl
  have houtcome : outcome =
      { registry :=
          { ranges := [⟨.text "192.168.1.0", .text "192.168.1.255"⟩], discovered := some .both } } := by
    refine hsame.symm.trans ?_
    change (Registry.discover {} [home []] "auto").value = _
    rw [discover_value rfl rfl, hfound, hranges]
    rfl
  have hdone : outcome.failure = none := by rw [houtcome]
  obtain ⟨address6, hshows6⟩ := homeInet6_shows
  obtain ⟨address, hshows⟩ := homeInet_shows [homeInet6]
  have hinet := hrecorded _ (by simp [listings, home, Interface.entries]) rfl _ _ hshows
  have hinet6 := hlost _ (by simp [listings, home, Interface.entries]) rfl _ _ hshows6
  obtain ⟨range, hrange, hnetwork⟩ := hinet.2 hdone
  exact ⟨⟨address6, hshows6⟩, hinet6, hdone, by rw [houtcome], range, hrange, address, hnetwork⟩

end PowerDiscovery
