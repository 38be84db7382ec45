import PowerDiscovery.Proofs.Address.Networks

/-! # Networks in CIDR notation

The text after the slash tells how many leading bits the addresses of a network share: as a number, as a
netmask that has ones in their places, or as a host mask that has ones in the other places.  Walking from
the lowest to the highest address of the network meets exactly these addresses. -/

namespace PowerDiscovery.Network

open Text

/-- How a text tells the number of leading bits that the addresses of a network share. -/
inductive Spells (family : Family) (text : String) : Nat → Prop where
  | length (digits : List Nat) (hne : digits ≠ [])
      (hdigits : text.toList.map asciiDigit? = digits.map some) :
      Spells family text (ofDigits 10 digits)
  | netmask (count : Nat) (mask : Address) (hfamily : family = .inet) (hcount : count ≤ 32)
      (hread : Address.read text = .ok mask) (hmask : mask.family = .inet)
      (hbits : ∀ i < 32, mask.bit i = decide (i < count)) : Spells family text count
  | hostMask (count : Nat) (mask : Address) (hfamily : family = .inet) (hpos : 0 < count)
      (hcount : count < 32) (hread : Address.read text = .ok mask) (hmask : mask.family = .inet)
      (hbits : ∀ i < 32, mask.bit i = decide (count ≤ i)) : Spells family text count

theorem leadingOnes?_eq_some {width n count : Nat} (h : leadingOnes? width n = some count) :
    count ≤ width ∧ n = 2 ^ width - 2 ^ (width - count) := by
  have hmem := List.mem_of_find?_eq_some h
  have hn := List.find?_some h
  rw [List.mem_range] at hmem
  exact ⟨by omega, by simpa using hn⟩

theorem leadingOnes?_eq_none {width n : Nat} (h : leadingOnes? width n = none) {count : Nat}
    (hcount : count ≤ width) : n ≠ 2 ^ width - 2 ^ (width - count) := by
  have := List.find?_eq_none.1 h count (List.mem_range.2 (by omega))
  simpa using this

theorem testBit_leadingOnes {width count i : Nat} (hcount : count ≤ width) (hi : i < width) :
    (2 ^ width - 2 ^ (width - count)).testBit (width - 1 - i) = decide (i < count) := by
  have hshift : 2 ^ width - 2 ^ (width - count) = (2 ^ count - 1) * 2 ^ (width - count) := by
    rw [Nat.sub_mul, ← Nat.pow_add, Nat.one_mul, Nat.add_sub_cancel' hcount]
  rw [hshift, Nat.testBit_mul_two_pow, Nat.testBit_two_pow_sub_one, ← Bool.decide_and]
  exact decide_eq_decide.2 (by omega)

private theorem testBit_trailingOnes {width count i : Nat} (hi : i < width) :
    (2 ^ (width - count) - 1).testBit (width - 1 - i) = decide (count ≤ i) := by
  rw [Nat.testBit_two_pow_sub_one]
  exact decide_eq_decide.2 (by omega)

private theorem read_of_readInet? {text : String} {n : Nat} (h : Address.readInet? text.toList = some n) :
    ∃ mask, Address.read text = .ok mask ∧ mask.family = .inet ∧ mask.value = n := by
  have hread : Address.readFamily? .inet text = some ⟨.inet, n, none, Address.readInet?_lt h⟩ := by
    simp only [Address.readFamily?, h, Option.bind_eq_bind, Option.bind_some]
    exact dif_pos (Address.readInet?_lt h)
  exact ⟨_, (Address.readFamily?_spec hread).2.2, rfl, rfl⟩

private theorem spells_of_maskLength? {text : String} {count : Nat} (h : maskLength? text.toList = some count) :
    Spells .inet text count := by
  obtain ⟨n, hn, h⟩ := Option.bind_eq_some_iff.1 h
  obtain ⟨mask, hread, hmask, hvalue⟩ := read_of_readInet? hn
  have hbit (i : Nat) : mask.bit i = n.testBit (31 - i) := by rw [Address.bit, hmask, hvalue]; rfl
  cases hones : leadingOnes? 32 n with
  | some ones =>
    rw [hones] at h
    cases h
    obtain ⟨hle, hn⟩ := leadingOnes?_eq_some hones
    refine .netmask count mask rfl hle hread hmask fun i hi => ?_
    rw [hbit, hn]
    exact testBit_leadingOnes hle hi
  | none =>
    rw [hones] at h
    obtain ⟨hle, hhost⟩ := leadingOnes?_eq_some h
    have hlt := Address.readInet?_lt hn
    have hall : n ≠ 2 ^ 32 - 1 := leadingOnes?_eq_none hones (Nat.le_refl 32)
    have hzero : n ≠ 0 := leadingOnes?_eq_none hones (Nat.zero_le 32)
    have hends : n = 2 ^ (32 - count) - 1 := by
      have hle : 2 ^ (32 - count) ≤ 2 ^ 32 := Nat.pow_le_pow_right (by decide) (Nat.sub_le _ _)
      have hpos : 0 < 2 ^ (32 - count) := Nat.two_pow_pos _
      generalize 2 ^ (32 - count) = ones at hhost hle hpos
      change n < 2 ^ 32 at hlt
      omega
    have hpos : 0 < count := Nat.pos_of_ne_zero fun h0 => hall (by rw [hends, h0])
    have hcount : count < 32 := Nat.lt_of_le_of_ne hle fun h32 => hzero (by simp [hends, h32])
    refine .hostMask count mask rfl hpos hcount hread hmask fun i hi => ?_
    rw [hbit, hends]
    exact testBit_trailingOnes hi

private theorem spells_of_lengthDigits? {family : Family} {text : String} {count : Nat}
    (h : lengthDigits? family text.toList = some count) : Spells family text count := by
  obtain ⟨digits, hread, hn⟩ := Option.bind_eq_some_iff.1 h
  dsimp only at hn
  split at hn
  · cases hn
  · rename_i hchecks
    cases hn
    simp only [Bool.or_eq_true, List.isEmpty_iff, not_or] at hchecks
    exact .length digits hchecks.1.1 (mapM_eq_some_iff.1 hread)

private theorem spells_of_readLength? {family : Family} {text : String} {count : Nat}
    (h : readLength? family text = some count) : Spells family text count := by
  unfold readLength? at h
  dsimp only at h
  split at h
  · rename_i hlength
    cases h
    exact spells_of_lengthDigits? hlength
  · exact spells_of_maskLength? h
  · cases h

/-- Walking from the lowest to the highest address of a network in CIDR notation meets, in ascending
order, exactly the addresses that begin with the same bits as the written one. -/
theorem walk_cidrRange {text start stop : String} (h : cidrRange text = .ok (start, stop)) :
    ∃ (host mask : String) (written : Address) (count : Nat) (addresses : List Address),
      (trim text = host ++ "/" ++ mask ∧ Address.read host = .ok written ∧
        Spells written.family mask count ∧ count ≤ written.family.width) ∧
      (∀ k, Span.walk start stop k = .ok ((addresses.map Address.text).take k)) ∧
      addresses.length = 2 ^ (written.family.width - count) ∧
      (addresses.map Address.text).map Address.read = addresses.map .ok ∧
      addresses.Pairwise (·.value < ·.value) ∧
      (∀ x, x ∈ addresses ↔ x.scope = none ∧ x.Agree count written) ∧
      (∃ low high, Address.read start = .ok low ∧ Address.read stop = .ok high ∧
        low.unscoped ∈ addresses ∧ high.unscoped ∈ addresses ∧
        ∀ x ∈ addresses, low.value ≤ x.value ∧ x.value ≤ high.value) ∧
      written.unscoped ∈ addresses := by
  obtain ⟨n, hn, hends⟩ : ∃ n, readCidr text = .ok n ∧ (n.first.text, n.last.text) = (start, stop) := by
    cases hn : readCidr text with
    | error e => simp [cidrRange, hn, Except.map] at h
    | ok n => exact ⟨n, rfl, by simpa [cidrRange, hn, Except.map] using h⟩
  obtain ⟨rfl, rfl⟩ := Prod.mk.inj hends
  obtain ⟨host, mask, htext, hhost, hmask⟩ := readCidr_spec hn
  obtain ⟨hfirst, hlast, span, hspan, hsize, hmem⟩ := n.read_ends (Address.isLegible_of_read hhost)
  have hagree (x : Address) : x ∈ span.toList ↔ x.scope = none ∧ x.Agree n.length n.address := by
    rw [hmem, holds_iff_agree]
  have hpos := n.size_pos
  refine ⟨host, mask, n.address, n.length, span.toList,
    ⟨htext, hhost, spells_of_readLength? hmask, n.length_le⟩, Span.walk_of_read hspan, ?_,
    span.read_texts, span.toList_ascending, hagree, ⟨n.first, n.last, hfirst, hlast, ?_, ?_, ?_⟩, ?_⟩
  · rw [Span.length_toList, hsize, size_eq]
  · rw [hmem, holds_iff]
    exact ⟨rfl, n.first_family, by simp [Address.unscoped, first_value]⟩
  · rw [hmem, holds_iff]
    exact ⟨rfl, rfl, by simp [Address.unscoped, last_value]⟩
  · intro x hx
    rw [hmem, holds_iff] at hx
    rw [first_value, last_value]
    exact hx.2.2
  · rw [hagree]
    exact ⟨rfl, rfl, fun _ _ => rfl⟩

private theorem cidrRange_scoped :
    cidrRange " ::ffff:10.0.0.1%eth0/127" = .ok ("::ffff:a00:0", "::ffff:a00:1") := by
  have htrim : trim " ::ffff:10.0.0.1%eth0/127" = "::ffff:10.0.0.1%eth0/127" := rfl
  rw [cidrRange, readCidr, String.contains_char_eq]
  simp only [htrim, read?, readFamily?, Address.readFamily?, String.contains_char_eq]
  rfl

theorem walk_cidrRange_scoped :
    cidrRange " ::ffff:10.0.0.1%eth0/127" = .ok ("::ffff:a00:0", "::ffff:a00:1") ∧
      ∃ addresses : List Address,
        (∀ k, Span.walk "::ffff:a00:0" "::ffff:a00:1" k = .ok ((addresses.map Address.text).take k)) ∧
        (addresses.map Address.text).map Address.read = addresses.map .ok ∧
        addresses.Pairwise (·.value < ·.value) := by
  obtain ⟨_, _, _, _, addresses, -, hwalk, -, hread, hascending, -⟩ := walk_cidrRange cidrRange_scoped
  exact ⟨cidrRange_scoped, addresses, hwalk, hread, hascending⟩

end PowerDiscovery.Network
