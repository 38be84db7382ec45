import Mathlib.Data.Nat.Bitwise
import PowerDiscovery.Address.Network
import PowerDiscovery.Proofs.Address.Enumeration

/-! # The members of a network

The lowest and the highest address of a network, read back from their texts, span exactly the addresses
that begin with the bits which the network fixes. -/

namespace PowerDiscovery

open Text

/-- A bit of an address; the most significant one is the first. -/
def Address.bit (a : Address) (i : Nat) : Bool := a.value.testBit (a.family.width - 1 - i)

/-- Two addresses of one family that begin with the same bits. -/
def Address.Agree (count : Nat) (a b : Address) : Prop :=
  a.family = b.family ∧ ∀ i < count, a.bit i = b.bit i

/-- Numbers of a width begin with the same bits if and only if they are equal without the others. -/
private theorem testBit_eq_iff_div_eq {width count m n : Nat} (hcount : count ≤ width) (hm : m < 2 ^ width)
    (hn : n < 2 ^ width) :
    (∀ i < count, m.testBit (width - 1 - i) = n.testBit (width - 1 - i)) ↔
      m / 2 ^ (width - count) = n / 2 ^ (width - count) := by
  constructor
  · intro h
    refine Nat.eq_of_testBit_eq fun j => ?_
    rw [Nat.testBit_div_two_pow, Nat.testBit_div_two_pow]
    by_cases hj : j < count
    · have hplace : width - 1 - (count - 1 - j) = j + (width - count) := by omega
      rw [← hplace]
      exact h _ (by omega)
    · have hwidth : 2 ^ width ≤ 2 ^ (j + (width - count)) :=
        Nat.pow_le_pow_right (by decide) (by omega)
      rw [Nat.testBit_lt_two_pow (Nat.lt_of_lt_of_le hm hwidth),
        Nat.testBit_lt_two_pow (Nat.lt_of_lt_of_le hn hwidth)]
  · intro h i hi
    have hplace : width - 1 - i = count - 1 - i + (width - count) := by omega
    rw [hplace, ← Nat.testBit_div_two_pow, ← Nat.testBit_div_two_pow, h]

namespace Network

variable (n : Network)

theorem size_eq : n.size = 2 ^ (n.address.family.width - n.length) := Nat.pow_eq

theorem size_pos : 0 < n.size := Nat.two_pow_pos _

private theorem base_add_size_le : n.base + n.size ≤ Nat.pow 2 n.address.family.width := by
  obtain ⟨k, hk⟩ : n.size ∣ Nat.pow 2 n.address.family.width :=
    Nat.pow_dvd_pow 2 (Nat.sub_le _ _)
  have hlt : n.address.value / n.size < k := by
    refine Nat.div_lt_of_lt_mul ?_
    rw [← hk]
    exact n.address.value_lt
  calc n.base + n.size
    _ = (n.address.value / n.size + 1) * n.size := (Nat.succ_mul _ _).symm
    _ ≤ k * n.size := Nat.mul_le_mul_right _ hlt
    _ = Nat.pow 2 n.address.family.width := by rw [hk, Nat.mul_comm]

theorem holds_iff {x : Address} :
    n.Holds x ↔ x.family = n.address.family ∧ n.base ≤ x.value ∧ x.value ≤ n.base + (n.size - 1) := by
  refine and_congr_right fun _ => ?_
  have hpos := n.size_pos
  rw [Nat.div_eq_iff hpos, base]
  omega

theorem holds_iff_agree {x : Address} : n.Holds x ↔ x.Agree n.length n.address := by
  refine and_congr_right fun hfamily => ?_
  have hx := hfamily ▸ x.value_lt
  simp only [Address.bit, hfamily, size_eq]
  exact (testBit_eq_iff_div_eq n.length_le hx n.address.value_lt).symm

theorem first_family : n.first.family = n.address.family := by
  unfold first
  split <;> rfl

theorem first_value : n.first.value = n.base := by
  unfold first
  split
  · rename_i h
    exact h.symm
  · exact Address.ofNat_value (by have := n.base_add_size_le; have := n.size_pos; omega)

theorem last_value : n.last.value = n.base + (n.size - 1) :=
  Address.ofNat_value (by have := n.base_add_size_le; have := n.size_pos; omega)

private theorem first_isLegible (h : n.address.IsLegible) : n.first.IsLegible := by
  unfold first
  split
  · exact h
  · exact Address.isLegible_ofNat _ _

theorem read_ends (h : n.address.IsLegible) :
    Address.read n.first.text = .ok n.first ∧ Address.read n.last.text = .ok n.last ∧
      ∃ span, Span.read n.first.text n.last.text = .ok span ∧ span.size = n.size ∧
        ∀ x, x ∈ span.toList ↔ x.scope = none ∧ n.Holds x := by
  have hfirst := Address.read_text (n.first_isLegible h)
  have hlast : Address.read n.last.text = .ok n.last :=
    Address.read_text (Address.isLegible_ofNat _ _)
  have hpos := n.size_pos
  refine ⟨hfirst, hlast, _, Span.read_eq_between hfirst hlast n.first_family, ?_, fun x => ?_⟩
  · simp only [Span.size, Span.between, first_value, last_value]
    omega
  · rw [Span.mem_toList, holds_iff]
    simp only [Span.between, first_value, last_value, first_family]
    rw [Nat.min_eq_left (by omega), Nat.max_eq_right (by omega)]

variable {n} {text : String}

private theorem pieces_toList (sep : Char) (s : String) :
    (pieces sep s).map String.toList = split sep s.toList := by
  rw [pieces, List.map_map]
  exact (List.map_congr_left fun _ _ => String.toList_ofList).trans (List.map_id _)

theorem readFamily?_spec {family : Family} (h : readFamily? family text = some n)
    (hslash : '/' ∈ text.toList) :
    ∃ host mask, text = host ++ "/" ++ mask ∧ Address.readFamily? family host = some n.address ∧
      readLength? family mask = some n.length := by
  unfold readFamily? at h
  split at h
  · rename_i host hpieces
    have hone : split '/' text.toList = [host.toList] := by rw [← pieces_toList, hpieces]; rfl
    have hjoin := join_split '/' text.toList
    rw [hone] at hjoin
    have hmem : text.toList ∈ split '/' text.toList := by
      rw [hone, ← hjoin]
      exact List.mem_singleton_self _
    exact absurd hslash (not_mem_of_mem_split hmem)
  · rename_i host mask hpieces
    have htwo : split '/' text.toList = [host.toList, mask.toList] := by
      rw [← pieces_toList, hpieces]
      rfl
    have hjoin := join_split '/' text.toList
    rw [htwo] at hjoin
    change (Address.readFamily? family host).bind (fun address => (readLength? family mask).bind
      fun length => if h : length ≤ address.family.width then some ⟨address, length, h⟩ else none) =
        some n at h
    obtain ⟨address, haddress, h⟩ := Option.bind_eq_some_iff.1 h
    obtain ⟨length, hlength, h⟩ := Option.bind_eq_some_iff.1 h
    obtain ⟨hle, h⟩ := Option.dite_none_right_eq_some.1 h
    cases h
    refine ⟨host, mask, ?_, haddress, hlength⟩
    rw [← String.toList_inj, ← hjoin]
    simp [join]
  · cases h

theorem readCidr_spec (h : readCidr text = .ok n) :
    ∃ host mask, trim text = host ++ "/" ++ mask ∧ Address.read host = .ok n.address ∧
      readLength? n.address.family mask = some n.length := by
  simp only [readCidr, String.contains_char_eq, Bool.not_eq_true', decide_eq_false_iff_not] at h
  split at h
  · cases h
  · rename_i hslash
    have htrim : '/' ∈ (trim text).toList := by
      rw [trim, String.toList_ofList, mem_trimWhile (by decide)]
      exact Decidable.not_not.1 hslash
    split at h
    · rename_i m hm
      cases h
      obtain ⟨family, hfamily⟩ : ∃ family, readFamily? family (trim text) = some n := by
        rcases Option.or_eq_some_iff.1 hm with hm | ⟨-, hm⟩
        · exact ⟨_, hm⟩
        · exact ⟨_, hm⟩
      obtain ⟨host, mask, htext, hhost, hmask⟩ := readFamily?_spec hfamily htrim
      obtain ⟨rfl, -, hread⟩ := Address.readFamily?_spec hhost
      exact ⟨host, mask, htext, hread, hmask⟩
    · cases h

end Network

end PowerDiscovery
