import PowerDiscovery.Address.Span
import PowerDiscovery.Fault
import PowerDiscovery.Proofs.Address.RoundTrip

/-! # The members of a span

A span lists every address between its ends once, from the lowest to the highest one, and each of them is
read back from its text.  A walk between two texts meets the members of the span that they name, whichever
of them comes first; if they name none, it ends before its first member. -/

namespace PowerDiscovery

namespace Address

theorem isLegible_ofNat (family : Family) (value : Nat) : (ofNat family value).IsLegible :=
  isLegible_of_scope_eq_none rfl

theorem read_empty : read "" = .error (.notAddress "") := by
  simp only [read, readFamily?, String.contains_char_eq]
  rfl

theorem text_ofNat_ne_empty (family : Family) (value : Nat) : (ofNat family value).text ≠ "" := by
  intro hempty
  have hread := read_text (isLegible_ofNat family value)
  rw [hempty, read_empty] at hread
  cases hread

theorem ofNat_value {family : Family} {value : Nat} (h : value < Nat.pow 2 family.width) :
    (ofNat family value).value = value :=
  Nat.mod_eq_of_lt h

def unscoped (a : Address) : Address := { a with scope := none }

private theorem unscoped_eq_ofNat (a : Address) : a.unscoped = ofNat a.family a.value := by
  obtain ⟨family, value, scope, hlt⟩ := a
  simp only [unscoped, ofNat, Nat.mod_eq_of_lt hlt]

end Address

namespace Span

variable (s : Span)

private theorem toList_eq : s.toList = (List.range' s.first s.size).map (Address.ofNat s.family) := by
  rw [toList, take, Nat.min_self]

theorem length_toList : s.toList.length = s.size := by
  rw [toList_eq, List.length_map, List.length_range']

theorem value_lt {n : Nat} (h : n ∈ List.range' s.first s.size) : n < Nat.pow 2 s.family.width := by
  have := s.last_lt
  have := s.ordered
  rw [List.mem_range'_1, size] at h
  omega

theorem mem_toList {x : Address} :
    x ∈ s.toList ↔ x.scope = none ∧ x.family = s.family ∧ s.first ≤ x.value ∧ x.value ≤ s.last := by
  rw [toList_eq, List.mem_map]
  constructor
  · rintro ⟨n, hn, rfl⟩
    have hlt := s.value_lt hn
    rw [List.mem_range'_1, size] at hn
    refine ⟨rfl, rfl, ?_⟩
    rw [Address.ofNat_value hlt]
    omega
  · rintro ⟨hscope, hfamily, hfirst, hlast⟩
    refine ⟨x.value, ?_, ?_⟩
    · rw [List.mem_range'_1, size]
      omega
    · have hx : x.unscoped = x := by
        rw [Address.unscoped, ← hscope]
      rw [← hfamily, ← Address.unscoped_eq_ofNat, hx]

theorem toList_ascending : s.toList.Pairwise (·.value < ·.value) := by
  rw [toList_eq, List.pairwise_map]
  refine List.Pairwise.imp_of_mem ?_ List.pairwise_lt_range'
  intro m n hm hn hlt
  rw [Address.ofNat_value (s.value_lt hm), Address.ofNat_value (s.value_lt hn)]
  exact hlt

theorem read_texts : (s.toList.map Address.text).map Address.read = s.toList.map .ok := by
  rw [List.map_map]
  refine List.map_congr_left fun x hx => ?_
  exact Address.read_text (Address.isLegible_of_scope_eq_none (s.mem_toList.1 hx).1)

variable {start stop : String} {a b : Address}

theorem read_eq_between (ha : Address.read start = .ok a) (hb : Address.read stop = .ok b)
    (hf : a.family = b.family) : Span.read start stop = .ok (between a b hf) := by
  simp only [Span.read, ha, hb, bind, Except.bind, dif_pos hf]
  rfl

theorem walk_of_read {span : Span} (h : Span.read start stop = .ok span) (k : Nat) :
    walk start stop k = .ok ((span.toList.map Address.text).take k) := by
  by_cases hk : k = 0
  · simp [walk, hk]
  · have hrange : (List.range' span.first span.size).take k =
        List.range' span.first (min k span.size) := by
      refine List.ext_getElem (by simp) fun i _ _ => ?_
      simp
    have htake : span.take k = span.toList.take k := by
      rw [toList_eq, ← List.map_take, hrange, take]
    simp only [walk, if_neg hk, h, Except.map, htake, List.map_take]

private theorem getElem_toList {k : Nat} (hk : k < s.toList.length) :
    s.toList[k].family = s.family ∧ s.toList[k].value = s.first + k := by
  have hmem : s.first + k ∈ List.range' s.first s.size := by
    rw [length_toList] at hk
    rw [List.mem_range'_1]
    omega
  have hget : s.toList[k] = Address.ofNat s.family (s.first + k) := by
    simp only [toList_eq, List.getElem_map, List.getElem_range', Nat.one_mul]
  rw [hget]
  exact ⟨rfl, Address.ofNat_value (s.value_lt hmem)⟩

private theorem texts_nodup : (s.toList.map Address.text).Nodup := by
  refine List.Nodup.of_map Address.read ?_
  rw [read_texts]
  have hdistinct : s.toList.Nodup :=
    s.toList_ascending.imp fun hlt heq => Nat.ne_of_lt hlt (congrArg Address.value heq)
  exact hdistinct.map fun _ _ h => Except.ok.inj h

private theorem between_toList_comm (h : a.family = b.family) :
    (between a b h).toList = (between b a h.symm).toList := by
  simp only [between, Nat.min_comm, Nat.max_comm, h]

theorem read_eq_error
    (h : ¬ ∃ a b, Address.read start = .ok a ∧ Address.read stop = .ok b ∧ a.family = b.family) :
    ∃ e, Span.read start stop = .error e := by
  cases ha : Address.read start with
  | error e => exact ⟨e, by simp only [Span.read, ha, bind, Except.bind]⟩
  | ok a =>
    cases hb : Address.read stop with
    | error e => exact ⟨e, by simp only [Span.read, ha, hb, bind, Except.bind]⟩
    | ok b =>
      have hf : a.family ≠ b.family := fun hf => h ⟨a, b, ha, hb, hf⟩
      refine ⟨.mixedFamilies start stop, ?_⟩
      simp only [Span.read, ha, hb, bind, Except.bind, dif_neg hf]
      rfl

/-- A walk between two addresses of one family meets every address from the lower to the higher one, each
once and as an address of this family, whichever of the two is named first.  With other texts it meets
nothing, and its first step fails. -/
theorem walk_between (start stop : String) :
    (∀ a b, Address.read start = .ok a → Address.read stop = .ok b → a.family = b.family →
      ∃ addresses : List Address,
        (∀ k, walk start stop k = .ok ((addresses.map Address.text).take k)) ∧
        (∀ k, walk stop start k = walk start stop k) ∧
        addresses.length = ((a.value : Int) - b.value).natAbs + 1 ∧
        (addresses.map Address.text).Nodup ∧
        ∀ k (hk : k < addresses.length), Address.read addresses[k].text = .ok addresses[k] ∧
          addresses[k].family = a.family ∧ addresses[k].value = min a.value b.value + k) ∧
    ((¬ ∃ a b, Address.read start = .ok a ∧ Address.read stop = .ok b ∧ a.family = b.family) →
      ∃ e, (Fault.badAddress e).isValue ∧ ∀ k, walk start stop k = if k = 0 then .ok [] else .error e) := by
  constructor
  · intro a b ha hb hf
    let span := between a b hf
    have hforth := walk_of_read (read_eq_between ha hb hf)
    have hback := walk_of_read (read_eq_between hb ha hf.symm)
    refine ⟨span.toList, hforth, ?_, ?_, span.texts_nodup, ?_⟩
    · intro k
      rw [hforth, hback, between_toList_comm hf]
    · rw [length_toList]
      simp only [span, between, size]
      omega
    · intro k hk
      have hmem : span.toList[k] ∈ span.toList := List.getElem_mem hk
      have hlegible := Address.isLegible_of_scope_eq_none (span.mem_toList.1 hmem).1
      exact ⟨Address.read_text hlegible, span.getElem_toList hk⟩
  · intro hends
    obtain ⟨e, he⟩ := read_eq_error hends
    refine ⟨e, rfl, fun k => ?_⟩
    simp only [walk, he, Except.map]

private theorem read_hextets : Address.read "::1:0" = .ok (Address.ofNat .inet6 0x10000) := by
  simp only [Address.read, Address.readFamily?, String.contains_char_eq]
  rfl

private theorem read_scopedTail :
    Address.read "0:0::0.0.255.254%eth0" = .ok ⟨.inet6, 0xFFFE, some "eth0", by decide⟩ := by
  simp only [Address.read, Address.readFamily?, String.contains_char_eq]
  rfl

/-- The addresses around the highest number of IPv4 stay addresses of IPv6. -/
theorem walk_between_reversed :
    ∃ a b, Address.read "::1:0" = .ok a ∧ Address.read "0:0::0.0.255.254%eth0" = .ok b ∧
      a.family = b.family ∧
      ∃ addresses : List Address, addresses.length = 3 ∧
        (∀ k, walk "::1:0" "0:0::0.0.255.254%eth0" k = .ok ((addresses.map Address.text).take k)) ∧
        ∀ k (hk : k < addresses.length), Address.read addresses[k].text = .ok addresses[k] ∧
          addresses[k].family = .inet6 ∧ addresses[k].value = 0xFFFE + k := by
  obtain ⟨addresses, hwalk, -, hlength, -, hmembers⟩ :=
    (walk_between "::1:0" "0:0::0.0.255.254%eth0").1 _ _ read_hextets read_scopedTail rfl
  exact ⟨_, _, read_hextets, read_scopedTail, rfl, addresses, hlength, hwalk, hmembers⟩

end Span

end PowerDiscovery
