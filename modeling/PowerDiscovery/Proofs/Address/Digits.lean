import PowerDiscovery.Address.Printer
import PowerDiscovery.Address.Reader

/-! # Octets and groups read back

The parts of a printed address, decimal octets and hexadecimal groups, are read as the numbers that were
printed. -/

namespace PowerDiscovery

open Text

theorem mapM_eq_some_iff {α β : Type} {f : α → Option β} {xs : List α} {ys : List β} :
    xs.mapM f = some ys ↔ xs.map f = ys.map some := by
  induction xs generalizing ys with
  | nil => cases ys <;> simp
  | cons x xs ih =>
    cases hx : f x with
    | none => cases ys <;> simp [hx]
    | some y =>
      cases hxs : xs.mapM f with
      | none =>
        have hno (ys : List β) : xs.map f ≠ ys.map some := fun h => by simp [ih.2 h] at hxs
        cases ys <;> simp [hx, hxs, hno]
      | some rest => cases ys <;> simp [hx, hxs, ← ih]

theorem exists_of_mapM {α β : Type} {f : α → Option β} {xs : List α} {ys : List β}
    (h : xs.mapM f = some ys) : (∀ x ∈ xs, ∃ y ∈ ys, f x = some y) ∧ ∀ y ∈ ys, ∃ x ∈ xs, f x = some y := by
  rw [mapM_eq_some_iff] at h
  constructor
  · intro x hx
    have hmem : f x ∈ ys.map some := h ▸ List.mem_map_of_mem hx
    obtain ⟨y, hy, hfx⟩ := List.mem_map.1 hmem
    exact ⟨y, hy, hfx.symm⟩
  · intro y hy
    have hmem : some y ∈ xs.map f := h ▸ List.mem_map_of_mem hy
    exact List.mem_map.1 hmem

theorem asciiDigit?_digitChar {d : Nat} (h : d < 10) : asciiDigit? (Nat.digitChar d) = some d := by
  have hall : ∀ d < 10, asciiDigit? (Nat.digitChar d) = some d := by decide
  exact hall d h

theorem isDigit_of_asciiDigit? {c : Char} {d : Nat} (h : asciiDigit? c = some d) : c.isDigit = true := by
  unfold asciiDigit? at h
  split at h
  · assumption
  · cases h

theorem mapM_toDigits {base : Nat} {digit? : Char → Option Nat} (hbase : 1 < base)
    (hdigit : ∀ d < base, digit? (Nat.digitChar d) = some d) (n : Nat) :
    ∃ digits, (Nat.toDigits base n).mapM digit? = some digits ∧ ofDigits base digits = n ∧
      digits.length = (Nat.toDigits base n).length ∧ (digits.head? = some 0 → n = 0) := by
  induction n using Nat.strongRecOn with
  | ind n ih =>
    by_cases hn : n < base
    · refine ⟨[n], ?_⟩
      simp [Nat.toDigits_of_lt_base hn, hdigit n hn, ofDigits]
    · have hpos : 0 < n / base := Nat.div_pos (Nat.le_of_not_lt hn) (by omega)
      have hless : n / base < n := Nat.div_lt_self (by omega) hbase
      obtain ⟨digits, hread, hvalue, hlength, hhead⟩ := ih (n / base) hless
      have hlast : digit? (Nat.digitChar (n % base)) = some (n % base) :=
        hdigit _ (Nat.mod_lt _ (by omega))
      have hsplit := Nat.toDigits_of_base_le hbase (Nat.le_of_not_lt hn)
      refine ⟨digits ++ [n % base], ?_, ?_, ?_, ?_⟩
      · rw [hsplit, List.mapM_append, hread, List.mapM_cons, hlast]
        rfl
      · rw [ofDigits_concat, hvalue, Nat.div_add_mod']
      · rw [hsplit, List.length_append, List.length_append, hlength]
        rfl
      · intro hzero
        cases digits with
        | nil => exact absurd (List.length_eq_zero_iff.1 hlength.symm) Nat.toDigits_ne_nil
        | cons d digits =>
          have := hhead hzero
          omega

theorem toDigits_inj {n k : Nat} : Nat.toDigits 10 n = Nat.toDigits 10 k ↔ n = k := by
  constructor
  · intro h
    obtain ⟨digits, hread, hvalue, -⟩ := mapM_toDigits (by decide) (fun _ => asciiDigit?_digitChar) n
    obtain ⟨digits', hread', hvalue', -⟩ := mapM_toDigits (by decide) (fun _ => asciiDigit?_digitChar) k
    rw [h, hread', Option.some.injEq] at hread
    rw [← hvalue, ← hvalue', hread]
  · intro h
    rw [h]

namespace Address

theorem octet?_toString {n : Nat} (h : n < 256) : octet? (toString n).toList = some n := by
  obtain ⟨digits, hread, hvalue, hlength, hhead⟩ :=
    mapM_toDigits (by decide) (fun _ => asciiDigit?_digitChar) n
  have hpos : 0 < digits.length := hlength ▸ Nat.length_toDigits_pos
  have hle : digits.length ≤ 3 := by
    rw [hlength, Nat.length_toDigits_le_iff (by decide) (by decide)]
    omega
  have hzero : digits.head? = some 0 → digits.length = 1 := by
    intro h0
    rw [hlength, hhead h0]
    decide
  simp only [octet?, Nat.toString_eq_repr, Nat.toList_repr, hread, Option.bind_eq_bind,
    Option.bind_some, hvalue]
  refine if_neg ?_
  simp only [Bool.or_eq_true, Bool.and_eq_true, List.isEmpty_iff, decide_eq_true_eq, beq_iff_eq]
  rintro (((rfl | hlong) | ⟨h0, hlong⟩) | hbig)
  · exact absurd hpos (by decide)
  · omega
  · have := hzero h0
    omega
  · omega

theorem hexDigit?_digitChar {d : Nat} (h : d < 16) : hexDigit? (Nat.digitChar d) = some d := by
  have hall : ∀ d < 16, hexDigit? (Nat.digitChar d) = some d := by decide
  exact hall d h

theorem group?_toDigits {n : Nat} (h : n < 0x10000) : group? (Nat.toDigits 16 n) = some n := by
  obtain ⟨digits, hread, hvalue, hlength, -⟩ :=
    mapM_toDigits (by decide) (fun _ => hexDigit?_digitChar) n
  have hpos : 0 < digits.length := hlength ▸ Nat.length_toDigits_pos
  have hle : digits.length ≤ 4 := by
    rw [hlength, Nat.length_toDigits_le_iff (by decide) (by decide)]
    exact h
  simp only [group?, hread, Option.bind_eq_bind, Option.bind_some, hvalue]
  refine if_neg ?_
  simp only [Bool.or_eq_true, List.isEmpty_iff, decide_eq_true_eq]
  rintro (rfl | hlong)
  · exact absurd hpos (by decide)
  · omega

theorem octet?_lt {cs : List Char} {n : Nat} (h : octet? cs = some n) : n < 256 := by
  obtain ⟨digits, -, hn⟩ := Option.bind_eq_some_iff.1 h
  dsimp only at hn
  split at hn
  · cases hn
  · rename_i hchecks
    cases hn
    simp only [Bool.or_eq_true, decide_eq_true_eq, not_or] at hchecks
    omega

theorem isDigit_of_octet? {cs : List Char} {n : Nat} (h : octet? cs = some n) :
    ∀ c ∈ cs, c.isDigit = true := by
  obtain ⟨digits, hread, -⟩ := Option.bind_eq_some_iff.1 h
  intro c hc
  obtain ⟨d, -, hd⟩ := (exists_of_mapM hread).1 c hc
  exact isDigit_of_asciiDigit? hd

end Address

end PowerDiscovery
