/-! # Decimal digits

The characters with Unicode's property Numeric_Type=Decimal.  They come in runs of ten
consecutive code points, so a run is known by its zero. -/

namespace PowerDiscovery.Text

def digitZeros : List Nat := [
    0x30, 0x660, 0x6f0, 0x7c0, 0x966, 0x9e6, 0xa66, 0xae6, 0xb66, 0xbe6,
    0xc66, 0xce6, 0xd66, 0xde6, 0xe50, 0xed0, 0xf20, 0x1040, 0x1090, 0x17e0,
    0x1810, 0x1946, 0x19d0, 0x1a80, 0x1a90, 0x1b50, 0x1bb0, 0x1c40, 0x1c50, 0xa620,
    0xa8d0, 0xa900, 0xa9d0, 0xa9f0, 0xaa50, 0xabf0, 0xff10, 0x104a0, 0x10d30, 0x11066,
    0x110f0, 0x11136, 0x111d0, 0x112f0, 0x11450, 0x114d0, 0x11650, 0x116c0, 0x11730, 0x118e0,
    0x11950, 0x11c50, 0x11d50, 0x11da0, 0x16a60, 0x16ac0, 0x16b50, 0x1d7ce, 0x1d7d8, 0x1d7e2,
    0x1d7ec, 0x1d7f6, 0x1e140, 0x1e2f0, 0x1e950, 0x1fbf0]

/-- The value of a decimal digit of any script. -/
def digitValue? (c : Char) : Option Nat :=
  (digitZeros.find? fun first => first ≤ c.toNat && c.toNat < first + 10).map (c.toNat - ·)

/-- The value of one of the ten ASCII digits. -/
def asciiDigit? (c : Char) : Option Nat :=
  if c.isDigit then some (c.toNat - '0'.toNat) else none

def ofDigits (base : Nat) (digits : List Nat) : Nat :=
  digits.foldl (fun n d => n * base + d) 0

theorem ofDigits_concat (base : Nat) (digits : List Nat) (d : Nat) :
    ofDigits base (digits ++ [d]) = ofDigits base digits * base + d := by
  simp [ofDigits]

theorem ofDigits_lt {base : Nat} {digits : List Nat} (h : ∀ d ∈ digits, d < base) :
    ofDigits base digits < Nat.pow base digits.length := by
  obtain ⟨rev, rfl⟩ : ∃ rev, digits = rev.reverse := ⟨digits.reverse, digits.reverse_reverse.symm⟩
  induction rev with
  | nil => exact Nat.one_pos
  | cons d rev ih =>
    simp only [List.reverse_cons, List.mem_append, List.mem_singleton] at h
    have hrest := ih fun d hd => h d (.inl hd)
    rw [List.reverse_cons, ofDigits_concat, List.length_append]
    calc ofDigits base rev.reverse * base + d
      _ < (ofDigits base rev.reverse + 1) * base := by
        rw [Nat.succ_mul]
        exact Nat.add_lt_add_left (h d (.inr rfl)) _
      _ ≤ Nat.pow base rev.reverse.length * base := Nat.mul_le_mul_right _ hrest

end PowerDiscovery.Text
