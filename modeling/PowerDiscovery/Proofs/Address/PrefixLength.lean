import PowerDiscovery.Proofs.Address.Cidr

/-! # Networks put together

An address without a scope, a slash and a whole number name a network, provided that the number is a prefix
length of the family of the address. -/

namespace PowerDiscovery

open Text

namespace Address

/-! ### The characters of an address -/

/-- A character that an address without a scope may have. -/
def IsPlain (c : Char) : Prop := (hexDigit? c).isSome = true ∨ c = ':' ∨ c = '.'

private theorem isPlain_of_isDigit {c : Char} (h : c.isDigit = true) : IsPlain c := by
  left
  simp only [hexDigit?, h, if_true, Option.isSome_some]

private theorem hexDigit?_range {c : Char} (h : (hexDigit? c).isSome = true) : 0x2F < c.toNat ∧ c.toNat < 0x80 := by
  simp only [hexDigit?, Char.isDigit, Bool.and_eq_true, decide_eq_true_eq, ge_iff_le, Char.le_def,
    UInt32.le_iff_toNat_le] at h
  split at h
  · rename_i hdigit
    change 48 ≤ c.toNat ∧ c.toNat ≤ 57 at hdigit
    omega
  split at h
  · rename_i hsmall
    change 97 ≤ c.toNat ∧ c.toNat ≤ 102 at hsmall
    omega
  split at h
  · rename_i hcapital
    change 65 ≤ c.toNat ∧ c.toNat ≤ 70 at hcapital
    omega
  · cases h

private theorem IsPlain.not_isBlank {c : Char} (h : IsPlain c) : isBlank c = false := by
  have hrange : 0x2D < c.toNat ∧ c.toNat < 0x80 := by
    rcases h with h | rfl | rfl
    · have := hexDigit?_range h
      omega
    · decide
    · decide
  simp [isBlank]
  omega

theorem IsPlain.ne_slash {c : Char} (h : IsPlain c) : c ≠ '/' := by
  rintro rfl
  rcases h with h | h | h
  · exact absurd h (by decide)
  · exact absurd h (by decide)
  · exact absurd h (by decide)

theorem isPlain_of_readInet? {cs : List Char} {n : Nat} (h : readInet? cs = some n) :
    ∀ c ∈ cs, IsPlain c := by
  intro c hc
  rcases isDigit_of_readInet? h c hc with rfl | hdigit
  · exact .inr (.inr rfl)
  · exact isPlain_of_isDigit hdigit

private theorem isPlain_of_group? {cs : List Char} {n : Nat} (h : group? cs = some n) : ∀ c ∈ cs, IsPlain c := by
  obtain ⟨digits, hread, -⟩ := Option.bind_eq_some_iff.1 h
  intro c hc
  obtain ⟨d, -, hd⟩ := (exists_of_mapM hread).1 c hc
  left
  rw [hd]
  rfl

variable {parts expanded before after : List (List Char)}

private theorem mem_of_expandTail (h : expandTail parts = some expanded) {part : List Char} (hpart : part ∈ parts) :
    part ∈ expanded ∨ ∃ n, readInet? part = some n := by
  unfold expandTail at h
  split at h
  · rename_i last hlast
    split at h
    · obtain ⟨n, hn, h⟩ := Option.bind_eq_some_iff.1 h
      cases h
      have hconcat := List.dropLast_append_getLast? last hlast
      rw [← hconcat] at hpart
      rcases List.mem_append.mp hpart with hfront | hback
      · exact .inl (List.mem_append_left _ hfront)
      · rw [List.mem_singleton.mp hback]
        exact .inr ⟨n, hn⟩
    · cases h
      exact .inl hpart
  · cases h
    exact .inl hpart

/-- One side of a gap without the empty part that stands at the edge of the address. -/
def withoutEdge? (edge : Option (List Char)) (parts : List (List Char)) : Option (List (List Char)) :=
  if edge.any List.isEmpty then (if parts.length = 1 then some [] else none) else some parts

private theorem aroundGap?_eq (parts : List (List Char)) (gap : Nat) : aroundGap? parts gap =
    (withoutEdge? (parts.take gap).head? (parts.take gap)).bind fun before =>
      (withoutEdge? (parts.drop (gap + 1)).getLast? (parts.drop (gap + 1))).bind fun after =>
        if before.length + after.length < 8 then some (before, after) else none := by
  simp only [aroundGap?, withoutEdge?, Option.bind_eq_bind]
  cases (parts.take gap).head?.any List.isEmpty <;>
    cases (parts.drop (gap + 1)).getLast?.any List.isEmpty <;>
    simp only [if_true, if_false, Bool.false_eq_true]

private theorem mem_of_withoutEdge? {edge : Option (List Char)} {kept : List (List Char)}
    (h : withoutEdge? edge parts = some kept) (hedge : ∀ part, edge = some part → part ∈ parts)
    {part : List Char} (hpart : part ∈ parts) : part = [] ∨ part ∈ kept := by
  unfold withoutEdge? at h
  split at h
  · rename_i hempty
    obtain ⟨last, hlast, hnil⟩ := (Option.any_eq_true _ _).mp hempty
    obtain ⟨hlength, -⟩ := Option.ite_none_right_eq_some.mp h
    obtain ⟨only, rfl⟩ := List.length_eq_one_iff.mp hlength
    have honly := List.mem_singleton.mp (hedge last hlast)
    rw [List.mem_singleton.mp hpart, ← honly]
    exact .inl (List.isEmpty_iff.mp hnil)
  · cases h
    exact .inr hpart

private theorem mem_of_aroundGap? {gap : Nat} (hgap : gaps parts = [gap])
    (h : aroundGap? parts gap = some (before, after)) {part : List Char} (hpart : part ∈ parts) :
    part = [] ∨ part ∈ before ∨ part ∈ after := by
  have hmem : gap ∈ gaps parts := by
    rw [hgap]
    exact List.mem_singleton_self gap
  obtain ⟨_, hchecks⟩ := List.mem_filter.mp hmem
  obtain ⟨piece, hpiece, hempty⟩ := (Option.any_eq_true _ _).mp (Bool.and_eq_true_iff.mp hchecks).2
  obtain ⟨hgap, rfl⟩ := List.getElem?_eq_some_iff.mp hpiece
  have hsplit : parts = parts.take gap ++ parts[gap] :: parts.drop (gap + 1) := by
    rw [List.getElem_cons_drop, List.take_append_drop]
  rw [aroundGap?_eq] at h
  obtain ⟨kept₁, hbefore, h⟩ := Option.bind_eq_some_iff.mp h
  obtain ⟨kept₂, hafter, h⟩ := Option.bind_eq_some_iff.mp h
  obtain ⟨_, h⟩ := Option.ite_none_right_eq_some.mp h
  cases h
  rw [hsplit] at hpart
  rcases List.mem_append.mp hpart with hpart | hpart
  · exact (mem_of_withoutEdge? hbefore (fun _ => List.mem_of_head?) hpart).imp_right .inl
  rcases List.mem_cons.mp hpart with rfl | hpart
  · exact .inl (List.isEmpty_iff.mp hempty)
  · exact (mem_of_withoutEdge? hafter (fun _ => List.mem_of_getLast?) hpart).imp_right .inr

private theorem isPlain_of_groups {groups : List Nat} (h : parts.mapM group? = some groups) :
    ∀ part ∈ parts, ∀ c ∈ part, IsPlain c := by
  intro part hpart
  obtain ⟨g, -, hg⟩ := (exists_of_mapM h).1 part hpart
  exact isPlain_of_group? hg

private theorem isPlain_of_readInet6? {cs : List Char} {n : Nat} (h : readInet6? cs = some n) :
    ∀ c ∈ cs, IsPlain c := by
  intro c hc
  unfold readInet6? at h
  dsimp only at h
  split at h
  · cases h
  obtain ⟨expanded, hexpanded, h⟩ := Option.bind_eq_some_iff.mp h
  have hplain : ∀ part ∈ expanded, ∀ c ∈ part, IsPlain c := by
    split at h
    · cases h
    split at h
    · obtain ⟨groups, hread, _⟩ := Option.bind_eq_some_iff.mp h
      exact isPlain_of_groups hread
    · rename_i gap hgap
      obtain ⟨⟨before, after⟩, haround, h⟩ := Option.bind_eq_some_iff.mp h
      obtain ⟨front, hfront, h⟩ := Option.bind_eq_some_iff.mp h
      obtain ⟨back, hback, _⟩ := Option.bind_eq_some_iff.mp h
      intro part hpart c hc
      rcases mem_of_aroundGap? hgap haround hpart with rfl | hpart | hpart
      · cases hc
      · exact isPlain_of_groups hfront part hpart c hc
      · exact isPlain_of_groups hback part hpart c hc
    · cases h
  -- The only part that may be no group is an IPv4 address in the last place.
  rw [← join_split ':' cs] at hc
  rcases mem_join hc with rfl | ⟨part, hpart, hc⟩
  · exact .inr (.inl rfl)
  · rcases mem_of_expandTail hexpanded hpart with hkept | ⟨n, hn⟩
    · exact hplain part hkept c hc
    · exact isPlain_of_readInet? hn c hc

private theorem isPlain_of_read {text : String} {a : Address} (h : Address.read text = .ok a)
    (hscope : '%' ∉ text.toList) : ∀ c ∈ text.toList, IsPlain c := by
  obtain ⟨family, hread⟩ := exists_readFamily? h
  cases family with
  | inet =>
    obtain ⟨n, hn, -⟩ := Option.bind_eq_some_iff.mp hread
    exact isPlain_of_readInet? hn
  | inet6 =>
    simp only [readFamily?] at hread
    split at hread
    · cases hread
    have hcut : cutScope? text.toList = some (text.toList, none) := by
      simp only [cutScope?, cut_of_not_mem hscope]
    obtain ⟨⟨body, scope⟩, hbody, hread⟩ := Option.bind_eq_some_iff.mp hread
    rw [hcut] at hbody
    cases hbody
    obtain ⟨n, hn, -⟩ := Option.bind_eq_some_iff.mp hread
    exact isPlain_of_readInet6? hn

theorem readFamily?_of_read {text : String} {a : Address} (h : Address.read text = .ok a) (family : Family) :
    readFamily? family text = if family = a.family then some a else none := by
  obtain ⟨own, hown⟩ := exists_readFamily? h
  have hfamily := (readFamily?_spec hown).1
  by_cases hsame : family = a.family
  · rw [if_pos hsame, hsame, hfamily, hown]
  · rw [if_neg hsame, Option.eq_none_iff_forall_not_mem]
    intro b hb
    obtain ⟨hother, -, hread⟩ := readFamily?_spec hb
    rw [h] at hread
    cases hread
    exact hsame hother.symm

end Address

namespace Network

/-! ### The number after the slash -/

private theorem toString_int_eq (n : Int) :
    (toString n).toList = (if n < 0 then ['-'] else []) ++ Nat.toDigits 10 n.natAbs := by
  cases n with
  | ofNat k =>
    have hnat : toString (Int.ofNat k) = toString k := rfl
    rw [hnat, Nat.toString_eq_repr, Nat.toList_repr]
    rfl
  | negSucc k =>
    have hnegative : toString (Int.negSucc k) = "-" ++ (k + 1).repr := rfl
    rw [hnegative, String.toList_append, Nat.toList_repr, if_pos (Int.negSucc_lt_zero k)]
    rfl

private theorem mem_toString_int {c : Char} {n : Int} (h : c ∈ (toString n).toList) :
    c = '-' ∨ c.isDigit = true := by
  rw [toString_int_eq] at h
  rcases List.mem_append.mp h with h | h
  · left
    split at h
    · exact List.mem_singleton.mp h
    · cases h
  · exact .inr (Nat.isDigit_of_mem_toDigits (by decide) (by decide) h)

theorem not_mem_toString_int {c : Char} (hsign : c ≠ '-') (hdigit : c.isDigit = false) (n : Int) :
    c ∉ (toString n).toList := by
  intro hc
  rcases mem_toString_int hc with h | h
  · exact hsign h
  · rw [hdigit] at h
    cases h

private theorem minus_mem_toString_int {n : Int} : '-' ∈ (toString n).toList ↔ n < 0 := by
  rw [toString_int_eq]
  by_cases hn : n < 0
  · simp [hn]
  · rw [if_neg hn, List.nil_append]
    refine iff_of_false ?_ hn
    intro hmem
    exact absurd (Nat.isDigit_of_mem_toDigits (by decide) (by decide) hmem) (by decide)

theorem toString_int_inj {n k : Int} : toString n = toString k ↔ n = k := by
  constructor
  · intro h
    have hsign : n < 0 ↔ k < 0 := by rw [← minus_mem_toString_int, h, minus_mem_toString_int]
    have hchars := congrArg String.toList h
    rw [toString_int_eq, toString_int_eq, if_congr hsign rfl rfl, List.append_cancel_left_eq,
      toDigits_inj] at hchars
    omega
  · intro h
    rw [h]

theorem lengthDigits?_eq_none {family : Family} {cs : List Char} {c : Char} (hc : c ∈ cs)
    (hdigit : c.isDigit = false) : lengthDigits? family cs = none := by
  cases hread : cs.mapM asciiDigit? with
  | none => simp only [lengthDigits?, hread, Option.bind_eq_bind, Option.bind_none]
  | some digits =>
    obtain ⟨d, _, hd⟩ := (exists_of_mapM hread).1 c hc
    rw [isDigit_of_asciiDigit? hd] at hdigit
    cases hdigit

private theorem lengthDigits?_toString (family : Family) (n : Int) : lengthDigits? family (toString n).toList =
    if 0 ≤ n ∧ n ≤ family.width then some n.toNat else none := by
  rw [toString_int_eq]
  by_cases hn : n < 0
  · rw [if_pos hn, if_neg (by omega)]
    exact lengthDigits?_eq_none (c := '-') (List.mem_append_left _ (List.mem_singleton_self _)) rfl
  · obtain ⟨k, rfl⟩ := Int.eq_ofNat_of_zero_le (Int.not_lt.mp hn)
    obtain ⟨digits, hread, hvalue, hlength, -⟩ :=
      mapM_toDigits (by decide) (fun _ => asciiDigit?_digitChar) k
    have hpos : 0 < digits.length := hlength ▸ Nat.length_toDigits_pos
    have hempty : digits.isEmpty = false := by
      rw [← Bool.not_eq_true, List.isEmpty_iff]
      exact List.ne_nil_of_length_pos hpos
    have hfits : (0 ≤ (k : Int) ∧ (k : Int) ≤ family.width) ↔ k ≤ family.width := by omega
    have hmax : k ≤ family.width → digits.length ≤ Numeral.maxDigits := by
      intro hk
      have hwidth : family.width ≤ 128 := by cases family <;> decide
      have hshort : digits.length ≤ 3 := by
        rw [hlength, Nat.length_toDigits_le_iff (by decide) (by decide)]
        omega
      exact Nat.le_trans hshort (by decide)
    rw [if_neg hn, List.nil_append, Int.natAbs_natCast, Int.toNat_natCast]
    simp only [lengthDigits?, hread, Option.bind_eq_bind, Option.bind_some, hvalue, hempty, hfits,
      Bool.or_eq_true, decide_eq_true_eq, Bool.false_eq_true, false_or]
    by_cases hk : k ≤ family.width
    · have hle := hmax hk
      rw [if_neg (by omega), if_pos hk]
    · rw [if_pos (by omega), if_neg hk]

theorem readInet?_eq_none_of_not_mem {cs : List Char} (h : '.' ∉ cs) : Address.readInet? cs = none := by
  rw [Address.readInet?, split_of_not_mem h, List.mapM_cons]
  cases Address.octet? cs <;> rfl

private theorem maskLength?_toString (n : Int) : maskLength? (toString n).toList = none := by
  have hplain : '.' ∉ (toString n).toList := not_mem_toString_int (by decide) rfl n
  rw [maskLength?, readInet?_eq_none_of_not_mem hplain]
  rfl

private theorem readLength?_toString (family : Family) (n : Int) :
    readLength? family (toString n) = if 0 ≤ n ∧ n ≤ family.width then some n.toNat else none := by
  simp only [readLength?, lengthDigits?_toString, maskLength?_toString]
  split
  · rename_i length _ hlength
    exact hlength.symm
  · rename_i hnone
    exact hnone.symm
  · rename_i hnone
    exact hnone.symm

private theorem readLength?_le {family : Family} {text : String} {count : Nat}
    (h : readLength? family text = some count) : count ≤ family.width := by
  simp only [readLength?] at h
  split at h
  · rename_i hdigits
    cases h
    obtain ⟨digits, _, hcount⟩ := Option.bind_eq_some_iff.mp hdigits
    obtain ⟨hchecks, hvalue⟩ := Option.ite_none_left_eq_some.mp hcount
    cases hvalue
    simp only [Bool.or_eq_true, decide_eq_true_eq, not_or, Nat.not_lt] at hchecks
    exact hchecks.2
  · obtain ⟨n, _, hones⟩ := Option.bind_eq_some_iff.mp h
    split at hones
    · rename_i hnetmask
      cases hones
      exact (leadingOnes?_eq_some hnetmask).1
    · exact (leadingOnes?_eq_some hones).1
  · cases h

theorem netmaskLength_of_not_mem {family : Family} {netmask : String} (h : '/' ∉ netmask.toList) {n : Int}
    (hn : netmaskLength family netmask = .ok n) : 0 ≤ n ∧ n ≤ family.width := by
  rw [netmaskLength, String.contains_char_eq, decide_eq_false h, if_neg Bool.false_ne_true] at hn
  split at hn
  · rename_i count hcount
    cases hn
    have := readLength?_le hcount
    omega
  · cases hn

/-! ### Address and number together -/

/-- The network of an address with a number for its prefix length, if the number is one. -/
def ofLength? (a : Address) (n : Int) : Option Network :=
  if h : 0 ≤ n ∧ n ≤ a.family.width then some ⟨a, n.toNat, by omega⟩ else none

variable {host : String} {a : Address}

theorem ofLength?_of_le {n : Int} (hpos : 0 ≤ n) (hle : n ≤ a.family.width) :
    ∃ network, ofLength? a n = some network ∧ network.address = a ∧ network.length = n :=
  ⟨_, dif_pos ⟨hpos, hle⟩, rfl, Int.toNat_of_nonneg hpos⟩

private theorem readFamily?_written (hread : Address.read host = .ok a) (hscope : '%' ∉ host.toList) (n : Int)
    (family : Family) : readFamily? family (host ++ "/" ++ toString n) =
      if family = a.family then ofLength? a n else none := by
  have hhost : '/' ∉ host.toList := by
    intro hslash
    exact (Address.isPlain_of_read hread hscope _ hslash).ne_slash rfl
  have hnumber : '/' ∉ (toString n).toList := not_mem_toString_int (by decide) rfl n
  have hpieces : pieces '/' (host ++ "/" ++ toString n) = [host, toString n] := by
    have htoList : (host ++ "/" ++ toString n).toList = host.toList ++ '/' :: (toString n).toList := by
      simp
    rw [pieces, htoList, split_append_cons hhost, split_of_not_mem hnumber]
    simp
  have hread' : readFamily? family (host ++ "/" ++ toString n) =
      (Address.readFamily? family host).bind fun address => (readLength? family (toString n)).bind
        fun length => if h : length ≤ address.family.width then some ⟨address, length, h⟩ else none := by
    simp only [readFamily?, hpieces]
    rfl
  rw [hread', Address.readFamily?_of_read hread, readLength?_toString]
  by_cases hfamily : family = a.family
  · subst hfamily
    rw [if_pos rfl, if_pos rfl, Option.bind_some, ofLength?]
    by_cases hfits : 0 ≤ n ∧ n ≤ a.family.width
    · rw [if_pos hfits, dif_pos hfits, Option.bind_some, dif_pos (by omega)]
    · rw [if_neg hfits, dif_neg hfits, Option.bind_none]
  · rw [if_neg hfamily, if_neg hfamily, Option.bind_none]

theorem cidrRange_written (hread : Address.read host = .ok a) (hscope : '%' ∉ host.toList) (n : Int) :
    cidrRange (host ++ "/" ++ toString n) = match ofLength? a n with
      | some network => .ok (network.first.text, network.last.text)
      | none => .error (.notNetwork (host ++ "/" ++ toString n)) := by
  have htrim : trim (host ++ "/" ++ toString n) = host ++ "/" ++ toString n := by
    apply trim_of_not_blank
    intro c hc
    rw [String.toList_append, String.toList_append] at hc
    rcases List.mem_append.mp hc with hc | hc
    · rcases List.mem_append.mp hc with hc | hc
      · exact (Address.isPlain_of_read hread hscope c hc).not_isBlank
      · rw [List.mem_singleton.mp hc]
        rfl
    · rcases mem_toString_int hc with rfl | hdigit
      · rfl
      · exact (Address.isPlain_of_isDigit hdigit).not_isBlank
  have hslash : (host ++ "/" ++ toString n).contains '/' = true := by
    simp [String.contains_char_eq]
  have hread? : read? (host ++ "/" ++ toString n) = ofLength? a n := by
    rw [read?, readFamily?_written hread hscope, readFamily?_written hread hscope]
    cases hfamily : a.family <;> simp
  simp only [cidrRange, readCidr, hslash, htrim, hread?]
  cases ofLength? a n <;> rfl

end Network

end PowerDiscovery
