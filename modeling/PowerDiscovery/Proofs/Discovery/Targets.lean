import PowerDiscovery.Discovery.Upsd
import PowerDiscovery.Proofs.Address.PrefixLength

/-! # Which server a target names

The target of a unit is its name and the address of its server, with the port after a colon if the server
is not asked at the usual one.  IPv6 addresses have colons of their own, so the target of a port may be that
of a longer address. -/

namespace PowerDiscovery

open Text

namespace Address

private theorem dot_or_digit_of_mem_text {a : Address} (h : a.family = .inet) {c : Char} (hc : c ∈ a.text.toList) :
    c = '.' ∨ c.isDigit = true := by
  obtain ⟨family, value, scope, hlt⟩ := a
  subst h
  exact isDigit_of_readInet? (readInet?_inetText hlt) c hc

private theorem dot_mem_text {a : Address} (h : a.family = .inet) : '.' ∈ a.text.toList := by
  obtain ⟨family, value, scope, hlt⟩ := a
  subst h
  have hread : readInet? (inetText value).toList = some value := readInet?_inetText hlt
  apply Decidable.byContradiction
  intro hdot
  have hnone : readInet? (inetText value).toList = none := Network.readInet?_eq_none_of_not_mem hdot
  rw [hread] at hnone
  cases hnone

private theorem dot_not_mem_text {a : Address} (h : a.family = .inet6) (hpercent : '%' ∉ a.text.toList) :
    '.' ∉ a.text.toList := by
  obtain ⟨family, value, scope, hlt⟩ := a
  subst h
  have hbody : '.' ∉ (inet6Text value).toList := not_mem_inet6Text (by decide) (by decide) value
  cases scope with
  | none =>
    simp only [text, Option.map_none, Option.getD_none, String.append_empty]
    exact hbody
  | some s => simp [text] at hpercent

theorem text_inj {a b : Address} (ha : a.IsLegible) (hb : b.IsLegible) : a.text = b.text ↔ a = b := by
  constructor
  · intro h
    have hread := read_text ha
    rw [h, read_text hb] at hread
    exact (Except.ok.inj hread).symm
  · intro h
    rw [h]

end Address

namespace Upsd

/-- The device of a listed unit, for a port that can be written. -/
def deviceOf (backend : Backend) (host : String) (port : Value) (unit : ListedUnit) : Device where
  backend := backend
  driver := "nutclient"
  port := if port.isGiven then s!"{unit.name}@{host}:{port.display}" else s!"{unit.name}@{host}"
  options := if unit.description.isEmpty then [] else [("desc", .text unit.description)]

theorem devices_eq_ok (backend : Backend) (host : String) {port : Value} (h : port.isWritable = true)
    (units : List ListedUnit) :
    devices backend host port units = .ok (units.map (deviceOf backend host port)) := by
  have htarget (name : String) : target name host port =
      .ok (if port.isGiven then s!"{name}@{host}:{port.display}" else s!"{name}@{host}") := by
    simp only [target, Value.written, h, if_true]
    split <;> rfl
  induction units with
  | nil => rfl
  | cons unit units ih =>
    have hunits : devices backend host port (unit :: units) =
        (do return deviceOf backend host port unit :: (← devices backend host port units)) := by
      simp only [devices, List.mapM_cons, htarget]
      rfl
    rw [hunits, ih]
    rfl

theorem isWritable_of_isPort {n : Nat} (h : n ≤ 65535) : Numeral.isWritable n = true := by
  have hpow (k : Nat) (hk : 5 ≤ k) : n < Nat.pow 10 k :=
    Nat.lt_of_lt_of_le (Nat.lt_of_le_of_lt h (by decide)) (Nat.pow_le_pow_right (by decide) hk)
  rw [Numeral.isWritable, Int.natAbs_natCast]
  exact decide_eq_true (hpow Numeral.maxDigits (by decide))

/-- Where a server listens: at an address, and at a port of its own unless it is the usual one. -/
structure Listener where
  host : Address
  port : Option Nat
  legible : host.IsLegible
  port_range : ∀ n ∈ port, 1 ≤ n ∧ n ≤ 65535

namespace Listener

def givenPort (l : Listener) : Value :=
  match l.port with
  | none => .null
  | some n => .int n

def text (l : Listener) : String :=
  match l.port with
  | none => l.host.text
  | some n => l.host.text ++ ":" ++ toString n

/-- A listener at the usual port, whose address is written like the other one with its port. -/
def Mimics (l l' : Listener) : Prop :=
  l.port = none ∧ ∃ n, l'.port = some n ∧ l.host.text = l'.host.text ++ ":" ++ toString n

variable {l l' : Listener}

private theorem ext_fields (hhost : l.host = l'.host) (hport : l.port = l'.port) : l = l' := by
  cases l
  cases l'
  subst hhost
  subst hport
  rfl

private theorem givenPort_isWritable (l : Listener) : l.givenPort.isWritable = true := by
  cases hport : l.port with
  | none => simp only [givenPort, hport, Value.isWritable]
  | some n =>
    simp only [givenPort, hport, Value.isWritable]
    exact isWritable_of_isPort (l.port_range n hport).2

private theorem deviceOf_port (l : Listener) (backend : Backend) (unit : ListedUnit) :
    (deviceOf backend l.host.text l.givenPort unit).port = unit.name ++ "@" ++ l.text := by
  cases hport : l.port with
  | none => simp [deviceOf, givenPort, text, hport, Value.isGiven, toString]
  | some n =>
    have hn := (l.port_range n hport).1
    have hne : ((n : Int) != 0) = true := by
      rw [bne_iff_ne]
      omega
    have hnumber : (Value.int n).display = toString n := rfl
    simp [deviceOf, givenPort, text, hport, Value.isGiven, hne, hnumber, toString, String.append_assoc]

private theorem colon_append_inj {host host' : String} {n n' : Nat}
    (h : host ++ ":" ++ toString n = host' ++ ":" ++ toString n') : host = host' ∧ n = n' := by
  have hdigits (k : Nat) : ':' ∉ (toString k).toList.reverse := by
    rw [List.mem_reverse, Nat.toString_eq_repr, Nat.toList_repr]
    exact fun hmem => absurd (Nat.isDigit_of_mem_toDigits (by decide) (by decide) hmem) (by decide)
  have hchars : (toString n).toList.reverse ++ ':' :: host.toList.reverse =
      (toString n').toList.reverse ++ ':' :: host'.toList.reverse := by
    have := congrArg (fun s : String => s.toList.reverse) h
    simpa using this
  have hcut := congrArg (cut ':') hchars
  rw [cut_append_cons (hdigits n), cut_append_cons (hdigits n')] at hcut
  obtain ⟨hnumber, hhost⟩ := Prod.mk.inj hcut
  rw [List.reverse_inj, Nat.toString_eq_repr, Nat.toString_eq_repr, Nat.toList_repr, Nat.toList_repr] at hnumber
  constructor
  · exact String.toList_inj.1 (List.reverse_inj.1 (Option.some.inj hhost))
  · exact toDigits_inj.mp hnumber

private theorem text_eq_iff : l.text = l'.text ↔ l = l' ∨ l.Mimics l' ∨ l'.Mimics l := by
  constructor
  · intro h
    cases hport : l.port with
    | none =>
      cases hport' : l'.port with
      | none =>
        simp only [text, hport, hport'] at h
        exact .inl (ext_fields ((Address.text_inj l.legible l'.legible).1 h) (hport.trans hport'.symm))
      | some n' =>
        simp only [text, hport, hport'] at h
        exact .inr (.inl ⟨hport, n', hport', h⟩)
    | some n =>
      cases hport' : l'.port with
      | none =>
        simp only [text, hport, hport'] at h
        exact .inr (.inr ⟨hport', n, hport, h.symm⟩)
      | some n' =>
        simp only [text, hport, hport'] at h
        obtain ⟨hhost, rfl⟩ := colon_append_inj h
        exact .inl (ext_fields ((Address.text_inj l.legible l'.legible).1 hhost) (hport.trans hport'.symm))
  · rintro (rfl | ⟨hport, n, hport', htext⟩ | ⟨hport', n, hport, htext⟩)
    · rfl
    · simp only [text, hport, hport', htext]
    · simp only [text, hport, hport', htext]

/-- Only an IPv6 address is written like an address with a port, and that address is one of IPv6 too. -/
private theorem Mimics.families (h : l.Mimics l') : l.host.family = .inet6 ∧ l'.host.family = .inet6 := by
  obtain ⟨-, n, -, htext⟩ := h
  have hcolon : ':' ∈ l.host.text.toList := by
    rw [htext]
    simp
  have hlong : l.host.family = .inet6 := by
    cases hfamily : l.host.family with
    | inet6 => rfl
    | inet =>
      rcases Address.dot_or_digit_of_mem_text hfamily hcolon with hc | hc
      · exact absurd hc (by decide)
      · exact absurd hc (by decide)
  refine ⟨hlong, ?_⟩
  cases hfamily : l'.host.family with
  | inet6 => rfl
  | inet =>
    -- The longer text has a dot and no percent sign, and no IPv6 address is printed like that.
    have hdot : '.' ∈ l.host.text.toList := by
      rw [htext]
      simp [Address.dot_mem_text hfamily]
    have hpercent : '%' ∉ l.host.text.toList := by
      intro hmem
      rw [htext, String.toList_append, String.toList_append, List.mem_append, List.mem_append] at hmem
      rcases hmem with (hmem | hmem) | hmem
      · rcases Address.dot_or_digit_of_mem_text hfamily hmem with hc | hc
        · exact absurd hc (by decide)
        · exact absurd hc (by decide)
      · exact absurd hmem (by decide)
      · rw [Nat.toString_eq_repr, Nat.toList_repr] at hmem
        exact absurd (Nat.isDigit_of_mem_toDigits (by decide) (by decide) hmem) (by decide)
    exact absurd hdot (Address.dot_not_mem_text hlong hpercent)

end Listener

theorem at_append_inj {name name' rest rest' : String} (h : '@' ∉ name.toList) (h' : '@' ∉ name'.toList) :
    name ++ "@" ++ rest = name' ++ "@" ++ rest' ↔ name = name' ∧ rest = rest' := by
  constructor
  · intro heq
    have hchars : name.toList ++ '@' :: rest.toList = name'.toList ++ '@' :: rest'.toList := by
      simpa using congrArg String.toList heq
    have hcut := congrArg (cut '@') hchars
    rw [cut_append_cons h, cut_append_cons h'] at hcut
    obtain ⟨hname, hrest⟩ := Prod.mk.inj hcut
    exact ⟨String.toList_inj.1 hname, String.toList_inj.1 (Option.some.inj hrest)⟩
  · rintro ⟨rfl, rfl⟩
    rfl

/-- The ports of two units agree exactly if the units have one name and their servers one text: the servers
are the same, or one of them listens at the usual port and has the text of the other with its port for an
address.  This does not happen to IPv4 addresses, nor to servers that both have a port of their own or both
have none. -/
theorem devices_port_eq_iff (l l' : Listener) (backend backend' : Backend) (units units' : List ListedUnit)
    (h : ∀ u ∈ units, '@' ∉ u.name.toList) (h' : ∀ u ∈ units', '@' ∉ u.name.toList) :
    devices backend l.host.text l.givenPort units =
        .ok (units.map (deviceOf backend l.host.text l.givenPort)) ∧
      devices backend' l'.host.text l'.givenPort units' =
        .ok (units'.map (deviceOf backend' l'.host.text l'.givenPort)) ∧
      (∀ u ∈ units, ∀ u' ∈ units',
        (deviceOf backend l.host.text l.givenPort u).port =
            (deviceOf backend' l'.host.text l'.givenPort u').port ↔
          u.name = u'.name ∧ (l = l' ∨ l.Mimics l' ∨ l'.Mimics l)) ∧
      (l.host.family = .inet ∨ l'.host.family = .inet ∨ l.port.isSome = l'.port.isSome →
        ¬ l.Mimics l' ∧ ¬ l'.Mimics l) := by
  refine ⟨devices_eq_ok backend _ l.givenPort_isWritable units,
    devices_eq_ok backend' _ l'.givenPort_isWritable units', ?_, ?_⟩
  · intro u hu u' hu'
    rw [l.deviceOf_port, l'.deviceOf_port, at_append_inj (h u hu) (h' u' hu'), Listener.text_eq_iff]
  · have hapart {l l' : Listener}
        (hl : l.host.family = .inet ∨ l'.host.family = .inet ∨ l.port.isSome = l'.port.isSome) :
        ¬ l.Mimics l' := by
      intro hmimics
      obtain ⟨hfamily, hfamily'⟩ := hmimics.families
      obtain ⟨hport, n, hport', -⟩ := hmimics
      rw [hfamily, hfamily', hport, hport'] at hl
      simp at hl
    intro hl
    refine ⟨hapart hl, hapart ?_⟩
    rcases hl with hl | hl | hl
    · exact .inr (.inl hl)
    · exact .inl hl
    · exact .inr (.inr hl.symm)

private def longListener : Listener where
  host := Address.ofNat .inet6 0x00010000000000000000000000020003
  port := none
  legible := Address.isLegible_ofNat _ _
  port_range := nofun

private def shortListener : Listener where
  host := Address.ofNat .inet6 0x00010000000000000000000000000002
  port := some 3
  legible := Address.isLegible_ofNat _ _
  port_range := by simp

theorem devices_port_eq_iff_mimicked :
    (∀ u ∈ [ListedUnit.mk "ups" ""], '@' ∉ u.name.toList) ∧
      longListener.host.text = "1::2:3" ∧ longListener.port = none ∧
      shortListener.host.text = "1::2" ∧ shortListener.port = some 3 ∧
      (deviceOf .avahi longListener.host.text longListener.givenPort ⟨"ups", ""⟩).port =
        (deviceOf .avahi shortListener.host.text shortListener.givenPort ⟨"ups", ""⟩).port := by
  have hname : ∀ u ∈ [ListedUnit.mk "ups" ""], '@' ∉ u.name.toList := by decide
  have hmimics : longListener.Mimics shortListener := ⟨rfl, 3, rfl, by decide⟩
  have hports := (devices_port_eq_iff longListener shortListener .avahi .avahi _ _ hname hname).2.2.1
  refine ⟨hname, by decide, rfl, by decide, rfl, ?_⟩
  exact (hports _ (List.mem_singleton_self _) _ (List.mem_singleton_self _)).2 ⟨rfl, .inr (.inl hmimics)⟩

end Upsd

end PowerDiscovery
