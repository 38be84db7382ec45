import PowerDiscovery.Proofs.Number.Overflow
import PowerDiscovery.Proofs.Settings.Usable

/-! # Settings that a check repairs

A check looks at four settings.  It keeps those that it accepts, puts a default in place of each other one
and warns about it.  Every default is accepted, so a second check finds nothing to repair. -/

namespace PowerDiscovery

namespace Value

/-- Whether a value is a number above zero, or a text that writes one. -/
inductive IsPositive : Value → Prop where
  | truth : IsPositive (.truth true)
  | int (n : Int) (hpos : 0 < n) (hrange : n.natAbs < 2 ^ 1024 - 2 ^ 970) : IsPositive (.int n)
  | real (x : Binary64) (hpos : x.isPositive = true) : IsPositive (.real x)
  | text (s : String) (x : Binary64) (hread : Binary64.read? s = some x) (hpos : x.isPositive = true) :
    IsPositive (.text s)

private theorem isPositiveNumber_iff {v : Value} : v.isPositiveNumber = .ok true ↔ v.IsPositive := by
  constructor
  · intro h
    cases v with
    | truth b =>
      cases h
      exact .truth
    | int n =>
      simp only [isPositiveNumber] at h
      split at h
      · rename_i x hx
        have hrange : ¬ 2 ^ 1024 - 2 ^ 970 ≤ n.natAbs := by
          rw [← Binary64.ofInt?_eq_none_iff, hx]
          exact Option.some_ne_none x
        have hpos := (Binary64.isPositive_of_ofInt? hx).mp (Except.ok.inj h)
        exact .int n hpos (Nat.lt_of_not_le hrange)
      · cases h
    | real x => exact .real x (Except.ok.inj h)
    | text s =>
      obtain ⟨x, hread, hpos⟩ := Option.any_eq_true _ _ |>.mp (Except.ok.inj h)
      exact .text s x hread hpos
    | _ => cases h
  · intro h
    cases h with
    | truth => rfl
    | int n hpos hrange =>
      obtain ⟨x, hx⟩ : ∃ x, Binary64.ofInt? n = some x := by
        rw [← Option.ne_none_iff_exists', ne_eq, Binary64.ofInt?_eq_none_iff]
        exact Nat.not_le_of_lt hrange
      simp only [isPositiveNumber, hx, (Binary64.isPositive_of_ofInt? hx).mpr hpos]
    | real x hpos => exact congrArg Except.ok hpos
    | text s x hread hpos => simp only [isPositiveNumber, hread, Option.any_some, hpos]

private theorem isPositiveWhole_iff {v : Value} :
    v.isPositiveWhole = true ↔ v = .truth true ∨ ∃ n, v = .int n ∧ 1 ≤ n := by
  cases v <;> simp [isPositiveWhole, Int.lt_iff_add_one_le]

private theorem isText_iff {v : Value} {s : String} : v.isText s = true ↔ v = .text s := by
  cases v <;> simp [isText]

private theorem isOneOf_iff {v : Value} {words : List String} :
    v.isOneOf words = true ↔ ∃ s ∈ words, v = .text s := by
  simp only [isOneOf, List.any_eq_true, isText_iff]

end Value

private theorem ModeSetting.mode?_eq_some {h : ModeSetting} {m : DisplayMode} :
    h.mode? = some m ↔ h.toValue = .text m.name := by
  have hsame (m m' : DisplayMode) : m' = m ↔ m'.name = m.name := by
    rw [← DisplayMode.ofName?_eq_some, DisplayMode.ofName?_name, Option.some.injEq]
  cases h with
  | mode m' => simp [mode?, toValue, hsame m m']
  | given v => cases v <;> simp [mode?, toValue, DisplayMode.ofName?_eq_some]

inductive Replaceable where
  | timeout
  | concurrency
  | mode
  | authType

namespace Replaceable

open Settings

def setting : Replaceable → Settings → Value
  | timeout, s => s.timeout
  | concurrency, s => s.maxConcurrency
  | mode, s => s.displayMode.toValue
  | authType, s => s.ipmiAuthType

/-- Puts a value that can be used; the name of a mode makes it the mode. -/
def put : Replaceable → Settings → Value → Settings
  | timeout, s, v => { s with timeout := v }
  | concurrency, s, v => { s with maxConcurrency := v }
  | mode, s, v => { s with displayMode := .mode ((ModeSetting.given v).mode?.getD .sectionsChecked) }
  | authType, s, v => { s with ipmiAuthType := v }

def Accepts : Replaceable → Value → Prop
  | timeout, v => v.IsPositive
  | concurrency, v => v = .truth true ∨ ∃ n, v = .int n ∧ 1 ≤ n
  | mode, v => ∃ m : DisplayMode, v = .text m.name
  | authType, v => ∃ name ∈ authTypes, v = .text name

/-- What takes the place of a value that cannot be used. -/
def fallback : Replaceable → Value
  | timeout => defaultTimeout
  | concurrency => .int Budget.defaultCount
  | mode => .text DisplayMode.sectionsChecked.name
  | authType => .text "MD5"

def warning : Replaceable → String → String
  | timeout, shown => s!"Illegal timeout value {shown}, using default {defaultTimeout.display}s"
  | concurrency, shown => s!"Invalid max concurrency {shown}, using default {Budget.defaultCount}"
  | mode, shown => s!"Unknown display mode {shown}, using ups.conf with sanity check"
  | authType, shown => s!"Unknown IPMI authentication type ({shown}). Defaulting to MD5"

def check : Replaceable → Settings → Except Fault Checked
  | timeout, s => s.checkTimeout
  | concurrency, s => s.checkConcurrency
  | mode, s => s.checkMode
  | authType, s => s.checkAuthType

instance (k : Replaceable) (v : Value) : Decidable (k.Accepts v) :=
  match k with
  | timeout => decidable_of_iff (v.isPositiveNumber = .ok true) Value.isPositiveNumber_iff
  | concurrency => decidable_of_iff (v.isPositiveWhole = true) Value.isPositiveWhole_iff
  | mode => decidable_of_iff ((ModeSetting.given v).mode?.isSome = true) (by
      simp only [Option.isSome_iff_exists, ModeSetting.mode?_eq_some, ModeSetting.toValue, Accepts])
  | authType => decidable_of_iff (v.isOneOf authTypes = true) Value.isOneOf_iff

def kept (k : Replaceable) (v : Value) : Value :=
  if k.Accepts v then v else k.fallback

/-- The warnings about a value: one if it cannot be used. -/
def warnings (k : Replaceable) (v : Value) : List String :=
  if k.Accepts v then [] else [k.warning v.display]

variable {k : Replaceable} {s : Settings} {v : Value}

theorem accepts_fallback (k : Replaceable) : k.Accepts k.fallback := by
  cases k with
  | timeout => exact .int 5 (by decide) (by decide +kernel)
  | concurrency => exact .inr ⟨1024, rfl, by decide⟩
  | mode => exact ⟨.sectionsChecked, rfl⟩
  | authType => exact ⟨"MD5", by decide, rfl⟩

private theorem accepts_kept (k : Replaceable) (v : Value) : k.Accepts (k.kept v) := by
  unfold kept
  split
  · assumption
  · exact k.accepts_fallback

theorem kept_of_accepts (h : k.Accepts v) : k.kept v = v := if_pos h

theorem kept_of_not_accepts (h : ¬ k.Accepts v) : k.kept v = k.fallback := if_neg h

theorem kept_concurrency (v : Value) :
    concurrency.kept v = if v.isPositiveWhole then v else .int Budget.defaultCount :=
  if_congr Value.isPositiveWhole_iff.symm rfl rfl

private theorem put_mode (s : Settings) (m : DisplayMode) :
    mode.put s (.text m.name) = { s with displayMode := .mode m } := by
  cases m <;> rfl

private theorem kept_mode (h : ModeSetting) :
    mode.kept h.toValue = .text (h.mode?.getD .sectionsChecked).name := by
  cases hm : h.mode? with
  | none =>
    rw [kept_of_not_accepts, fallback, Option.getD_none]
    rintro ⟨m, hnamed⟩
    rw [ModeSetting.mode?_eq_some.mpr hnamed] at hm
    cases hm
  | some m =>
    have hnamed := ModeSetting.mode?_eq_some.mp hm
    have haccepts : mode.Accepts h.toValue := ⟨m, hnamed⟩
    rw [kept_of_accepts haccepts, hnamed, Option.getD_some]

private theorem put_kept_mode (s : Settings) : mode.put s (mode.kept (mode.setting s)) =
    { s with displayMode := .mode (s.displayMode.mode?.getD .sectionsChecked) } := by
  rw [setting, kept_mode, put_mode]

end Replaceable

namespace Value

variable {α : Type}

private theorem written_eq_ok {v : Value} {shown : String} (h : v.written = .ok shown) : shown = v.display :=
  (v.written_yields.of_ok h).2

private theorem shown_eq_ok {accepted : Bool} {v : Value} {kept r : α} {replaced : String → α}
    (h : (if accepted then pure kept else do return replaced (← v.written)) = (.ok r : Except Fault α)) :
    r = if accepted then kept else replaced v.display := by
  cases accepted with
  | true => exact (Except.ok.inj h).symm
  | false =>
    obtain ⟨shown, hshown, hr⟩ := bind_eq_ok.mp h
    rw [written_eq_ok hshown] at hr
    exact (Except.ok.inj hr).symm

end Value

namespace Replaceable

open Settings

variable {k : Replaceable} {s : Settings} {checked : Checked}

theorem check_eq_ok (h : k.check s = .ok checked) :
    checked = (k.put s (k.kept (k.setting s)), k.warnings (k.setting s)) := by
  -- A check tests its setting in its own way, so each has to be seen to accept the same values.
  have hchecked : checked = if k.Accepts (k.setting s) then (k.put s (k.setting s), [])
      else (k.put s k.fallback, [k.warning (k.setting s).display]) := by
    cases k with
    | timeout =>
      obtain ⟨usable, husable, h⟩ := bind_eq_ok.mp h
      have haccepts : usable = true ↔ s.timeout.IsPositive := by
        rw [← Value.isPositiveNumber_iff, husable, Except.ok.injEq]
      exact (Value.shown_eq_ok h).trans (if_congr haccepts rfl rfl)
    | concurrency => exact (Value.shown_eq_ok h).trans (if_congr Value.isPositiveWhole_iff rfl rfl)
    | mode =>
      simp only [check, checkMode] at h
      split at h
      · rename_i m hm
        have hmode : mode.setting s = .text m.name := ModeSetting.mode?_eq_some.mp hm
        rw [if_pos ⟨m, hmode⟩, ← Except.ok.inj h, hmode, put_mode]
      · rename_i hnone
        have hrejected : ¬ mode.Accepts (mode.setting s) := by
          rintro ⟨m, hm⟩
          have hfound : s.displayMode.mode? = some m := ModeSetting.mode?_eq_some.mpr hm
          rw [hnone] at hfound
          cases hfound
        obtain ⟨shown, hshown, h⟩ := bind_eq_ok.mp h
        rw [if_neg hrejected, ← Except.ok.inj h, Value.written_eq_ok hshown]
        rfl
    | authType => exact (Value.shown_eq_ok h).trans (if_congr Value.isOneOf_iff rfl rfl)
  rw [hchecked]
  split
  · rename_i haccepts
    rw [kept_of_accepts haccepts, warnings, if_pos haccepts]
  · rename_i hrejected
    rw [kept_of_not_accepts hrejected, warnings, if_neg hrejected]

private theorem check_of_accepts (h : k.Accepts (k.setting s)) (hmode : ∃ m, s.displayMode = .mode m) :
    k.check s = .ok (s, []) := by
  cases k with
  | timeout =>
    have husable : s.timeout.isPositiveNumber = .ok true := Value.isPositiveNumber_iff.mpr h
    simp only [check, checkTimeout, husable]
    rfl
  | concurrency => exact if_pos (Value.isPositiveWhole_iff.mpr h)
  | mode =>
    obtain ⟨m, hm⟩ := hmode
    have hfound : s.displayMode.mode? = some m := by rw [hm, ModeSetting.mode?]
    simp only [check, checkMode, hfound, ← hm]
    rfl
  | authType => exact if_pos (Value.isOneOf_iff.mpr h)

end Replaceable

namespace Settings

variable {s s' : Settings} {warnings : List String}

/-- Settings with a default in the place of each value that cannot be used, and with a mode as such. -/
def repaired (s : Settings) : Settings :=
  { s with
    timeout := Replaceable.timeout.kept s.timeout
    maxConcurrency := Replaceable.concurrency.kept s.maxConcurrency
    displayMode := .mode (s.displayMode.mode?.getD .sectionsChecked)
    ipmiAuthType := Replaceable.authType.kept s.ipmiAuthType }

/-- The warnings about the security settings of version 3 of SNMP. -/
def securityNotes (s : Settings) : List String :=
  if s.snmpSecLevel.isNull then []
  else
    (if s.snmpSecLevel.isOneOf securityLevels then []
      else [s!"Unknown SNMP v3 security level: {s.snmpSecLevel.display}"]) ++
    (if s.snmpSecName.isGiven then [] else ["SNMP v3 security level given without a security name"])

private theorem securityWarnings_eq_ok (h : s.securityWarnings = .ok warnings) : warnings = s.securityNotes := by
  unfold securityWarnings at h
  unfold securityNotes
  split at h
  · rename_i hnull
    rw [if_pos hnull]
    exact (Except.ok.inj h).symm
  · rename_i hset
    rw [if_neg hset]
    dsimp only at h
    split at h
    · rename_i hknown
      rw [if_pos hknown]
      exact (Except.ok.inj h).symm
    · rename_i hunknown
      obtain ⟨shown, hshown, h⟩ := bind_eq_ok.mp h
      rw [if_neg hunknown, ← Value.written_eq_ok hshown]
      exact (Except.ok.inj h).symm

theorem validate_eq_repaired (h : s.validate = .ok (s', warnings)) :
    s' = s.repaired ∧ s.securityWarnings = .ok s.securityNotes ∧
      warnings = Replaceable.timeout.warnings s.timeout ++
        Replaceable.concurrency.warnings s.maxConcurrency ++
        Replaceable.mode.warnings s.displayMode.toValue ++ s.securityNotes ++
        Replaceable.authType.warnings s.ipmiAuthType := by
  obtain ⟨⟨s₁, w₁⟩, h₁, h⟩ := bind_eq_ok.mp h
  obtain ⟨⟨s₂, w₂⟩, h₂, h⟩ := bind_eq_ok.mp h
  obtain ⟨⟨s₃, w₃⟩, h₃, h⟩ := bind_eq_ok.mp h
  obtain ⟨w₄, h₄, h⟩ := bind_eq_ok.mp h
  obtain ⟨⟨s₅, w₅⟩, h₅, h⟩ := bind_eq_ok.mp h
  have htimeout := Replaceable.check_eq_ok (k := .timeout) h₁
  cases htimeout
  have hconcurrency := Replaceable.check_eq_ok (k := .concurrency) h₂
  cases hconcurrency
  have hmode := Replaceable.check_eq_ok (k := .mode) h₃
  rw [Replaceable.put_kept_mode] at hmode
  cases hmode
  -- None of the checks before has touched the security settings.
  have hsecurity : w₄ = s.securityNotes := securityWarnings_eq_ok h₄
  subst hsecurity
  have hauthType := Replaceable.check_eq_ok (k := .authType) h₅
  cases hauthType
  cases h
  exact ⟨rfl, h₄, rfl⟩

/-- A check that finds nothing to repair comes to its end if that of the security settings does. -/
private theorem validate_of_accepts (h : ∀ k : Replaceable, k.Accepts (k.setting s))
    (hmode : ∃ m, s.displayMode = .mode m) (hsecurity : s.securityWarnings = .ok warnings) :
    s.validate = .ok (s, warnings) := by
  have hchecked (k : Replaceable) : k.check s = .ok (s, []) := Replaceable.check_of_accepts (h k) hmode
  have htimeout : s.checkTimeout = .ok (s, []) := hchecked .timeout
  have hconcurrency : s.checkConcurrency = .ok (s, []) := hchecked .concurrency
  have hmode : s.checkMode = .ok (s, []) := hchecked .mode
  have hauthType : s.checkAuthType = .ok (s, []) := hchecked .authType
  apply bind_eq_ok.mpr ⟨_, htimeout, ?_⟩
  apply bind_eq_ok.mpr ⟨_, hconcurrency, ?_⟩
  apply bind_eq_ok.mpr ⟨_, hmode, ?_⟩
  apply bind_eq_ok.mpr ⟨_, hsecurity, ?_⟩
  apply bind_eq_ok.mpr ⟨_, hauthType, ?_⟩
  exact congrArg (fun w => Except.ok (s, w)) (List.append_nil warnings)

private theorem setting_repaired (k : Replaceable) (s : Settings) :
    k.setting s.repaired = k.kept (k.setting s) := by
  cases k with
  | mode => exact (Replaceable.kept_mode s.displayMode).symm
  | timeout | concurrency | authType => rfl

/-- What a check leaves can be used: values that could be used stay, and defaults take the place of the
others.  The mode is held as such afterwards, also if it was given by its name.  There is one warning for each
value that was replaced, in the order of the checks, besides those about the security settings of SNMP; these
are all that a second check says, and it replaces nothing. -/
theorem validate_repairs {s s' : Settings} {warnings : List String} (h : s.validate = .ok (s', warnings)) :
    (∀ k : Replaceable, k.Accepts (k.setting s')) ∧
    (∃ m, s'.displayMode = .mode m) ∧
    (∀ m, s.displayMode = .mode m ∨ s.displayMode = .given (.text m.name) → s'.displayMode = .mode m) ∧
    (∀ k : Replaceable, k.Accepts (k.setting s) → k.setting s' = k.setting s) ∧
    (∀ k : Replaceable, ¬ k.Accepts (k.setting s) → k.setting s' = k.fallback) ∧
    s' = { s with
      timeout := s'.timeout, maxConcurrency := s'.maxConcurrency
      displayMode := s'.displayMode, ipmiAuthType := s'.ipmiAuthType } ∧
    warnings = Replaceable.timeout.warnings s.timeout ++
      Replaceable.concurrency.warnings s.maxConcurrency ++
      Replaceable.mode.warnings s.displayMode.toValue ++ s.securityNotes ++
      Replaceable.authType.warnings s.ipmiAuthType ∧
    s'.validate = .ok (s', s.securityNotes) := by
  obtain ⟨rfl, hsecurity, hwarnings⟩ := validate_eq_repaired h
  have haccepts : ∀ k : Replaceable, k.Accepts (k.setting s.repaired) := by
    intro k
    rw [setting_repaired]
    exact k.accepts_kept _
  refine ⟨haccepts, ⟨_, rfl⟩, ?_, ?_, ?_, rfl, hwarnings, ?_⟩
  · intro m hm
    have hnamed : s.displayMode.mode? = some m := by
      rw [ModeSetting.mode?_eq_some]
      rcases hm with hm | hm <;> rw [hm, ModeSetting.toValue]
    rw [repaired, hnamed, Option.getD_some]
  · intro k hk
    rw [setting_repaired, Replaceable.kept_of_accepts hk]
  · intro k hk
    rw [setting_repaired, Replaceable.kept_of_not_accepts hk]
  · exact validate_of_accepts haccepts ⟨_, rfl⟩ hsecurity

/-- Settings with a timeout that is a text, the truth value for the number of slots, the name of a mode, and
two values that cannot be used. -/
private def mixedUp : Settings :=
  { timeout := .text " 1_0e-1 ", maxConcurrency := .truth true, displayMode := .given (.text "parsable")
    snmpSecLevel := .text "authpriv", ipmiAuthType := .null }

theorem validate_repairs_mixedUp : ∃ s', mixedUp.validate = .ok (s', [
      "Unknown SNMP v3 security level: authpriv", "SNMP v3 security level given without a security name",
      "Unknown IPMI authentication type (None). Defaulting to MD5"]) ∧
    s'.timeout = .text " 1_0e-1 " ∧ s'.displayMode = .mode .lines ∧ s'.ipmiAuthType = .text "MD5" ∧
    s'.validate = .ok (s', ["Unknown SNMP v3 security level: authpriv",
      "SNMP v3 security level given without a security name"]) := by
  obtain ⟨s', hchecked⟩ : ∃ s', mixedUp.validate = .ok (s', [
      "Unknown SNMP v3 security level: authpriv", "SNMP v3 security level given without a security name",
      "Unknown IPMI authentication type (None). Defaulting to MD5"]) := ⟨_, rfl⟩
  obtain ⟨_, _, hmode, hkept, hreplaced, _, _, hagain⟩ := validate_repairs hchecked
  refine ⟨s', hchecked, hkept .timeout ?_, hmode .lines (.inr rfl), hreplaced .authType ?_, hagain⟩
  · exact .text " 1_0e-1 " _ rfl rfl
  · rintro ⟨name, _, ⟨⟩⟩

end Settings

end PowerDiscovery
