import PowerDiscovery.Proofs.Settings.Repair

/-! # Settings that can be checked

A check replaces the values that it rejects, and warns about each.  It comes to its end unless the timeout is
too large a number to be judged or a rejected value holds a number that has too many digits to be shown. -/

namespace PowerDiscovery

namespace Value

/-- Whether a value is a whole number beyond the range of floating point numbers. -/
def IsBeyondRange (v : Value) : Prop :=
  ∃ n, v = .int n ∧ 2 ^ 1024 - 2 ^ 970 ≤ n.natAbs

private theorem isPositiveNumber_eq_error {v : Value} (h : v.IsBeyondRange) :
    v.isPositiveNumber = .error .tooLargeForReal := by
  obtain ⟨n, rfl, hn⟩ := h
  simp only [isPositiveNumber, Binary64.ofInt?_eq_none_iff n |>.mpr hn]

private theorem isPositiveNumber_eq_ok {v : Value} (h : ¬ v.IsBeyondRange) :
    ∃ b, v.isPositiveNumber = .ok b := by
  cases v with
  | int n =>
    have hn : Binary64.ofInt? n ≠ none := by
      intro hnone
      exact h ⟨n, rfl, (Binary64.ofInt?_eq_none_iff n).mp hnone⟩
    obtain ⟨x, hx⟩ := Option.ne_none_iff_exists'.mp hn
    exact ⟨x.isPositive, by simp only [isPositiveNumber, hx]⟩
  | _ => exact ⟨_, rfl⟩

private theorem written_requires (v : Value) : Requires v.written (v.isWritable = true) .unwritable := by
  unfold written
  split
  · rename_i hwritable
    exact .of_ok rfl hwritable
  · rename_i hunwritable
    exact ⟨fun h => absurd h hunwritable, fun _ => rfl⟩

private theorem shown_requires {α : Type} (accepted : Bool) (v : Value) (kept : α) (replaced : String → α) :
    Requires (if accepted then pure kept else do return replaced (← v.written))
      (accepted = false → v.isWritable = true) .unwritable := by
  cases accepted with
  | true => exact .of_ok rfl nofun
  | false => exact (v.written_requires.map replaced).congr ⟨fun h _ => h, fun h => h rfl⟩

end Value

namespace Settings

variable (s : Settings)

/-- The values that a check of settings rejects and shows. -/
inductive Rejects : Value → Prop where
  | timeout (h : s.timeout.isPositiveNumber = .ok false) : Rejects s.timeout
  | concurrency (h : s.maxConcurrency.isPositiveWhole = false) : Rejects s.maxConcurrency
  | mode (h : s.displayMode.mode? = none) : Rejects s.displayMode.toValue
  | secLevel (hset : s.snmpSecLevel.isNull = false) (h : s.snmpSecLevel.isOneOf securityLevels = false) :
    Rejects s.snmpSecLevel
  | authType (h : s.ipmiAuthType.isOneOf authTypes = false) : Rejects s.ipmiAuthType

private theorem checkTimeout_requires (h : ¬ s.timeout.IsBeyondRange) : Requires s.checkTimeout
    (s.timeout.isPositiveNumber = .ok false → s.timeout.isWritable = true) .unwritable := by
  obtain ⟨usable, husable⟩ := Value.isPositiveNumber_eq_ok h
  simp only [checkTimeout, husable, Except.ok.injEq]
  exact s.timeout.shown_requires usable _ _

private theorem checkConcurrency_requires : Requires s.checkConcurrency
    (s.maxConcurrency.isPositiveWhole = false → s.maxConcurrency.isWritable = true) .unwritable :=
  s.maxConcurrency.shown_requires _ _ _

private theorem checkMode_requires : Requires s.checkMode
    (s.displayMode.mode? = none → s.displayMode.toValue.isWritable = true) .unwritable := by
  unfold checkMode
  cases s.displayMode.mode? with
  | some mode => exact .of_ok rfl nofun
  | none => exact (s.displayMode.toValue.written_requires.map _).congr ⟨fun h _ => h, fun h => h rfl⟩

private theorem securityWarnings_requires : Requires s.securityWarnings
    (s.snmpSecLevel.isNull = false → s.snmpSecLevel.isOneOf securityLevels = false →
      s.snmpSecLevel.isWritable = true) .unwritable := by
  unfold securityWarnings
  cases s.snmpSecLevel.isNull with
  | true => exact .of_ok rfl nofun
  | false =>
    cases s.snmpSecLevel.isOneOf securityLevels with
    | true => exact .of_ok rfl nofun
    | false => exact (s.snmpSecLevel.written_requires.map _).congr ⟨fun h _ _ => h, fun h => h rfl rfl⟩

private theorem checkAuthType_requires : Requires s.checkAuthType
    (s.ipmiAuthType.isOneOf authTypes = false → s.ipmiAuthType.isWritable = true) .unwritable :=
  s.ipmiAuthType.shown_requires _ _ _

private theorem forall_rejects_iff : (∀ v, s.Rejects v → v.isWritable = true) ↔
    (s.timeout.isPositiveNumber = .ok false → s.timeout.isWritable = true) ∧
    (s.maxConcurrency.isPositiveWhole = false → s.maxConcurrency.isWritable = true) ∧
    (s.displayMode.mode? = none → s.displayMode.toValue.isWritable = true) ∧
    (s.snmpSecLevel.isNull = false → s.snmpSecLevel.isOneOf securityLevels = false →
      s.snmpSecLevel.isWritable = true) ∧
    (s.ipmiAuthType.isOneOf authTypes = false → s.ipmiAuthType.isWritable = true) := by
  constructor
  · intro h
    exact ⟨fun hr => h _ (.timeout hr), fun hr => h _ (.concurrency hr), fun hr => h _ (.mode hr),
      fun hset hr => h _ (.secLevel hset hr), fun hr => h _ (.authType hr)⟩
  · rintro ⟨htimeout, hconcurrency, hmode, hlevel, hauthType⟩ v hv
    cases hv with
    | timeout hr => exact htimeout hr
    | concurrency hr => exact hconcurrency hr
    | mode hr => exact hmode hr
    | secLevel hset hr => exact hlevel hset hr
    | authType hr => exact hauthType hr

private theorem validate_requires (h : ¬ s.timeout.IsBeyondRange) :
    Requires s.validate (∀ v, s.Rejects v → v.isWritable = true) .unwritable := by
  -- Each check leaves the settings that the later ones look at as they were.
  refine .congr (.bind (s.checkTimeout_requires h) ?_) s.forall_rejects_iff.symm
  rintro ⟨s₁, w₁⟩ h₁
  cases Replaceable.check_eq_ok (k := .timeout) h₁
  refine .bind (checkConcurrency_requires _) ?_
  rintro ⟨s₂, w₂⟩ h₂
  cases Replaceable.check_eq_ok (k := .concurrency) h₂
  refine .bind (checkMode_requires _) ?_
  rintro ⟨s₃, w₃⟩ h₃
  cases Replaceable.check_eq_ok (k := .mode) h₃
  refine .bind (securityWarnings_requires _) ?_
  intro w₄ _
  exact (checkAuthType_requires _).map _

/-- A check of settings comes to its end, with warnings, exactly if the timeout is no number beyond the range
of floating point numbers and every value that it rejects can be shown. -/
theorem validate_ends_iff :
    ((∃ s' warnings, s.validate = .ok (s', warnings)) ↔
      ¬ s.timeout.IsBeyondRange ∧ ∀ v, s.Rejects v → v.isWritable = true) ∧
    (s.timeout.IsBeyondRange → s.validate = .error .tooLargeForReal) ∧
    (¬ s.timeout.IsBeyondRange → ∀ v, s.Rejects v → v.isWritable = false →
      s.validate = .error .unwritable) := by
  have hbeyond : s.timeout.IsBeyondRange → s.validate = .error .tooLargeForReal := by
    intro h
    simp only [validate, checkTimeout, Value.isPositiveNumber_eq_error h]
    rfl
  refine ⟨⟨?_, ?_⟩, hbeyond, ?_⟩
  · rintro ⟨s', warnings, hchecked⟩
    have hwithin : ¬ s.timeout.IsBeyondRange := by
      intro h
      rw [hbeyond h] at hchecked
      cases hchecked
    by_cases hshown : ∀ v, s.Rejects v → v.isWritable = true
    · exact ⟨hwithin, hshown⟩
    · rw [(s.validate_requires hwithin).error hshown] at hchecked
      cases hchecked
  · rintro ⟨hwithin, hshown⟩
    obtain ⟨⟨s', warnings⟩, hchecked⟩ := (s.validate_requires hwithin).ok hshown
    exact ⟨s', warnings, hchecked⟩
  · intro hwithin v hv hunwritable
    apply (s.validate_requires hwithin).error
    intro hshown
    rw [hshown v hv] at hunwritable
    cases hunwritable

/-- A timeout of 401 digits cannot be judged, and a negative number of slots with 4301 digits cannot be
shown. -/
theorem validate_ends_iff_hugeNumbers :
    ({ timeout := .int (Nat.pow 10 400) } : Settings).validate = .error .tooLargeForReal ∧
    ({ maxConcurrency := .int (Int.negSucc (Nat.pow 10 4300)) } : Settings).validate = .error .unwritable := by
  constructor
  · apply (validate_ends_iff _).2.1
    exact ⟨Nat.pow 10 400, rfl, by decide +kernel⟩
  · apply (validate_ends_iff _).2.2 _ _ (.concurrency rfl)
    · decide +kernel
    · rintro ⟨n, ⟨⟩, hn⟩
      revert hn
      decide +kernel

end Settings

end PowerDiscovery
