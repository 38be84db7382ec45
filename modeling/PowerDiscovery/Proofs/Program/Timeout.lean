import PowerDiscovery.Proofs.Program.Slots
import PowerDiscovery.Proofs.Settings.Repair

/-! # The timeout of a run

Engines are told how long to wait.  A timeout from the command line or from the environment is a number above
zero, and a finite one.  One from the settings file is only known to be accepted by a check, which lets texts
and infinity pass too. -/

namespace PowerDiscovery

namespace Value

/-- Whether a value tells how long to wait; a truth value counts as a number. -/
inductive IsDuration : Value → Prop where
  | truth : IsDuration (.truth true)
  | int (n : Int) (hpos : 0 < n) : IsDuration (.int n)
  | real (x : Binary64) (hfinite : x.isFinite = true) (hpos : x.isPositive = true) : IsDuration (.real x)

/-- The values that a check accepts for a timeout although they do not tell how long to wait. -/
inductive PassesForDuration : Value → Prop where
  | infinite : PassesForDuration (.real (.infinite false))
  | text (s : String) (x : Binary64) (hread : Binary64.read? s = some x) (hpos : x.isPositive = true) :
    PassesForDuration (.text s)

private theorem IsPositive.isDuration_or {v : Value} (h : v.IsPositive) : v.IsDuration ∨ v.PassesForDuration := by
  cases h with
  | truth => exact .inl .truth
  | int n hpos => exact .inl (.int n hpos)
  | text s x hread hpos => exact .inr (.text s x hread hpos)
  | real x hpos =>
    cases x with
    | finite negative significand exponent => exact .inl (.real _ rfl hpos)
    | infinite negative =>
      cases negative with
      | false => exact .inr .infinite
      | true => cases hpos
    | nan => cases hpos

theorem PassesForDuration.isPositive {v : Value} (h : v.PassesForDuration) : v.IsPositive := by
  cases h with
  | infinite => exact .real _ rfl
  | text s x hread hpos => exact .text s x hread hpos

private theorem PassesForDuration.not_isDuration {v : Value} (h : v.PassesForDuration) : ¬ v.IsDuration := by
  intro hduration
  cases h with
  | infinite =>
    cases hduration with
    | real x hfinite hpos => cases hfinite
  | text => cases hduration

end Value

private theorem isDuration_defaultTimeout : Settings.defaultTimeout.IsDuration := .int 5 (by decide)

private theorem readTimeout_cases (v : Value) : (readTimeout v).value = Settings.defaultTimeout ∨
    ∃ x : Binary64, (readTimeout v).value = .real x ∧ x.isFinite = true ∧ x.isPositive = true := by
  unfold readTimeout
  dsimp only
  split
  · rename_i x hx
    have hchecks := (Option.filter_eq_some_iff.mp hx).2
    exact .inr ⟨x, rfl, Bool.and_eq_true_iff.mp hchecks⟩
  · exact .inl rfl

private theorem readTimeout_isDuration (v : Value) : (readTimeout v).value.IsDuration := by
  rcases readTimeout_cases v with h | ⟨x, h, hfinite, hpos⟩
  · rw [h]
    exact isDuration_defaultTimeout
  · rw [h]
    exact .real x hfinite hpos

private theorem readTimeout_isPositive (v : Value) : (readTimeout v).value.IsPositive := by
  rcases readTimeout_cases v with h | ⟨x, h, _, hpos⟩
  · rw [h]
    exact Replaceable.accepts_fallback .timeout
  · rw [h]
    exact .real x hpos

private theorem passesForDuration_of_kept {v : Value} (h : ¬ (Replaceable.timeout.kept v).IsDuration) :
    v.PassesForDuration := by
  by_cases haccepts : Replaceable.timeout.Accepts v
  · rw [Replaceable.kept_of_accepts haccepts] at h
    exact (Value.IsPositive.isDuration_or haccepts).resolve_left h
  · rw [Replaceable.kept_of_not_accepts haccepts] at h
    exact absurd isDuration_defaultTimeout h

namespace Program

open CommandLine

def configuredTimeout (m : Machine) (a : Arguments) : Value := configured m a "timeout" "POWERSCAN_TIMEOUT"

variable {m : Machine} {words : List String} {c : Course} {a : Arguments} {s s' : Settings}

private theorem not_passesForDuration_variable (h : settingsFile? a = none) :
    ¬ (configuredTimeout m a).PassesForDuration := by
  simp only [configuredTimeout, configured, h]
  intro hpasses
  cases hvariable : (Settings.integerVariable m.environment "POWERSCAN_TIMEOUT").value with
  | none =>
    rw [hvariable] at hpasses
    cases hpasses
  | some n =>
    rw [hvariable] at hpasses
    cases hpasses

private theorem baseSettings_timeout (h : (baseSettings m a).value = .ok s) :
    Replaceable.timeout.kept s.timeout = Replaceable.timeout.kept (configuredTimeout m a) := by
  apply baseSettings_configured Settings.timeout Replaceable.timeout.kept _ _ _ h
  · intro e document
    rfl
  · intro e
    rfl
  · intro e
    obtain ⟨confpath, hinitial⟩ := Settings.initial_eq e
    rw [hinitial]
    rfl

private theorem timeout_ofGiven (given : List Given) :
    (Arguments.ofGiven given).timeout = (lastValue? given .timeout).getD .null :=
  Option.some.inj (Arguments.valueOf_ofGiven given .timeout)

private theorem apply_timeout (s : Settings) (a : Arguments) :
    (s.apply a).value.timeout = if a.timeout.isNull then s.timeout else (readTimeout a.timeout).value := by
  obtain ⟨authType, happlied⟩ := Settings.applyAuthType_value s a.authType
  simp only [Settings.apply]
  split <;> simp only [Traced.bind_value, Traced.pure_value]

private theorem settle_timeout (h : (settle m a s).run.value = .ok s') :
    s'.timeout = Replaceable.timeout.kept (s.apply a).value.timeout := by
  obtain ⟨loaded, rfl, hloaded⟩ := settle_keeps Settings.timeout (fun _ _ => rfl) (fun _ _ => rfl) h
  exact congrArg Replaceable.timeout.kept hloaded

theorem Course.Leads.timeout (h : c.Leads m words) :
    (∀ w, lastValue? c.given .timeout = some w → c.plan.settings.timeout = (readTimeout w).value) ∧
    (lastValue? c.given .timeout = none →
      c.plan.settings.timeout = Replaceable.timeout.kept (configuredTimeout m c.arguments)) := by
  obtain ⟨settings, budget, registry, _, hsettings, _, _, hplan, _⟩ := arrange_eq_ok h.arranged
  have hsettled : c.plan.settings.timeout =
      Replaceable.timeout.kept (c.base.apply c.arguments).value.timeout := by
    rw [hplan]
    exact settle_timeout hsettings
  have harguments : c.arguments.timeout = (lastValue? c.given .timeout).getD .null := timeout_ofGiven c.given
  rw [apply_timeout, harguments] at hsettled
  constructor
  · intro w hw
    have hnull := (readOptions_read h.read _ (mem_of_lastValue? hw)).isNull Operand.noConfusion
    rw [hsettled, hw, Option.getD_some, hnull]
    exact Replaceable.kept_of_accepts (readTimeout_isPositive w)
  · intro hnone
    rw [hsettled, hnone, ← baseSettings_timeout h.base]
    rfl

/-- The timeout with which a run waits is the one that is asked for on the command line, or else the one that
is configured.  It tells how long to wait unless the settings file has infinity for it, or a text. -/
theorem timeout_handed (m : Machine) (words : List String) (c : Course) (h : course? m words = some c) :
    let v := c.plan.settings.timeout
    let configured := configuredTimeout m c.arguments
    (∀ installed r, Event.request installed r ∈ (run m words).events → r.timeout = v) ∧
    (∀ w, lastValue? c.given .timeout = some w → v = (readTimeout w).value ∧ v.IsDuration) ∧
    (lastValue? c.given .timeout = none → v = Replaceable.timeout.kept configured) ∧
    (settingsFile? c.arguments = none → v.IsDuration) ∧
    (¬ v.IsDuration ↔ lastValue? c.given .timeout = none ∧ configured.PassesForDuration) := by
  intro v configured
  have hleads := course?_eq_some h
  obtain ⟨hasked, hconfigured⟩ := hleads.timeout
  have hduration : ∀ w, lastValue? c.given .timeout = some w → v.IsDuration := by
    intro w hw
    have hv : v = (readTimeout w).value := hasked w hw
    rw [hv]
    exact readTimeout_isDuration w
  have hexactly : ¬ v.IsDuration ↔ lastValue? c.given .timeout = none ∧ configured.PassesForDuration := by
    constructor
    · intro hv
      have hnone : lastValue? c.given .timeout = none := by
        cases hlast : lastValue? c.given .timeout with
        | none => rfl
        | some w => exact absurd (hduration w hlast) hv
      have hkept : v = Replaceable.timeout.kept configured := hconfigured hnone
      refine ⟨hnone, ?_⟩
      rw [hkept] at hv
      exact passesForDuration_of_kept hv
    · rintro ⟨hnone, hpasses⟩
      have hkept : v = Replaceable.timeout.kept configured := hconfigured hnone
      have haccepts : Replaceable.timeout.Accepts configured := hpasses.isPositive
      rw [hkept, Replaceable.kept_of_accepts haccepts]
      exact hpasses.not_isDuration
  refine ⟨?_, ?_, hconfigured, ?_, hexactly⟩
  · intro installed r hr
    exact (hleads.request_as_planned hr).2.1
  · intro w hw
    exact ⟨hasked w hw, hduration w hw⟩
  · intro hpath
    by_contra hv
    exact not_passesForDuration_variable hpath (hexactly.mp hv).2

/-- A machine where the settings file has infinity for the timeout. -/
private def endless : Machine :=
  { files := fun _ =>
      some (.document (.ok (.mapping [("scan", .mapping [("timeout", .real (.infinite false))])])))
    engines := fun _ => { isAvailable := true, scan := fun _ _ _ _ _ => return none } }

theorem timeout_handed_endless : ∃ installed r,
    Event.request installed r ∈ (run endless ["--config", "/settings", "-I"]).events ∧
      r.timeout = .real (.infinite false) ∧ ¬ r.timeout.IsDuration := by
  obtain ⟨c, hc, hgiven⟩ : ∃ c, course? endless ["--config", "/settings", "-I"] = some c ∧
      c.given = [⟨.config, .text "/settings"⟩, ⟨.ipmiScan, .null⟩] := ⟨_, rfl, rfl⟩
  obtain ⟨installed, r, hr⟩ : ∃ installed r, Event.request installed r ∈
      (run endless ["--config", "/settings", "-I"]).events := ⟨_, _, List.mem_of_getElem? (i := 2) rfl⟩
  obtain ⟨hhanded, _, hconfigured, _, hexactly⟩ := timeout_handed endless _ c hc
  have hnone : lastValue? c.given .timeout = none := by
    rw [hgiven]
    rfl
  have hsaid : configuredTimeout endless c.arguments = .real (.infinite false) := by
    rw [Course.arguments, hgiven]
    rfl
  rw [hsaid, ← hhanded installed r hr] at hconfigured hexactly
  refine ⟨installed, r, hr, ?_, hexactly.mpr ⟨hnone, .infinite⟩⟩
  exact (hconfigured hnone).trans (Replaceable.kept_of_accepts (.real _ rfl))

end Program

end PowerDiscovery
