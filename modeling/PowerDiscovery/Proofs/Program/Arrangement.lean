import PowerDiscovery.Program
import PowerDiscovery.Proofs.Budget.Granted
import PowerDiscovery.Proofs.Run.Requests
import PowerDiscovery.Proofs.Settings.Stages

/-! # The arrangement of a run

Before the program begins a run it checks that the libraries are there, settles the settings, makes the
budget and records the ranges.  No engine is asked meanwhile, and each part may end the program. -/

namespace PowerDiscovery.Program

open CommandLine Event

namespace Step

variable {α β : Type}

@[simp] theorem ofLogged_value (x : Logged α) : (ofLogged x).run.value = .ok x.value := rfl

@[simp] theorem lift_value (x : Action α) : (ExceptT.lift x : Step α).run.value = .ok x.value := rfl

@[simp] theorem lift_events (x : Action α) : (ExceptT.lift x : Step α).run.events = x.events := rfl

@[simp] theorem ofUsage_value (x : Except UsageError α) :
    (ofUsage x).run.value = x.mapError Run.Error.usage := by
  cases x <;> rfl

@[simp] theorem ofFault_value (x : Except Fault α) :
    (ofFault x).run.value = x.mapError Run.Error.fault := by
  cases x <;> rfl

@[simp] theorem forM_value (f : α → Action Unit) (xs : List α) :
    (xs.forM fun x => (liftM (f x) : Step Unit)).run.value = .ok () := by
  induction xs with
  | nil => rfl
  | cons x xs ih => exact (run_bind_value _ _).trans ih

/-- Whether all that happens in a part of the program is that it logs something. -/
def IsSilent (x : Step α) : Prop := ∀ e ∈ x.run.events, ∃ entry, e = .log entry

private theorem silent_of_no_events {x : Step α} (h : x.run.events = []) : x.IsSilent := by
  intro e he
  rw [h] at he
  cases he

theorem silent_ofLogged (x : Logged α) : (ofLogged x).IsSilent := by
  intro e he
  have hlogged : e ∈ x.events.map Event.log := by
    have hevents : (ofLogged x).run.events = x.events.map Event.log := rfl
    rwa [hevents] at he
  obtain ⟨entry, -, rfl⟩ := List.mem_map.mp hlogged
  exact ⟨entry, rfl⟩

private theorem silent_warning (text : String) : (liftM (Action.warning text) : Step Unit).IsSilent := by
  intro e he
  exact ⟨_, List.mem_singleton.mp he⟩

theorem IsSilent.requestsOf {x : Step α} (hx : x.IsSilent) : requestsOf x.run.events = [] := by
  refine List.filterMap_eq_nil_iff.mpr fun e he => ?_
  obtain ⟨entry, rfl⟩ := hx e he
  rfl

theorem IsSilent.bind {x : Step α} {f : α → Step β} (hx : x.IsSilent) (hf : ∀ a, (f a).IsSilent) :
    (x >>= f).IsSilent := by
  intro e he
  rw [run_bind_events] at he
  rcases List.mem_append.mp he with he | he
  · exact hx e he
  · split at he
    · rename_i a _
      exact hf a e he
    · cases he

/-- Whether a part of the program only logs something and is never refused; it may still fail. -/
structure IsInternal (x : Step α) : Prop where
  silent : x.IsSilent
  unrefused : ∀ u, x.run.value ≠ .error (.usage u)

theorem IsInternal.bind {x : Step α} {f : α → Step β} (hx : x.IsInternal) (hf : ∀ a, (f a).IsInternal) :
    (x >>= f).IsInternal := by
  refine ⟨hx.silent.bind fun a => (hf a).silent, ?_⟩
  intro u h
  rw [run_bind_value] at h
  rcases bind_eq_error.mp h with h | ⟨a, ha, h⟩
  · exact hx.unrefused u h
  · exact (hf a).unrefused u h

private theorem internal_of_ok {x : Step α} {a : α} (hsilent : x.IsSilent) (h : x.run.value = .ok a) :
    x.IsInternal := by
  refine ⟨hsilent, ?_⟩
  intro u hu
  rw [h] at hu
  cases hu

private theorem pure_internal (a : α) : (pure a : Step α).IsInternal :=
  internal_of_ok (silent_of_no_events rfl) rfl

private theorem ofLogged_internal (x : Logged α) : (ofLogged x).IsInternal :=
  internal_of_ok (silent_ofLogged x) rfl

private theorem ofFault_internal (x : Except Fault α) : (ofFault x).IsInternal := by
  constructor
  · apply silent_of_no_events
    cases x <;> rfl
  · intro u h
    cases x <;> cases h

private theorem forM_internal {f : α → Action Unit} (hf : ∀ x, (liftM (f x) : Step Unit).IsSilent) (xs : List α) :
    (xs.forM fun x => (liftM (f x) : Step Unit)).IsInternal := by
  induction xs with
  | nil => exact pure_internal ()
  | cons x xs ih =>
    apply IsInternal.bind
    · exact internal_of_ok (hf x) rfl
    · intro _
      exact ih

end Step

variable {m : Machine} {a : Arguments} {s s' : Settings}

private theorem settle_internal (m : Machine) (a : Arguments) (s : Settings) : (settle m a s).IsInternal := by
  apply Step.IsInternal.bind (Step.ofLogged_internal _)
  intro s
  apply Step.IsInternal.bind (Step.ofLogged_internal _)
  intro loaded
  apply Step.IsInternal.bind (Step.ofFault_internal _)
  intro _
  apply Step.IsInternal.bind (Step.ofFault_internal _)
  rintro ⟨s, warnings⟩
  apply Step.IsInternal.bind (Step.forM_internal (fun _ => Step.silent_warning _) warnings)
  intro _
  exact Step.pure_internal s

private theorem budget_internal (m : Machine) (a : Arguments) (s : Settings) : (budget m a s).IsInternal := by
  apply Step.IsInternal.bind (Step.ofLogged_internal _)
  intro limit
  apply Step.IsInternal.bind (Step.ofFault_internal _)
  intro limit
  apply Step.IsInternal.bind (Step.ofLogged_internal _)
  intro made
  apply Step.IsInternal.bind (Step.ofFault_internal _)
  intro made
  split
  · exact Step.pure_internal made
  · apply Step.IsInternal.bind (Step.ofLogged_internal _)
    intro overridden
    exact Step.ofFault_internal _

private theorem registry_silent (m : Machine) (a : Arguments) : (registry m a).IsSilent := by
  apply Step.IsSilent.bind (Step.silent_ofLogged _)
  intro recorded
  apply Step.silent_of_no_events
  split <;> rfl

theorem arrange_silent (m : Machine) (a : Arguments) (s : Settings) : (arrange m a s).IsSilent := by
  apply Step.IsSilent.bind
  · apply Step.silent_of_no_events
    cases a.checkAvailable m.engines.available <;> rfl
  intro _
  apply Step.IsSilent.bind (settle_internal m a s).silent
  intro s
  apply Step.IsSilent.bind (budget_internal m a s).silent
  intro budget
  apply Step.IsSilent.bind (registry_silent m a)
  intro registry
  exact Step.silent_of_no_events rfl

theorem baseSettings_eq_ok (h : (baseSettings m a).value = .ok s) :
    settingsFile? a = none ∧ (Settings.ofEnvironment m.environment).value = s ∨
      ∃ path, settingsFile? a = some path ∧
        (Settings.ofFile m.environment m.files path).value = .ok s := by
  unfold baseSettings at h
  cases hfile : settingsFile? a with
  | none =>
    rw [hfile] at h
    exact .inl ⟨rfl, Except.ok.inj h⟩
  | some path =>
    rw [hfile] at h
    exact .inr ⟨path, rfl, mapError_eq_ok.mp h⟩

theorem settle_eq_ok (h : (settle m a s).run.value = .ok s') :
    ∃ done warnings, ((s.apply a).value.loadCredentials m.files).value.outcome = .ok done ∧
      ((s.apply a).value.loadCredentials m.files).value.settings.validate = .ok (s', warnings) := by
  simp only [settle, run_bind_value, Step.ofLogged_value, Step.ofFault_value, Step.forM_value,
    bind_eq_ok, mapError_eq_ok, Except.ok.injEq] at h
  obtain ⟨_, rfl, _, rfl, done, hdone, ⟨checked, warnings⟩, hchecked, _, _, hs'⟩ := h
  cases hs'
  exact ⟨done, warnings, hdone, hchecked⟩

/-- The number of slots that the arguments ask for, or else the settings. -/
def askedSlots (a : Arguments) (s : Settings) : Count :=
  if a.thread.isNull then s.slots
  else match Budget.requestedCount? a.thread.display with
    | none => s.slots
    | some n => .number n

theorem budget_eq_ok {b : Budget} (h : (budget m a s).run.value = .ok b) :
    ∃ limit, m.fileLimit.read.value = .ok limit ∧
      b = { value := (askedSlots a s).clamp limit, fdLimit := limit } := by
  simp only [budget, run_bind_value, Step.ofLogged_value, Step.ofFault_value, bind_eq_ok,
    mapError_eq_ok, Except.ok.injEq] at h
  obtain ⟨_, rfl, limit, hlimit, _, rfl, made, hmade, hb⟩ := h
  refine ⟨limit, hlimit, ?_⟩
  -- The budget is made for the settings first; a request that is granted is cut down by the same limit.
  have hvalue := Budget.make_eq_ok hmade
  subst hvalue
  unfold askedSlots
  split at hb
  · rename_i hnull
    rw [if_pos hnull]
    exact (Except.ok.inj hb).symm
  · rename_i hgiven
    rw [if_neg hgiven]
    simp only [run_bind_value, Step.ofLogged_value, Step.ofFault_value, bind_eq_ok,
      mapError_eq_ok, Except.ok.injEq] at hb
    obtain ⟨_, rfl, hoverride⟩ := hb
    rw [Budget.override_eq_ok hoverride]
    cases Budget.requestedCount? a.thread.display <;> rfl

theorem registry_value (m : Machine) (a : Arguments) : (registry m a).run.value =
    match (Registry.ofArguments m.interfaces a.ranges).value with
    | .ok r => .ok r
    | .error (.rejected r) => .error (.usage (.badRange r))
    | .error .wordless => .error (.fault (.notLookedUp (Value.list []).kindName)) := by
  simp only [registry, run_bind_value, Step.ofLogged_value]
  cases (Registry.ofArguments m.interfaces a.ranges).value with
  | ok r => rfl
  | error failure => cases failure <;> rfl

theorem checkAvailable_eq_ok_iff {available : Backend → Bool} :
    a.checkAvailable available = .ok () ↔
      ¬(available .snmp = false ∧ (a.snmpValues.any fun v => !v.isNull) = true) ∧
      ¬(available .ipmi = false ∧ (a.ipmiValues.any fun v => !v.isNull) = true) ∧
      ∀ b ∈ a.requested, available b = true := by
  unfold Arguments.checkAvailable
  split
  · rename_i hsnmp
    rw [Bool.and_eq_true, Bool.not_eq_true'] at hsnmp
    exact iff_of_false nofun fun h => h.1 hsnmp
  rename_i hsnmp
  rw [Bool.and_eq_true, Bool.not_eq_true'] at hsnmp
  split
  · rename_i hipmi
    rw [Bool.and_eq_true, Bool.not_eq_true'] at hipmi
    exact iff_of_false nofun fun h => h.2.1 hipmi
  rename_i hipmi
  rw [Bool.and_eq_true, Bool.not_eq_true'] at hipmi
  split
  · rename_i b hfind
    have hmissing := List.find?_some hfind
    refine iff_of_false nofun fun h => ?_
    rw [h.2.2 b (List.mem_of_find?_eq_some hfind)] at hmissing
    cases hmissing
  · rename_i hfind
    refine iff_of_true rfl ⟨hsnmp, hipmi, ?_⟩
    intro b hb
    have hthere := List.find?_eq_none.mp hfind b hb
    rw [Bool.not_eq_true, Bool.not_eq_false'] at hthere
    exact hthere

theorem arrange_eq_ok {plan : Run.Plan} {state : Run.State}
    (h : (arrange m a s).run.value = .ok (plan, state)) :
    ∃ settings budget registry, a.checkAvailable m.engines.available = .ok () ∧
      (settle m a s).run.value = .ok settings ∧
      (Program.budget m a settings).run.value = .ok budget ∧
      (Program.registry m a).run.value = .ok registry ∧
      plan = { settings := settings, requested := a.requested, scanAll := a.completeScan
               engines := m.engines } ∧
      state = { registry := registry, bench := { budget := budget, gate := {} } } := by
  simp only [arrange, run_bind_value, Step.ofUsage_value, bind_eq_ok, mapError_eq_ok] at h
  obtain ⟨_, havailable, settings, hsettings, budget, hbudget, registry, hregistry, hmade⟩ := h
  cases hmade
  exact ⟨settings, budget, registry, havailable, hsettings, hbudget, hregistry, rfl, rfl⟩

theorem arrange_eq_usage {u : UsageError} (h : (arrange m a s).run.value = .error (.usage u)) :
    a.checkAvailable m.engines.available = .error u ∨
      a.checkAvailable m.engines.available = .ok () ∧
        ∃ r, (Registry.ofArguments m.interfaces a.ranges).value = .error (.rejected r) := by
  simp only [arrange, run_bind_value, Step.ofUsage_value] at h
  rcases bind_eq_error.mp h with h | ⟨_, hcheck, h⟩
  · obtain ⟨u', hu', hu⟩ := mapError_eq_error.mp h
    cases hu
    exact .inl hu'
  refine .inr ⟨mapError_eq_ok.mp hcheck, ?_⟩
  -- Settings and budgets may fail, but they are never refused: only the ranges are left.
  rcases bind_eq_error.mp h with h | ⟨s', hs', h⟩
  · exact absurd h ((settle_internal m a s).unrefused u)
  rcases bind_eq_error.mp h with h | ⟨b, hb, h⟩
  · exact absurd h ((budget_internal m a s').unrefused u)
  rcases bind_eq_error.mp h with h | ⟨r, hr, h⟩
  · rw [registry_value] at h
    split at h
    · cases h
    · rename_i r hrejected
      exact ⟨r, hrejected⟩
    · cases h
  · cases h

end PowerDiscovery.Program
