import PowerDiscovery.Proofs.Program.Arrangement
import PowerDiscovery.Proofs.Run.Aftermath

/-! # The course of the program

The program reads its words, answers those that only ask about itself, puts its settings together and
arranges a run, which it then executes.  All that happens outside of this run is that something is logged. -/

namespace PowerDiscovery

open CommandLine Event

private theorem Action.mem_readAt {α : Type} (threshold : Nat) (x : Action α) {e : Event}
    (h : e ∈ (readAt threshold x).events) : e ∈ x.events :=
  (List.mem_filter.mp h).1

namespace Program

/-- What the program has put together when it begins a run. -/
structure Course where
  given : List Given
  base : Settings
  thresholds : Thresholds
  plan : Run.Plan
  state : Run.State

abbrev Course.arguments (c : Course) : Arguments := .ofGiven c.given

/-- The run that certain options lead to, if there is one. -/
def courseOf? (m : Machine) (given : List Given) : Option Course :=
  let a := Arguments.ofGiven given
  if (information? m.engines.available a).isSome then none
  else do
    let base ← (baseSettings m a).value.toOption
    let thresholds ← (Thresholds.set a.debugLevel base.logLevel).toOption
    let (plan, state) ← (arrange m a base).run.value.toOption
    return ⟨given, base, thresholds, plan, state⟩

/-- The run that the program begins, if it gets so far. -/
def course? (m : Machine) (words : List String) : Option Course := do
  courseOf? m (← (readOptions words).toOption)

structure Course.Leads (c : Course) (m : Machine) (words : List String) : Prop where
  read : readOptions words = .ok c.given
  scans : information? m.engines.available c.arguments = none
  base : (baseSettings m c.arguments).value = .ok c.base
  thresholds : Thresholds.set c.arguments.debugLevel c.base.logLevel = .ok c.thresholds
  arranged : (arrange m c.arguments c.base).run.value = .ok (c.plan, c.state)

variable {m : Machine} {words : List String} {c : Course}

theorem course?_eq_some (h : course? m words = some c) : c.Leads m words := by
  obtain ⟨given, hread, h⟩ := Option.bind_eq_some_iff.mp h
  simp only [courseOf?] at h
  split at h
  · cases h
  rename_i hscans
  obtain ⟨base, hbase, h⟩ := Option.bind_eq_some_iff.mp h
  obtain ⟨thresholds, hthresholds, h⟩ := Option.bind_eq_some_iff.mp h
  obtain ⟨⟨plan, state⟩, harranged, h⟩ := Option.bind_eq_some_iff.mp h
  cases h
  exact ⟨toOption_eq_some.mp hread, Option.not_isSome_iff_eq_none.mp hscans, toOption_eq_some.mp hbase,
    toOption_eq_some.mp hthresholds, toOption_eq_some.mp harranged⟩

theorem Course.Leads.course? (h : c.Leads m words) : course? m words = some c := by
  have hscans : (information? m.engines.available (.ofGiven c.given)).isSome = false := by
    rw [← Course.arguments, h.scans]
    rfl
  apply Option.bind_eq_some_iff.mpr
  refine ⟨c.given, toOption_eq_some.mpr h.read, ?_⟩
  simp only [courseOf?, hscans, Bool.false_eq_true, if_false]
  apply Option.bind_eq_some_iff.mpr
  refine ⟨c.base, toOption_eq_some.mpr h.base, ?_⟩
  apply Option.bind_eq_some_iff.mpr
  refine ⟨c.thresholds, toOption_eq_some.mpr h.thresholds, ?_⟩
  apply Option.bind_eq_some_iff.mpr
  exact ⟨(c.plan, c.state), toOption_eq_some.mpr h.arranged, rfl⟩

/-! ### What the program comes to -/

theorem run_eq (m : Machine) (words : List String) : run m words = match readOptions words with
    | .error e => return .ok (refuse m.engines.available (.badWords e))
    | .ok given => match information? m.engines.available (.ofGiven given) with
      | some text => return .ok { output := text }
      | none => runArguments m (.ofGiven given) := by
  unfold run Arguments.read
  cases readOptions words <;> rfl

theorem run_of_options {given : List Given} (hread : readOptions words = .ok given)
    (hscans : information? m.engines.available (.ofGiven given) = none) :
    run m words = runArguments m (.ofGiven given) := by
  simp only [run_eq, hread, hscans]

theorem scan_value (m : Machine) (a : Arguments) (s : Settings) : (scan m a s).run.value =
    (arrange m a s).run.value >>= fun r => (Run.execute r.1 r.2).value.text := by
  simp only [scan, run_bind_value, Step.lift_value]
  congr 1
  funext r
  cases (Run.execute r.1 r.2).value with
  | mk state text => cases text <;> rfl

theorem readAt_baseSettings (m : Machine) (a : Arguments) (threshold : Nat) :
    (Action.readAt threshold (Action.ofLogged (baseSettings m a))).value = (baseSettings m a).value := rfl

theorem runArguments_value {a : Arguments} {base : Settings} {thresholds : Thresholds}
    (hbase : (baseSettings m a).value = .ok base)
    (hthresholds : Thresholds.set a.debugLevel base.logLevel = .ok thresholds) :
    (runArguments m a).value = ending m.engines.available (scan m a base).run.value := by
  simp only [runArguments, Traced.bind_value, readAt_baseSettings, hbase, hthresholds]
  rfl

theorem runArguments_eq_ok {a : Arguments} {done : Ending} (h : (runArguments m a).value = .ok done) :
    ∃ base thresholds, (baseSettings m a).value = .ok base ∧
      Thresholds.set a.debugLevel base.logLevel = .ok thresholds ∧
      ending m.engines.available (scan m a base).run.value = .ok done := by
  have hread := readAt_baseSettings m a Thresholds.initial.effective
  cases hbase : (baseSettings m a).value with
  | error e =>
    simp only [runArguments, Traced.bind_value, hread, hbase, Traced.pure_value] at h
    cases h
  | ok base =>
    cases hthresholds : Thresholds.set a.debugLevel base.logLevel with
    | error f =>
      simp only [runArguments, Traced.bind_value, hread, hbase, hthresholds, Traced.pure_value] at h
      cases h
    | ok thresholds =>
      rw [runArguments_value hbase hthresholds] at h
      exact ⟨base, thresholds, rfl, hthresholds, h⟩

theorem Course.Leads.run_value (h : c.Leads m words) :
    (run m words).value = ending m.engines.available (Run.execute c.plan c.state).value.text := by
  rw [run_of_options h.read h.scans, runArguments_value h.base h.thresholds, scan_value]
  have harranged := h.arranged
  rw [Course.arguments] at harranged
  rw [harranged]
  rfl

private theorem scan_event {a : Arguments} {s : Settings} {e : Event} (hlog : ∀ entry, e ≠ .log entry)
    (h : e ∈ (scan m a s).run.events) :
    ∃ plan state, (arrange m a s).run.value = .ok (plan, state) ∧ e ∈ (Run.execute plan state).events := by
  simp only [scan, run_bind_events, Step.lift_value, Step.lift_events] at h
  rcases List.mem_append.mp h with h | h
  · obtain ⟨entry, he⟩ := arrange_silent m a s e h
    exact absurd he (hlog entry)
  split at h
  · rename_i made hmade
    refine ⟨made.1, made.2, hmade, ?_⟩
    rcases List.mem_append.mp h with h | h
    · exact h
    · split at h <;> cases h
  · cases h

private theorem runArguments_event {a : Arguments} {e : Event} (hlog : ∀ entry, e ≠ .log entry)
    (h : e ∈ (runArguments m a).events) :
    ∃ base thresholds, (baseSettings m a).value = .ok base ∧
      Thresholds.set a.debugLevel base.logLevel = .ok thresholds ∧ e ∈ (scan m a base).run.events := by
  simp only [runArguments, Traced.bind_events] at h
  rcases List.mem_append.mp h with h | h
  · obtain ⟨entry, he⟩ := Step.silent_ofLogged (baseSettings m a) e (Action.mem_readAt _ _ h)
    exact absurd he (hlog entry)
  split at h
  · cases h
  · rename_i base hbase
    split at h
    · cases h
    · rename_i thresholds hthresholds
      simp only [Traced.bind_events, Traced.pure_events, List.append_nil] at h
      exact ⟨base, thresholds, hbase, hthresholds, Action.mem_readAt _ _ h⟩

private theorem event_in_course {e : Event} (hlog : ∀ entry, e ≠ .log entry) (h : e ∈ (run m words).events) :
    ∃ c, course? m words = some c ∧ e ∈ (Run.execute c.plan c.state).events := by
  cases hread : readOptions words with
  | error e =>
    simp only [run_eq, hread] at h
    cases h
  | ok given =>
    cases hscans : information? m.engines.available (.ofGiven given) with
    | some text =>
      simp only [run_eq, hread, hscans] at h
      cases h
    | none =>
      rw [run_of_options hread hscans] at h
      obtain ⟨base, thresholds, hbase, hthresholds, h⟩ := runArguments_event hlog h
      obtain ⟨plan, state, harranged, h⟩ := scan_event hlog h
      let c : Course := ⟨given, base, thresholds, plan, state⟩
      have hleads : c.Leads m words := ⟨hread, hscans, hbase, hthresholds, harranged⟩
      exact ⟨c, hleads.course?, h⟩

theorem request_in_course {installed : Option Semaphore} {r : Request}
    (h : Event.request installed r ∈ (run m words).events) :
    ∃ c, course? m words = some c ∧ Event.request installed r ∈ (Run.execute c.plan c.state).events :=
  event_in_course nofun h

private theorem filterMap_run_of_none {β : Type} {f : Event → Option β} (hlog : ∀ entry, f (.log entry) = none)
    (h : course? m words = none) : (run m words).events.filterMap f = [] := by
  refine List.filterMap_eq_nil_iff.mpr fun e he => ?_
  by_contra hsome
  have hother : ∀ entry, e ≠ .log entry := by
    rintro entry rfl
    exact hsome (hlog entry)
  obtain ⟨c, hc, -⟩ := event_in_course hother he
  rw [h] at hc
  cases hc

theorem requestsOf_run_of_none (h : course? m words = none) : requestsOf (run m words).events = [] :=
  filterMap_run_of_none (fun _ => rfl) h

theorem semaphoresOf_run_of_none (h : course? m words = none) : semaphoresOf (run m words).events = [] :=
  filterMap_run_of_none (fun _ => rfl) h

end Program

end PowerDiscovery
