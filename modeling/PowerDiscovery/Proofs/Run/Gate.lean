import PowerDiscovery.Proofs.Run.Completion
import PowerDiscovery.Proofs.Run.Dispatch

/-! # The gate during a run

While the workers of a run go on, the gate stays as it is, so every engine is asked under one semaphore;
and it is asked with the timeout and the options of the plan. -/

namespace PowerDiscovery

theorem Event.mem_requestsTo {installed : Option Semaphore} {r : Request} {events : List Event}
    (h : Event.request installed r ∈ events) : r ∈ requestsTo r.backend events := by
  apply List.mem_filter.mpr
  refine ⟨List.mem_filterMap.mpr ⟨_, h, rfl⟩, ?_⟩
  simp

namespace Run

open Event

/-- Whether an event may occur in a run with a certain semaphore at the gate: a request has to be made
under this semaphore, and with the timeout and the options of the plan. -/
def Plan.Allows (plan : Plan) (installed : Option Semaphore) : Event → Prop
  | .request i r =>
    i = installed ∧ r.timeout = plan.settings.timeout ∧
      r.options = plan.settings.optionsFor r.backend
  | _ => True

section

variable {plan : Plan} {installed : Option Semaphore} {events : List Event}

theorem Plan.allows_append {xs ys : List Event} (hx : ∀ e ∈ xs, plan.Allows installed e)
    (hy : ∀ e ∈ ys, plan.Allows installed e) : ∀ e ∈ xs ++ ys, plan.Allows installed e := by
  intro e he
  rcases List.mem_append.mp he with he | he
  · exact hx e he
  · exact hy e he

theorem Plan.allows_of_silent (h : ∀ b, requestsTo b events = []) :
    ∀ e ∈ events, plan.Allows installed e := by
  intro e he
  cases e with
  | request i r =>
    have hr := mem_requestsTo he
    rw [h] at hr
    cases hr
  | log entry => trivial
  | contact c => trivial
  | install own => trivial

end

variable (plan : Plan) (s : State)

private theorem ask_allowed (b : Backend) (asked : Nat) (t : Target) :
    ∀ e ∈ ((workerFor plan s b).ask asked t).events, plan.Allows s.bench.gate.installed e := by
  simp only [Worker.ask, Traced.bind_events]
  apply Plan.allows_append
  · exact Plan.allows_of_silent fun _ => Worker.requestsTo_announce _ _ _
  apply Plan.allows_append
  · intro e he
    rw [List.mem_singleton.mp he]
    exact ⟨rfl, rfl, rfl⟩
  apply Plan.allows_append
  · exact Plan.allows_of_silent fun _ => Action.requestsTo_ofEngine _ _
  · apply Plan.allows_of_silent
    intro x
    split <;> simp

private theorem collect_allowed (b : Backend) (asked : Nat) (sofar : List Device) (targets : List Target) :
    ∀ e ∈ ((workerFor plan s b).collect asked sofar targets).events,
      plan.Allows s.bench.gate.installed e := by
  induction targets generalizing asked sofar with
  | nil =>
    intro e he
    cases he
  | cons t ts ih =>
    simp only [Worker.collect, Traced.bind_events]
    exact Plan.allows_append (ask_allowed plan s b asked t) (ih _ _)

private theorem run_allowed (b : Backend) (ranges : List AddressRange) :
    ∀ e ∈ ((workerFor plan s b).run ranges).events, plan.Allows s.bench.gate.installed e := by
  simp only [Worker.run, Traced.bind_events, Traced.pure_events, List.append_nil]
  apply Plan.allows_append
  · exact collect_allowed plan s b 0 [] _
  · exact Plan.allows_of_silent fun _ => Worker.requestsTo_conclude _ _ _ _

private theorem runWorkers_allowed (started : List Backend) :
    ∀ e ∈ (runWorkers plan s started).events, plan.Allows s.bench.gate.installed e := by
  induction started generalizing s with
  | nil =>
    intro e he
    cases he
  | cons b bs ih =>
    simp only [runWorkers, Traced.bind_events]
    apply Plan.allows_append (run_allowed plan s b _)
    cases plan.hazards.store b with
    | none => exact ih { s with slots := _ }
    | some f =>
      simp only [Traced.bind_events, Traced.pure_events, List.append_nil]
      exact ih s

theorem Crew.Step.allowed {c : Crew} {b : Backend} {a : Action Crew} (h : Step plan s c b a) :
    ∀ e ∈ a.events, plan.Allows s.bench.gate.installed e := by
  cases h with
  | ask asked sofar t ahead h => exact ask_allowed plan s b asked t
  | store asked sofar h hs => exact Plan.allows_of_silent fun _ => Worker.requestsTo_conclude _ _ _ _
  | fail asked sofar f h hs => exact Plan.allows_of_silent fun _ => Worker.requestsTo_conclude _ _ _ _
  | rest h =>
    intro e he
    cases he

private theorem Crew.follow_allowed (c : Crew) (turns : List Backend) :
    ∀ e ∈ (c.follow plan s turns).events, plan.Allows s.bench.gate.installed e := by
  induction turns generalizing c with
  | nil =>
    intro e he
    cases he
  | cons b bs ih =>
    simp only [Crew.follow, Traced.bind_events]
    exact Plan.allows_append (Crew.step_spec plan s c b).allowed (ih _)

private theorem awaitCompletion_allowed (started : List Backend) :
    ∀ e ∈ (awaitCompletion plan s started).events, plan.Allows s.bench.gate.installed e := by
  simp only [awaitCompletion, Traced.bind_events]
  apply Plan.allows_append
  · unfold runStarted
    split
    · simp only [runTogether, Traced.bind_events, Traced.pure_events, List.append_nil]
      exact Plan.allows_append (Crew.follow_allowed plan s _ _) (Crew.follow_allowed plan s _ _)
    · exact runWorkers_allowed plan s started
  · exact Plan.allows_of_silent fun _ => requestsTo_abandonAll _ _ _

theorem dispatch_state (bs : List Backend) :
    ∃ slots unavailable, (dispatch plan s bs).value.state =
      { s with slots := slots, unavailable := unavailable } := by
  induction bs generalizing s with
  | nil => exact ⟨s.slots, s.unavailable, rfl⟩
  | cons b bs ih =>
    simp only [dispatch, Traced.bind_value]
    split
    · exact ih (s.disable b)
    · exact ih _
    · split
      · exact ih _
      · exact ⟨_, s.unavailable, rfl⟩

theorem work_allowed : ∀ e ∈ (work plan s).events, plan.Allows s.bench.gate.installed e := by
  let s' := (s.enter .dispatching).value
  obtain ⟨slots, unavailable, hstate⟩ := dispatch_state plan s' s'.enabled
  simp only [work, Traced.bind_events]
  apply Plan.allows_append
  · exact Plan.allows_of_silent fun _ => rfl
  apply Plan.allows_append
  · exact Plan.allows_of_silent fun _ => requestsTo_dispatch _ _ _ _
  split
  · intro e he
    cases he
  · simp only [Traced.bind_events, Traced.pure_events, List.append_nil]
    apply Plan.allows_append
    · exact Plan.allows_of_silent fun _ => rfl
    · have hawait := awaitCompletion_allowed plan
        ((dispatch plan s' s'.enabled).value.state.enter .awaitingCompletion).value
        (dispatch plan s' s'.enabled).value.started
      have hgate : ((dispatch plan s' s'.enabled).value.state.enter .awaitingCompletion).value.bench =
          s.bench := by
        rw [hstate]
        rfl
      rw [hgate] at hawait
      exact hawait

end Run

end PowerDiscovery
