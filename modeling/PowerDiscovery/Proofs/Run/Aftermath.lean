import PowerDiscovery.Proofs.Run.Calls
import PowerDiscovery.Proofs.Run.Gate

/-! # What a run leaves behind

A run that comes to its end leaves empty slots, no ranges, a closed budget and an open gate, and exactly
the claims that there were before it.  A run that ends early has closed its budget as well. -/

namespace PowerDiscovery

namespace Run

open Event

variable (plan : Plan) (s : State)

private theorem configure_eq_ok {s' : State} (h : (configure plan s).value = .ok s') :
    ∃ unavailable enabled, enabled.Nodup ∧
      s' = { s with unavailable := unavailable, enabled := enabled } := by
  simp only [configure, Traced.bind_value] at h
  split at h
  · cases h
  · rename_i taking htaking
    simp only [Action.ofLogged, Traced.mapEvents, enable] at htaking
    split at htaking
    · cases htaking
    cases htaking
    obtain ⟨hothers, unavailable, hstate⟩ := leaveOut_value s
      (Backend.all.filter (takesPart plan.requested plan.scanAll plan.engines.available))
    simp only [Traced.bind_value, Traced.pure_value, hstate, hothers] at h
    cases h
    exact ⟨unavailable, _, (Backend.nodup_all.filter _).filter _, rfl⟩

private theorem configure_eq_error {e : CommandLine.UsageError} (h : (configure plan s).value = .error e) :
    ∃ b ∈ plan.requested, plan.engines.available b = false := by
  simp only [configure, Traced.bind_value] at h
  split at h
  · rename_i e' hrefused
    simp only [Action.ofLogged, Traced.mapEvents, enable] at hrefused
    split at hrefused
    · rename_i b hfind
      have hmissing := List.find?_some hfind
      rw [Bool.and_eq_true, List.contains_iff_mem, Bool.not_eq_true'] at hmissing
      exact ⟨b, hmissing⟩
    · cases hrefused
  · simp only [Traced.bind_value, Traced.pure_value] at h
    cases h

/-- A run is refused if a library is missing or its budget cannot be opened, and then no budget is open
that was not; any other run goes on under its own semaphore. -/
theorem prepare_cases :
    (∃ s' e, (prepare plan s).value = (s', some e) ∧ s'.bench = s.bench ∧
      ((∃ b ∈ plan.requested, plan.engines.available b = false) ∨
        ∃ cause, s.bench.openUp.value = .error cause)) ∨
    ∃ unavailable enabled, enabled.Nodup ∧ s.bench.openUp.value = .ok s.bench.opened ∧
      (prepare plan s).value =
        ({ s with unavailable := unavailable, enabled := enabled, bench := s.bench.opened }, none) := by
  cases hconfigure : (configure plan s).value with
  | error e =>
    left
    refine ⟨s, .usage e, ?_, rfl, .inl (configure_eq_error plan s hconfigure)⟩
    simp only [prepare, Traced.bind_value, hconfigure, Traced.pure_value]
  | ok s' =>
    obtain ⟨unavailable, enabled, hnodup, rfl⟩ := configure_eq_ok plan s hconfigure
    cases hvalue : s.bench.openUp.value with
    | error e =>
      left
      refine ⟨{ s with unavailable := unavailable, enabled := enabled }, .budget e, ?_, rfl,
        .inr ⟨e, rfl⟩⟩
      simp only [prepare, Traced.bind_value, hconfigure, State.openBudget_value, hvalue, Except.map,
        Traced.pure_value]
    | ok bench =>
      have hbench := Budget.AtGate.openUp_eq_ok hvalue
      subst hbench
      right
      refine ⟨unavailable, enabled, hnodup, rfl, ?_⟩
      simp only [prepare, Traced.bind_value, hconfigure, State.openBudget_value, hvalue, Except.map,
        Traced.pure_value]

/-- Waiting for the workers that a dispatch has started gives back the claims that it has made. -/
private theorem settled_claimed {bs : List Backend} {d : Dispatched} (h : Starts plan s bs d) :
    (settled plan d.state d.started).claimed = s.slots.claimed := by
  funext b
  have hfree : d.started.contains b = true → s.slots.claimed b = false := by
    intro hb
    rw [h.started, List.contains_iff_mem, List.mem_filter] at hb
    have hstarts := hb.2
    simp only [starts, Bool.and_eq_true, Bool.not_eq_true'] at hstarts
    exact hstarts.1
  simp only [settled, h.slots]
  cases hstarted : d.started.contains b with
  | false => simp
  | true => simp [hfree hstarted]

private theorem work_value {d : Dispatched}
    (hd : (dispatch plan (s.enter .dispatching).value s.enabled).value = d) :
    (work plan s).value = match d.failure with
      | some f => (d.state, some f)
      | none =>
        let awaiting := (d.state.enter .awaitingCompletion).value
        ({ awaiting with slots := settled plan awaiting d.started }, none) := by
  have henabled : (s.enter .dispatching).value.enabled = s.enabled := rfl
  simp only [work, Traced.bind_value, henabled, hd]
  cases d.failure with
  | some f => rfl
  | none => simp only [Traced.bind_value, Traced.pure_value, awaitCompletion_value]

private theorem work_bench : (work plan s).value.1.bench = s.bench := by
  obtain ⟨slots, unavailable, hstate⟩ := dispatch_state plan (s.enter .dispatching).value s.enabled
  have hbench : (dispatch plan (s.enter .dispatching).value s.enabled).value.state.bench = s.bench := by
    rw [hstate]
    rfl
  rw [work_value plan s rfl]
  split <;> exact hbench

private theorem work_claimed (hnodup : s.enabled.Nodup) (hdone : (work plan s).value.2 = none) :
    (work plan s).value.1.slots.claimed = s.slots.claimed ∧
      (work plan s).value.1.phase = .awaitingCompletion ∧
      (work plan s).value.1.passed = s.passed ++ [s.phase, .dispatching] := by
  obtain ⟨slots, unavailable, hstate⟩ := dispatch_state plan (s.enter .dispatching).value s.enabled
  have hstarts := dispatch_starts plan (s.enter .dispatching).value hnodup
  rw [work_value plan s rfl] at hdone ⊢
  cases hfailure : (dispatch plan (s.enter .dispatching).value s.enabled).value.failure with
  | some f =>
    rw [hfailure] at hdone
    cases hdone
  | none =>
    have hclaimed := settled_claimed plan (s.enter .dispatching).value (hstarts hfailure)
    refine ⟨hclaimed, rfl, ?_⟩
    let d := (dispatch plan (s.enter .dispatching).value s.enabled).value
    calc d.state.passed ++ [d.state.phase]
      _ = (s.passed ++ [s.phase]) ++ [.dispatching] := by
        rw [hstate]
        rfl
      _ = s.passed ++ [s.phase, .dispatching] := List.append_assoc _ _ _

private theorem renderAll_state (renderer : Renderer) (sofar : String) (bs : List Backend) :
    ∃ found, (renderAll renderer s sofar bs).state =
      { s with slots := { found := found, claimed := s.slots.claimed } } := by
  induction bs generalizing renderer s sofar with
  | nil => exact ⟨s.slots.found, rfl⟩
  | cons b bs ih =>
    simp only [renderAll]
    split
    · exact ⟨s.slots.found, rfl⟩
    · exact ih { s with slots := s.slots.release b } _ _

private theorem renderAll_found (renderer : Renderer) (sofar : String) {bs : List Backend} {text : String}
    (hnodup : bs.Nodup) (h : (renderAll renderer s sofar bs).text = .ok text) (b : Backend) :
    (renderAll renderer s sofar bs).state.slots.found b = if b ∈ bs then [] else s.slots.found b := by
  induction bs generalizing renderer s sofar with
  | nil => simp [renderAll]
  | cons x xs ih =>
    obtain ⟨hx, hxs⟩ := List.nodup_cons.mp hnodup
    simp only [renderAll] at h ⊢
    cases htext : renderer.text (s.slots.found x) with
    | error f =>
      rw [htext] at h
      cases h
    | ok t =>
      rw [htext] at h
      rw [ih _ _ _ hxs h]
      by_cases hb : b = x
      · subst hb
        simp [hx]
      · simp [hb, Backend.updated_of_ne]

private theorem render_state : ∃ found, (render plan s).state =
    { s with slots := { found := found, claimed := s.slots.claimed } } := by
  unfold render
  split
  · exact ⟨s.slots.found, rfl⟩
  · exact renderAll_state s _ _ _

private theorem finish_bench : (finish plan s).value.state.bench = s.bench := by
  let s' := (s.enter .rendering).value
  obtain ⟨found, hstate⟩ := render_state plan s'
  simp only [finish, Traced.bind_value]
  cases hrender : render plan s' with
  | mk state text =>
    rw [hrender] at hstate
    subst hstate
    cases text <;> rfl

structure Finished (s s' : State) : Prop where
  phase : s'.phase = .done
  passed : s'.passed = s.passed ++ [s.phase, .rendering]
  found : ∀ b, s'.slots.found b = []
  claimed : s'.slots.claimed = s.slots.claimed
  ranges : s'.registry.ranges = []

private theorem finish_finished {text : String} (h : (finish plan s).value.text = .ok text) :
    Finished s (finish plan s).value.state := by
  let s' := (s.enter .rendering).value
  obtain ⟨found, hstate⟩ := render_state plan s'
  have hfound : ∀ t, (render plan s').text = .ok t → ∀ b, (render plan s').state.slots.found b = [] := by
    intro t ht b
    unfold render at ht ⊢
    split
    · rename_i hmode
      rw [hmode] at ht
      cases ht
    · rename_i mode hmode
      rw [hmode] at ht
      have hreleased := renderAll_found s' _ "" Backend.nodup_all ht b
      rw [if_pos (Backend.mem_all b)] at hreleased
      exact hreleased
  simp only [finish, Traced.bind_value] at h ⊢
  cases hrender : render plan s' with
  | mk state shown =>
    rw [hrender] at hstate hfound
    subst hstate
    cases shown with
    | error e =>
      rw [hrender] at h
      cases h
    | ok t =>
      refine ⟨rfl, ?_, hfound t rfl, rfl, rfl⟩
      simp only [Traced.bind_value, Traced.pure_value, State.enter, s', List.append_assoc,
        List.cons_append, List.nil_append]

theorem scan_value : (scan plan s).value =
    let closed := { (work plan s).value.1 with bench := (work plan s).value.1.bench.close.value }
    match (work plan s).value.2 with
    | some f => ⟨closed, .error (.fault f)⟩
    | none => (finish plan closed).value := by
  simp only [scan, Traced.bind_value]
  cases (work plan s).value.2 <;> rfl

private theorem renderAll_unrefused (renderer : Renderer) (sofar : String) (bs : List Backend)
    (u : CommandLine.UsageError) : (renderAll renderer s sofar bs).text ≠ .error (.usage u) := by
  induction bs generalizing renderer s sofar with
  | nil =>
    intro h
    cases h
  | cons b bs ih =>
    simp only [renderAll]
    split
    · intro h
      cases h
    · exact ih _ _ _

private theorem render_unrefused (u : CommandLine.UsageError) : (render plan s).text ≠ .error (.usage u) := by
  unfold render
  split
  · intro h
    dsimp only at h
    split at h <;> cases h
  · exact renderAll_unrefused s _ _ _ u

private theorem finish_unrefused (u : CommandLine.UsageError) :
    (finish plan s).value.text ≠ .error (.usage u) := by
  let s' := (s.enter .rendering).value
  have hrefused := render_unrefused plan s' u
  simp only [finish, Traced.bind_value]
  cases hrender : render plan s' with
  | mk state text =>
    rw [hrender] at hrefused
    cases text with
    | ok text =>
      intro h
      cases h
    | error e => exact hrefused

theorem scan_unrefused (u : CommandLine.UsageError) : (scan plan s).value.text ≠ .error (.usage u) := by
  rw [scan_value]
  cases (work plan s).value.2 with
  | some f =>
    intro h
    cases h
  | none => exact finish_unrefused plan _ u

private theorem scan_bench : (scan plan s).value.state.bench = s.bench.close.value := by
  rw [scan_value]
  cases (work plan s).value.2 with
  | some f => exact congrArg (fun bench => bench.close.value) (work_bench plan s)
  | none =>
    apply (finish_bench plan _).trans
    exact congrArg (fun bench => bench.close.value) (work_bench plan s)

private theorem scan_finished (hnodup : s.enabled.Nodup) {text : String}
    (h : (scan plan s).value.text = .ok text) :
    let s' := (scan plan s).value.state
    s'.phase = .done ∧ s'.passed = s.passed ++ [s.phase, .dispatching, .awaitingCompletion, .rendering] ∧
      (∀ b, s'.slots.found b = []) ∧ s'.slots.claimed = s.slots.claimed ∧ s'.registry.ranges = [] := by
  rw [scan_value] at h ⊢
  cases hfailure : (work plan s).value.2 with
  | some f =>
    rw [hfailure] at h
    cases h
  | none =>
    rw [hfailure] at h
    obtain ⟨hclaimed, hphase, hpassed⟩ := work_claimed plan s hnodup hfailure
    have hfinished := finish_finished plan _ h
    refine ⟨hfinished.phase, ?_, hfinished.found, hfinished.claimed.trans hclaimed, hfinished.ranges⟩
    apply hfinished.passed.trans
    rw [hpassed, hphase, List.append_assoc]
    rfl

private theorem scan_allowed : ∀ e ∈ (scan plan s).events, plan.Allows s.bench.gate.installed e := by
  simp only [scan, Traced.bind_events]
  apply Plan.allows_append (work_allowed plan s)
  apply Plan.allows_append
  · exact Plan.allows_of_silent fun _ => requestsTo_closeBudget _ _
  · apply Plan.allows_of_silent
    intro b
    split
    · rfl
    · exact requestsTo_finish plan _ b

theorem execute_request {s' : State} {installed : Option Semaphore} {r : Request}
    (hprepare : (prepare plan s).value = (s', none))
    (h : Event.request installed r ∈ (execute plan s).events) :
    installed = s'.bench.gate.installed ∧ r.timeout = plan.settings.timeout ∧
      r.options = plan.settings.optionsFor r.backend := by
  simp only [execute, Traced.bind_events, hprepare] at h
  rcases List.mem_append.mp h with h | h
  · have hmade := mem_requestsTo h
    rw [requestsTo_prepare] at hmade
    cases hmade
  · exact scan_allowed plan s' _ h

/-- What a run leaves behind.  If it comes to its end, it has gone through its phases in their order; slots
and ranges are empty, the claims are those before it, the budget is closed and the gate is open.  If it ends
early, the gate is open again too, or the budget was not opened at all.  Every engine is asked under the
budget's own semaphore. -/
theorem execute_aftermath (plan : Plan) (s : State) (hphase : s.phase = .configuring)
    (hpassed : s.passed = []) (hclosed : s.bench.budget.own = none) :
    (∀ text, (execute plan s).value.text = .ok text →
      let s' := (execute plan s).value.state
      s'.passed = [.configuring, .dispatching, .awaitingCompletion, .rendering] ∧ s'.phase = .done ∧
        (∀ b, s'.slots.found b = []) ∧ s'.slots.claimed = s.slots.claimed ∧ s'.registry.ranges = [] ∧
        s'.bench.budget.own = none ∧ s'.bench.gate.installed = none) ∧
    (∀ e, (execute plan s).value.text = .error e →
      let s' := (execute plan s).value.state
      s'.bench.budget.own = none ∧ match (prepare plan s).value.2 with
        | some _ => s'.bench = s.bench
        | none => s'.bench.gate.installed = none) ∧
    ∀ installed r, Event.request installed r ∈ (execute plan s).events →
      ∃ bench own, s.bench.openUp.value = .ok bench ∧ bench.budget.own = some own ∧
        bench.gate.installed = some own ∧ installed = some own := by
  rcases prepare_cases plan s with
    ⟨s', e, hprepare, hbench, _⟩ | ⟨unavailable, enabled, hnodup, hopen, hprepare⟩
  · have hvalue : (execute plan s).value = ⟨s', .error e⟩ := by
      simp only [execute, Traced.bind_value, hprepare, Traced.pure_value]
    rw [hvalue, hprepare]
    refine ⟨?_, ?_, ?_⟩
    · intro text htext
      cases htext
    · intro e' he'
      exact ⟨hbench ▸ hclosed, hbench⟩
    · intro installed r hr
      have hsilent : ∀ b, requestsTo b (execute plan s).events = [] := by
        intro b
        simp only [execute, Traced.bind_events, hprepare, Traced.pure_events, List.append_nil,
          requestsTo_prepare]
      have hmade := mem_requestsTo hr
      rw [hsilent] at hmade
      cases hmade
  · -- The run goes on with its budget open, which every way out of it closes.
    let s' : State :=
      { s with unavailable := unavailable, enabled := enabled, bench := s.bench.opened }
    have hvalue : (execute plan s).value = (scan plan s').value := by
      simp only [execute, Traced.bind_value, hprepare, s']
    have hbench := (scan_bench plan s').trans (Budget.AtGate.close_opened s.bench)
    rw [hvalue, hprepare]
    refine ⟨?_, ?_, ?_⟩
    · intro text htext
      obtain ⟨hdone, hphases, hfound, hclaimed, hranges⟩ := scan_finished plan s' hnodup htext
      have hstart : s'.passed ++ [s'.phase, .dispatching, .awaitingCompletion, .rendering] =
          [.configuring, .dispatching, .awaitingCompletion, .rendering] := by
        show s.passed ++ [s.phase, _, _, _] = _
        rw [hpassed, hphase]
        rfl
      refine ⟨hphases.trans hstart, hdone, hfound, hclaimed, hranges, ?_, ?_⟩ <;> rw [hbench]
    · intro e he
      constructor <;> rw [hbench]
    · intro installed r hr
      refine ⟨s.bench.opened, s.bench.granted, hopen, rfl, rfl, ?_⟩
      exact (execute_request plan s hprepare hr).1

/-- Engines that find a device at every range but one, where they fail. -/
private def failingAtOne : Engines := fun b =>
  { isAvailable := true
    scan := fun _ start _ _ _ =>
      if start = some (.text "10.0.0.1") then throw Fault.expired
      else return some [{ backend := b, driver := "driver", port := "port" }] }

private def ofMode (mode : String) : Plan :=
  { settings := { displayMode := .given (.text mode) }, requested := [.usb, .xml, .nut], engines := failingAtOne
    turns := [.nut, .usb, .nut] }

/-- Two ranges, a slot that is taken, and a semaphore at the gate that is not the budget's own. -/
private def foreignGate : State :=
  { registry := { ranges := ["10.0.0.1", "10.0.0.2"].map fun a => ⟨.text a, .text a⟩ }
    bench := { budget := { value := .number 2 }, gate := { installed := some ⟨0, .number 7⟩, issued := 1 } }
    slots := { claimed := fun b => b = .xml } }

theorem execute_aftermath_foreignGate :
    (∃ s', (execute (ofMode "parsable") foreignGate).value.state = s' ∧
      s'.passed = [.configuring, .dispatching, .awaitingCompletion, .rendering] ∧
      s'.slots.claimed .xml = true ∧ s'.slots.claimed .nut = false ∧ s'.bench.gate.installed = none) ∧
    (execute (ofMode "table") foreignGate).value.text = .error (.unknownMode "'table'") ∧
    (execute (ofMode "table") foreignGate).value.state.bench.gate.installed = none := by
  have htext : (execute (ofMode "parsable") foreignGate).value.text = .ok
      "USB:driver=\"driver\",port=\"port\"\nNUT:driver=\"driver\",port=\"port\"\n" := rfl
  have herror : (execute (ofMode "table") foreignGate).value.text = .error (.unknownMode "'table'") := rfl
  obtain ⟨hpassed, _, _, hclaimed, _, _, hgate⟩ :=
    (execute_aftermath (ofMode "parsable") foreignGate rfl rfl rfl).1 _ htext
  have hended := (execute_aftermath (ofMode "table") foreignGate rfl rfl rfl).2.1 _ herror
  refine ⟨⟨_, rfl, hpassed, ?_, ?_, hgate⟩, herror, hended.2⟩ <;> rw [hclaimed] <;> rfl

end Run

end PowerDiscovery
