import PowerDiscovery.Proofs.Budget.Calls
import PowerDiscovery.Proofs.Run.Completion
import PowerDiscovery.Proofs.Run.Dispatch
import PowerDiscovery.Proofs.Run.Display

/-! # What a run asks for and displays

Which engines a run asks, for what, how often and in which order, and what it makes of the answers. -/

namespace PowerDiscovery

namespace Run

open Event

/-- The requests to the engine of a backend that are due in a run over some ranges. -/
def Plan.requestsFor (plan : Plan) (ranges : List AddressRange) (b : Backend) : List Request :=
  let request (start stop : Option Endpoint) : Request :=
    { backend := b, start := start, stop := stop, timeout := plan.settings.timeout
      options := plan.settings.optionsFor b }
  match b with
  | .snmp | .nut => ranges.map fun r => request (some r.start) (some r.stop)
  | .xml | .ipmi =>
    if ranges.isEmpty then [request none none]
    else ranges.map fun r => request (some r.start) (some r.stop)
  | .usb | .nutSimulation | .avahi | .eatonSerial => [request none none]

private theorem requestsFor_eq (plan : Plan) (s : State) (b : Backend) :
    plan.requestsFor s.registry.ranges b =
      (b.targets s.registry.ranges).map (workerFor plan s b).request := by
  cases b <;> cases s.registry.ranges <;>
    simp [Plan.requestsFor, Backend.targets, Backend.usesRanges, Backend.needsRange,
      Backend.hasImplicitTarget, Worker.request, workerFor, Target.start, Target.stop]

/-- Whether a backend takes part in a run and has something to scan. -/
def Plan.attends (plan : Plan) (s : State) (b : Backend) : Bool :=
  takesPart plan.requested plan.scanAll plan.engines.available b &&
    !(b.needsRange && s.registry.ranges.isEmpty)

theorem leaveOut_value (s : State) (bs : List Backend) :
    (leaveOut s bs).value.2 = bs.filter (fun b => !(b.needsRange && s.registry.ranges.isEmpty)) ∧
      ∃ unavailable, (leaveOut s bs).value.1 = { s with unavailable := unavailable } := by
  induction bs generalizing s with
  | nil => exact ⟨rfl, s.unavailable, rfl⟩
  | cons b bs ih =>
    simp only [leaveOut]
    split
    · rename_i hidle
      obtain ⟨hothers, unavailable, hstate⟩ := ih (s.disable b)
      refine ⟨?_, unavailable, hstate⟩
      simp only [Traced.bind_value, hothers, List.filter_cons, hidle]
      rfl
    · rename_i hbusy
      obtain ⟨hothers, unavailable, hstate⟩ := ih s
      refine ⟨?_, unavailable, hstate⟩
      simp only [Traced.bind_value, Traced.pure_value, hothers, List.filter_cons]
      rw [Bool.not_eq_true] at hbusy
      simp only [hbusy, Bool.not_false, if_true]

private theorem requestsTo_leaveOut (s : State) (bs : List Backend) (x : Backend) :
    requestsTo x (leaveOut s bs).events = [] := by
  induction bs generalizing s with
  | nil => rfl
  | cons b bs ih =>
    simp only [leaveOut]
    split <;> simp [ih]

private theorem configure_value (plan : Plan) (s : State)
    (hrequested : ∀ b ∈ plan.requested, plan.engines.available b = true) :
    ∃ unavailable, (configure plan s).value =
      .ok { s with unavailable := unavailable, enabled := Backend.all.filter (plan.attends s) } := by
  have hfind : Backend.all.find? (fun b => plan.requested.contains b && !plan.engines.available b) =
      none := by
    rw [List.find?_eq_none]
    intro b _ hb
    simp only [Bool.and_eq_true, List.contains_iff_mem, Bool.not_eq_true'] at hb
    rw [hrequested b hb.1] at hb
    cases hb.2
  obtain ⟨hothers, unavailable, hstate⟩ := leaveOut_value s
    (Backend.all.filter (takesPart plan.requested plan.scanAll plan.engines.available))
  refine ⟨unavailable, ?_⟩
  have henable : (Action.ofLogged (enable plan.requested plan.scanAll plan.engines.available)).value =
      .ok (Backend.all.filter (takesPart plan.requested plan.scanAll plan.engines.available)) := by
    simp only [Action.ofLogged, Traced.mapEvents, enable, hfind]
  simp only [configure, Traced.bind_value, Traced.pure_value, henable, hothers, hstate,
    List.filter_filter]
  congr 3
  funext b
  exact Bool.and_comm _ _

private theorem requestsTo_configure (plan : Plan) (s : State) (x : Backend) :
    requestsTo x (configure plan s).events = [] := by
  simp only [configure, Traced.bind_events, requestsTo_append, Action.requestsTo_ofLogged,
    List.nil_append]
  split <;> simp [requestsTo_leaveOut]

/-- What a run goes on with once it is configured and its budget is open. -/
structure Prepared (plan : Plan) (s s' : State) : Prop where
  registry : s'.registry = s.registry
  slots : s'.slots = s.slots
  enabled : s'.enabled = Backend.all.filter (plan.attends s)
  installed : s'.bench.gate.installed = some s.bench.granted

theorem prepare_value (plan : Plan) (s : State)
    (hrequested : ∀ b ∈ plan.requested, plan.engines.available b = true)
    (hclosed : s.bench.budget.own = none) (hslots : 0 ≤ s.bench.budget.value.amount) :
    ∃ s', (prepare plan s).value = (s', none) ∧ Prepared plan s s' := by
  obtain ⟨unavailable, hconfigure⟩ := configure_value plan s hrequested
  obtain ⟨bench, hopen, hinstalled⟩ := Budget.AtGate.openUp_value hclosed hslots
  refine ⟨{ s with unavailable := unavailable, enabled := Backend.all.filter (plan.attends s)
                   bench := bench }, ?_, rfl, rfl, rfl, hinstalled⟩
  simp only [prepare, Traced.bind_value, hconfigure, State.openBudget_value, hopen, Except.map,
    Traced.pure_value]

@[simp] theorem requestsTo_openBudget (s : State) (x : Backend) :
    requestsTo x s.openBudget.events = [] := by
  simp only [State.openBudget, Traced.bind_events, requestsTo_append, Action.requestsTo_ofLogged,
    List.nil_append]
  split
  · rfl
  · split <;> rfl

theorem requestsTo_prepare (plan : Plan) (s : State) (x : Backend) :
    requestsTo x (prepare plan s).events = [] := by
  simp only [prepare, Traced.bind_events, requestsTo_append, requestsTo_configure, List.nil_append]
  split
  · rfl
  · simp only [Traced.bind_events, requestsTo_append, requestsTo_openBudget, List.nil_append]
    split <;> rfl

/-- Whether the engine of a backend is asked in a run: the backend takes part, has something to scan, and
has its slot free, and its worker can be started. -/
def Plan.calls (plan : Plan) (s : State) (b : Backend) : Bool :=
  plan.attends s b && starts plan s b

/-- The list of a backend in the display of a run: the answers of its engine in the order of the requests,
or what its slot held before if the engine is not asked or the answers cannot be stored. -/
def Plan.listOf (plan : Plan) (s : State) (b : Backend) : List Device :=
  if plan.calls s b && (plan.hazards.store b).isNone then
    (plan.engines b).answers (some s.bench.granted) 0 (plan.requestsFor s.registry.ranges b)
  else s.slots.found b

/-- What dispatch hands on in a prepared run: a worker for each backend whose engine is to be asked. -/
structure Dispatches (plan : Plan) (s : State) (d : Dispatched) : Prop where
  failure : d.failure = none
  started : d.started = Backend.all.filter (plan.calls s)
  found : d.state.slots.found = s.slots.found
  registry : d.state.registry = s.registry
  installed : d.state.bench.gate.installed = some s.bench.granted

theorem Prepared.dispatch {plan : Plan} {s s' : State} (h : Prepared plan s s')
    (hstart : ∀ b f, startFault plan b = some f → f.spoilsStart) :
    Dispatches plan s (dispatch plan s' s'.enabled).value := by
  have hnodup : s'.enabled.Nodup := by
    rw [h.enabled]
    exact Backend.nodup_all.filter _
  have hd := dispatch_spec plan s' hstart hnodup
  refine ⟨hd.failure, ?_, ?_, hd.registry.trans h.registry, ?_⟩
  · have hstarts : starts plan s' = starts plan s := by
      funext b
      simp only [starts, h.slots]
    rw [hd.started, hstarts, h.enabled, List.filter_filter]
    congr 1
    funext b
    exact Bool.and_comm _ _
  · rw [hd.slots, h.slots]
  · rw [hd.bench]
    exact h.installed

theorem Prepared.enter {plan : Plan} {s s' : State} (h : Prepared plan s s') (phase : Phase) :
    Prepared plan s (s'.enter phase).value := ⟨h.registry, h.slots, h.enabled, h.installed⟩

section Dispatched

variable {plan : Plan} {s : State} {d : Dispatched} (h : Dispatches plan s d)

include h

theorem Dispatches.contains (b : Backend) : d.started.contains b = plan.calls s b := by
  rw [h.started, Bool.eq_iff_iff]
  simp [Backend.mem_all]

theorem Dispatches.requests (b : Backend) :
    (b.targets d.state.registry.ranges).map (workerFor plan d.state b).request =
      plan.requestsFor s.registry.ranges b := by
  rw [← requestsFor_eq, h.registry]

theorem Dispatches.lists : (storedBy plan d.state d.started).found = plan.listOf s := by
  funext b
  have hharvest : harvest plan d.state b =
      (plan.engines b).answers (some s.bench.granted) 0 (plan.requestsFor s.registry.ranges b) := by
    rw [harvest, Worker.collect_value, h.requests, List.nil_append, ← h.installed]
    rfl
  simp only [storedBy, stores, h.contains, hharvest, h.found]
  rfl

end Dispatched

@[simp] theorem requestsTo_enter (s : State) (phase : Phase) (x : Backend) :
    requestsTo x (s.enter phase).events = [] := by
  simp [State.enter]

theorem work_spec {plan : Plan} {s s' : State}
    (hstart : ∀ b f, startFault plan b = some f → f.spoilsStart) (h : Prepared plan s s') :
    (∃ s'', (work plan s').value = (s'', none) ∧ s''.slots.found = plan.listOf s) ∧
    ∀ b, requestsTo b (work plan s').events =
      if plan.calls s b then plan.requestsFor s.registry.ranges b else [] := by
  have hd := (h.enter .dispatching).dispatch hstart
  have hnodup := hd.started ▸ Backend.nodup_all.filter (plan.calls s)
  refine ⟨?_, fun b => ?_⟩
  · simp only [work, Traced.bind_value, hd.failure, awaitCompletion_value]
    exact ⟨_, rfl, hd.lists⟩
  · simp only [work, Traced.bind_events, requestsTo_append, requestsTo_enter, requestsTo_dispatch,
      List.nil_append, hd.failure, Traced.pure_events, List.append_nil,
      awaitCompletion_requests _ _ _ hnodup, hd.contains]
    split
    · exact hd.requests b
    · rfl

theorem requestsTo_finish (plan : Plan) (s : State) (x : Backend) :
    requestsTo x (finish plan s).events = [] := by
  simp only [finish, Traced.bind_events, requestsTo_append, requestsTo_enter, List.nil_append]
  split <;> simp

@[simp] theorem requestsTo_closeBudget (s : State) (x : Backend) :
    requestsTo x s.closeBudget.events = [] := by
  simp [State.closeBudget]

/-- The requests of a run to each engine, and the text that the run displays.  The run is one that starts:
its display has a mode, the backends that it asks for have their libraries, its budget can be opened, and
what keeps a worker from being started only takes the backend of this worker out. -/
theorem execute_requests_and_text (plan : Plan) (s : State) (mode : DisplayMode)
    (hmode : plan.settings.displayMode.mode? = some mode)
    (hrequested : ∀ b ∈ plan.requested, plan.engines.available b = true)
    (hclosed : s.bench.budget.own = none) (hslots : 0 ≤ s.bench.budget.value.amount)
    (hstart : ∀ b f, startFault plan b = some f → f.spoilsStart) :
    (∀ b, requestsTo b (execute plan s).events =
      if plan.calls s b then plan.requestsFor s.registry.ranges b else []) ∧
    (execute plan s).value.text = displayed mode (plan.listOf s) := by
  obtain ⟨s', hprepare, hprepared⟩ := prepare_value plan s hrequested hclosed hslots
  obtain ⟨⟨s'', hwork, hlists⟩, hrequests⟩ := work_spec hstart hprepared
  refine ⟨fun b => ?_, ?_⟩
  · simp only [execute, Traced.bind_events, requestsTo_append, requestsTo_prepare, hprepare,
      List.nil_append, scan, hrequests, hwork, requestsTo_closeBudget, requestsTo_finish, List.append_nil]
  · simp only [execute, scan, Traced.bind_value, hprepare, hwork, finish_text _ _ hmode, ← hlists]
    rfl

/-- Engines that fail when they are asked first and find a device at every later time. -/
private def failingFirst : Engines := fun b =>
  { isAvailable := true
    scan := fun _ _ _ _ _ => throw Fault.expired
    later := fun n _ _ _ _ _ => return some [{ backend := b, driver := "driver", port := toString n }] }

private def rangeBackends : Plan :=
  { settings := { displayMode := .mode .lines }, requested := [.xml, .nut, .ipmi]
    engines := failingFirst, turns := [.nut, .xml, .nut, .xml] }

/-- Three ranges, and the slot of one backend that is taken. -/
private def threeRanges : State :=
  { registry := { ranges := ["10.0.0.1", "10.0.0.2", "10.0.0.1"].map fun a => ⟨.text a, .text a⟩ }
    bench := { budget := { value := .number 1 }, gate := {} }
    slots := { claimed := fun b => b = .ipmi } }

theorem execute_requests_and_text_taken :
    (requestsTo .nut (execute rangeBackends threeRanges).events).map Request.start =
      [some (.text "10.0.0.1"), some (.text "10.0.0.2"), some (.text "10.0.0.1")] ∧
    requestsTo .ipmi (execute rangeBackends threeRanges).events = [] ∧
    (execute rangeBackends threeRanges).value.text =
      .ok ("XML:driver=\"driver\",port=\"0\"\nXML:driver=\"driver\",port=\"1\"\n" ++
        "NUT:driver=\"driver\",port=\"0\"\nNUT:driver=\"driver\",port=\"1\"\n") := by
  obtain ⟨hrequests, htext⟩ := execute_requests_and_text rangeBackends threeRanges .lines rfl
    (by decide) rfl (by decide) (fun _ _ h => nomatch h)
  refine ⟨?_, ?_, ?_⟩
  · rw [hrequests .nut]
    rfl
  · rw [hrequests .ipmi]
    rfl
  · rw [htext]
    rfl

end Run

end PowerDiscovery
