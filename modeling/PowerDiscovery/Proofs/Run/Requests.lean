import PowerDiscovery.Run.Worker

/-! # Requests to one engine

The requests among the events of a run, for each backend on its own.  Only a worker that asks its engine
adds to them; everything else that happens is silent here. -/

namespace PowerDiscovery

namespace Event

/-- The requests to the engine of a backend among events, in their order. -/
def requestsTo (b : Backend) (events : List Event) : List Request :=
  (requestsOf events).filter fun r => r.backend = b

variable (b : Backend)

@[simp] theorem requestsTo_nil : requestsTo b [] = [] := rfl

@[simp] theorem requestsTo_append (xs ys : List Event) :
    requestsTo b (xs ++ ys) = requestsTo b xs ++ requestsTo b ys := by
  simp only [requestsTo, requestsOf_append, List.filter_append]

end Event

namespace Action

open Event

variable (b : Backend) (text : String)

@[simp] theorem requestsTo_debug : requestsTo b (debug text).events = [] := rfl

@[simp] theorem requestsTo_info : requestsTo b (info text).events = [] := rfl

@[simp] theorem requestsTo_error : requestsTo b (error text).events = [] := rfl

private theorem requestsTo_request (installed : Option Semaphore) (r : Request) :
    requestsTo b (Traced.emit (Event.request installed r)).events = if r.backend = b then [r] else [] := by
  simp only [requestsTo, requestsOf, Traced.emit, List.filterMap_cons, List.filterMap_nil,
    List.filter_cons, List.filter_nil, decide_eq_true_eq]

private theorem requestsOf_ofLogged {α : Type} (x : Logged α) : requestsOf (ofLogged x).events = [] := by
  simp only [requestsOf, ofLogged, Traced.mapEvents, List.filterMap_map]
  exact List.filterMap_eq_nil_iff.mpr fun _ _ => rfl

@[simp] theorem requestsTo_ofLogged {α : Type} (x : Logged α) :
    requestsTo b (ofLogged x).events = [] := by
  rw [requestsTo, requestsOf_ofLogged]
  rfl

@[simp] theorem requestsTo_ofEngine {α : Type} (x : Action α) :
    requestsTo b (ofEngine x).events = [] := by
  have hnone : requestsOf (ofEngine x).events = [] := by
    refine List.filterMap_eq_nil_iff.mpr fun e he => ?_
    have hengine := (List.mem_filter.mp he).2
    cases e with
    | request installed r => cases hengine
    | _ => rfl
  rw [requestsTo, hnone]
  rfl

end Action

/-- The devices that an engine gives for a request; none if it fails. -/
def Engine.answer (e : Engine) (installed : Option Semaphore) (asked : Nat) (r : Request) :
    List Device :=
  match (e.call asked installed r.start r.stop r.timeout r.options).run.value with
  | .ok found => found.getD []
  | .error _ => []

/-- The devices that an engine gives for several requests, one after the other. -/
def Engine.answers (e : Engine) (installed : Option Semaphore) : Nat → List Request → List Device
  | _, [] => []
  | asked, r :: rs => e.answer installed asked r ++ e.answers installed (asked + 1) rs

namespace Worker

open Event

variable (w : Worker) (b : Backend)

@[simp] theorem requestsTo_announce (t : Target) : requestsTo b (w.announce t).events = [] := by
  cases t <;> rfl

theorem requestsTo_ask (asked : Nat) (t : Target) :
    requestsTo b (w.ask asked t).events = if w.backend = b then [w.request t] else [] := by
  have hrequest : requestsTo b (Traced.emit (.request w.installed (w.request t))).events =
      if w.backend = b then [w.request t] else [] := Action.requestsTo_request b _ _
  simp only [ask, Traced.bind_events, requestsTo_append, requestsTo_announce, hrequest,
    Action.requestsTo_ofEngine, List.nil_append]
  generalize (Action.ofEngine _).value = answer
  cases answer <;> simp

@[simp] theorem requestsTo_conclude (asked : Nat) (found : List Device) :
    requestsTo b (w.conclude asked found).events = [] := by
  by_cases h : asked = 0 <;> by_cases hf : found.isEmpty <;> simp [conclude, h, hf]

private theorem requestsTo_collect (asked : Nat) (sofar : List Device) (targets : List Target) :
    requestsTo b (w.collect asked sofar targets).events =
      if w.backend = b then targets.map w.request else [] := by
  induction targets generalizing asked sofar with
  | nil => by_cases h : w.backend = b <;> simp [collect, h]
  | cons t ts ih =>
    simp only [collect, Traced.bind_events, requestsTo_append, requestsTo_ask, ih]
    by_cases h : w.backend = b <;> simp [h]

theorem requestsTo_run (ranges : List AddressRange) :
    requestsTo b (w.run ranges).events =
      if w.backend = b then (w.backend.targets ranges).map w.request else [] := by
  simp [run, requestsTo_collect]

private theorem ask_value (asked : Nat) (t : Target) :
    (w.ask asked t).value.getD [] = w.engine.answer w.installed asked (w.request t) := by
  have hanswer : (Action.ofEngine (w.engine.call asked w.installed t.start t.stop w.timeout
      w.options).run).value = (w.engine.call asked w.installed t.start t.stop w.timeout w.options).run.value :=
    rfl
  simp only [ask, Engine.answer, request, Traced.bind_value, hanswer]
  generalize (w.engine.call asked w.installed t.start t.stop w.timeout w.options).run.value = answer
  cases answer <;> rfl

/-- What a worker collects are the answers to its requests, in the order in which it makes them. -/
theorem collect_value (asked : Nat) (sofar : List Device) (targets : List Target) :
    (w.collect asked sofar targets).value =
      sofar ++ w.engine.answers w.installed asked (targets.map w.request) := by
  induction targets generalizing asked sofar with
  | nil => exact (List.append_nil sofar).symm
  | cons t ts ih =>
    simp only [collect, Traced.bind_value, ih, Device.merge, ask_value, List.map_cons, Engine.answers,
      List.append_assoc]

end Worker

end PowerDiscovery
