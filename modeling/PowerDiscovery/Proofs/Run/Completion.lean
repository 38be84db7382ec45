import PowerDiscovery.Proofs.Run.Crew
import PowerDiscovery.Run.Execution

/-! # Workers come to their ends

Workers that go on together, in whatever order, leave the slots as workers do that run one after the other,
and each of them has made the same requests. -/

namespace PowerDiscovery.Run

open Event

variable (plan : Plan) (s : State)

/-- The workers of several backends whose devices cannot be stored. -/
def casualtiesOf (started : List Backend) : List Casualty :=
  started.filterMap fun b => (plan.hazards.store b).map fun f => ⟨b, f⟩

/-- Workers that go on together leave what was settled before their first steps, whatever their turns. -/
private theorem runTogether_spec (started : List Backend) :
    (runTogether plan s started).value =
        ({ s with slots := storedBy plan s started }, casualtiesOf plan started) ∧
      ∀ x, requestsTo x (runTogether plan s started).events =
        (Crew.assemble s started).pending plan s x := by
  let c := ((Crew.assemble s started).follow plan s plan.turns).value
  have hend := Crew.oneByOne_stepsLeft plan s started plan.turns
  obtain ⟨houtlook, hturns⟩ := Crew.follow_spec plan s (Crew.assemble s started) plan.turns
  obtain ⟨houtlook', hends⟩ := Crew.follow_spec plan s c (c.oneByOne started)
  refine ⟨?_, fun x => ?_⟩
  · simp only [runTogether, Traced.bind_value, Traced.pure_value]
    rw [Crew.casualties_of_stepsLeft plan hend, ← Crew.outlook_of_stepsLeft plan s hend, houtlook',
      houtlook, Crew.assemble_outlook]
    congr 1
    refine List.filterMap_congr fun x hx => ?_
    have hstart : (Crew.assemble s started).fate plan x = plan.hazards.store x := by
      simp [Crew.fate, Crew.assemble, hx]
    rw [(hends x).1, (hturns x).1, hstart]
  · have hmade := (hends x).2.1
    rw [Crew.pending_of_stepsLeft (hend x), List.append_nil] at hmade
    simp only [runTogether, Traced.bind_events, Traced.pure_events, requestsTo_append,
      List.append_nil]
    rw [← (hturns x).2.1, ← hmade]

private theorem stores_cons (b : Backend) (bs : List Backend) (x : Backend) :
    stores plan (b :: bs) x = (x = b && (plan.hazards.store b).isNone || stores plan bs x) := by
  by_cases hx : x = b
  · subst hx
    cases hs : plan.hazards.store x <;> simp [stores, hs]
  · simp [stores, hx]

private theorem storedBy_nil : storedBy plan s [] = s.slots := by
  simp [storedBy, stores]

private theorem storedBy_cons_none {b : Backend} (hs : plan.hazards.store b = none) (bs : List Backend) :
    storedBy plan s (b :: bs) =
      storedBy plan { s with slots := s.slots.store b (harvest plan s b) } bs := by
  simp only [storedBy, stores_cons, hs, Option.isNone_none, Bool.and_true]
  congr 1 <;> funext x <;> by_cases hx : x = b
  · subst hx
    simp [harvest, workerFor]
  · simp [harvest, workerFor, Backend.updated_of_ne, hx]
  · subst hx
    simp
  · simp [Backend.updated_of_ne, hx]

private theorem storedBy_cons_some {b : Backend} {f : Fault} (hs : plan.hazards.store b = some f)
    (bs : List Backend) : storedBy plan s (b :: bs) = storedBy plan s bs := by
  simp only [storedBy, stores_cons, hs, Option.isNone_some, Bool.and_false, Bool.false_or]

private theorem casualtiesOf_cons (b : Backend) (bs : List Backend) :
    casualtiesOf plan (b :: bs) =
      ((plan.hazards.store b).map fun f => (⟨b, f⟩ : Casualty)).toList ++ casualtiesOf plan bs := by
  simp only [casualtiesOf, List.filterMap_cons]
  cases plan.hazards.store b <;> rfl

private theorem runWorkers_value (started : List Backend) :
    (runWorkers plan s started).value =
      ({ s with slots := storedBy plan s started }, casualtiesOf plan started) := by
  induction started generalizing s with
  | nil =>
    rw [storedBy_nil]
    rfl
  | cons b bs ih =>
    simp only [runWorkers, Traced.bind_value]
    rw [casualtiesOf_cons]
    cases hs : plan.hazards.store b with
    | none =>
      rw [ih, storedBy_cons_none plan s hs]
      rfl
    | some f =>
      simp only [Traced.bind_value, Traced.pure_value]
      rw [ih, storedBy_cons_some plan s hs]
      rfl

private theorem runWorkers_requests (started : List Backend) (hnodup : started.Nodup) (x : Backend) :
    requestsTo x (runWorkers plan s started).events =
      (Crew.assemble s started).pending plan s x := by
  induction started generalizing s with
  | nil => rfl
  | cons b bs ih =>
    obtain ⟨hb, hbs⟩ := List.nodup_cons.mp hnodup
    have hrest : requestsTo x (runWorkers plan s (b :: bs)).events =
        requestsTo x ((workerFor plan s b).run s.registry.ranges).events ++
          (Crew.assemble s bs).pending plan s x := by
      simp only [runWorkers, Traced.bind_events, requestsTo_append]
      congr 1
      cases hs : plan.hazards.store b with
      | none => exact (ih _ hbs).trans (by simp only [Crew.assemble_pending]; rfl)
      | some f =>
        simp only [Traced.bind_events, requestsTo_append, Traced.pure_events]
        exact (List.append_nil _).trans (ih s hbs)
    rw [hrest, Worker.requestsTo_run, Crew.assemble_pending, Crew.assemble_pending]
    by_cases hx : x = b
    · subst hx
      simp [workerFor, hb]
    · simp [workerFor, hx, Ne.symm hx]

/-- Workers leave the same whether they go on together, in whatever order, or run one after the other. -/
private theorem runStarted_value (started : List Backend) :
    (runStarted plan s started).value =
      ({ s with slots := storedBy plan s started }, casualtiesOf plan started) := by
  unfold runStarted
  split
  · exact (runTogether_spec plan s started).1
  · exact runWorkers_value plan s started

private theorem runStarted_requests (started : List Backend) (hnodup : started.Nodup) (x : Backend) :
    requestsTo x (runStarted plan s started).events =
      if started.contains x then (x.targets s.registry.ranges).map (workerFor plan s x).request
      else [] := by
  rw [← Crew.assemble_pending]
  unfold runStarted
  split
  · exact (runTogether_spec plan s started).2 x
  · exact runWorkers_requests plan s started hnodup x

@[simp] theorem abandonAll_value (casualties : List Casualty) :
    (abandonAll s casualties).value =
      { s with slots := { s.slots with
          claimed := fun b => s.slots.claimed b && !casualties.any fun c => c.backend = b } } := by
  induction casualties generalizing s with
  | nil => simp [abandonAll]
  | cons c cs ih =>
    simp only [abandonAll, Traced.bind_value, ih]
    congr 2
    funext b
    by_cases hb : b = c.backend
    · subst hb
      simp
    · simp [Backend.updated_of_ne, hb, Ne.symm hb]

@[simp] theorem requestsTo_abandonAll (casualties : List Casualty) (x : Backend) :
    requestsTo x (abandonAll s casualties).events = [] := by
  induction casualties generalizing s with
  | nil => rfl
  | cons c cs ih => simp [abandonAll, ih]

/-- The slots after waiting for the workers of several backends: each of these has given its claim back, and
has its devices in its slot unless they could not be stored. -/
def settled (started : List Backend) : Slots :=
  { found := (storedBy plan s started).found
    claimed := fun b => s.slots.claimed b && !started.contains b }

private theorem casualtiesOf_any (started : List Backend) (b : Backend) :
    (casualtiesOf plan started).any (fun c => c.backend = b) =
      (started.contains b && (plan.hazards.store b).isSome) := by
  induction started with
  | nil => rfl
  | cons x xs ih =>
    rw [casualtiesOf_cons, List.any_append, ih]
    by_cases hb : b = x
    · subst hb
      cases plan.hazards.store b <;> simp
    · cases plan.hazards.store x <;> simp [hb, Ne.symm hb]

theorem awaitCompletion_value (started : List Backend) :
    (awaitCompletion plan s started).value = { s with slots := settled plan s started } := by
  simp only [awaitCompletion, Traced.bind_value, runStarted_value, abandonAll_value, settled,
    casualtiesOf_any]
  congr 2
  funext b
  simp only [storedBy, stores]
  cases s.slots.claimed b <;> cases started.contains b <;> cases plan.hazards.store b <;> rfl

theorem awaitCompletion_requests (started : List Backend) (hnodup : started.Nodup) (x : Backend) :
    requestsTo x (awaitCompletion plan s started).events =
      if started.contains x then (x.targets s.registry.ranges).map (workerFor plan s x).request
      else [] := by
  simp only [awaitCompletion, Traced.bind_events, requestsTo_append, requestsTo_abandonAll,
    List.append_nil]
  exact runStarted_requests plan s started hnodup x

end PowerDiscovery.Run
