import Mathlib.Data.List.Basic
import PowerDiscovery.Proofs.Run.Requests
import PowerDiscovery.Run.Crew

/-! # Steps of a crew

Each worker has a slot and a list of devices of its own.  Whatever a step of one worker does, what the slots
will hold once every worker has ended stays the same, and so do the requests that every worker has made and
still has ahead. -/

namespace PowerDiscovery.Run

open Event

variable (plan : Plan) (s : State)

def harvest (b : Backend) : List Device :=
  ((workerFor plan s b).collect 0 [] (b.targets s.registry.ranges)).value

/-- Whether a backend has a worker among those started that stores its devices. -/
def stores (started : List Backend) (b : Backend) : Bool :=
  started.contains b && (plan.hazards.store b).isNone

/-- The slots after the workers of several backends have stored their devices. -/
def storedBy (started : List Backend) : Slots :=
  { found := fun b => if stores plan started b then harvest plan s b else s.slots.found b
    claimed := fun b => s.slots.claimed b && !stores plan started b }

namespace Crew

/-- A step of the worker of a backend, with everything that it does. -/
inductive Step (c : Crew) (b : Backend) : Action Crew → Prop where
  | ask (asked : Nat) (sofar : List Device) (t : Target) (ahead : List Target)
      (h : c.progress b = some (.working asked sofar (t :: ahead))) :
      Step c b
        { value := c.put b (.working (asked + 1)
            (Device.merge sofar ((workerFor plan s b).ask asked t).value) ahead)
          events := ((workerFor plan s b).ask asked t).events }
  | store (asked : Nat) (sofar : List Device) (h : c.progress b = some (.working asked sofar []))
      (hs : plan.hazards.store b = none) :
      Step c b
        { value := { c with slots := c.slots.store b sofar }.put b (.ended none)
          events := ((workerFor plan s b).conclude asked sofar).events }
  | fail (asked : Nat) (sofar : List Device) (f : Fault)
      (h : c.progress b = some (.working asked sofar [])) (hs : plan.hazards.store b = some f) :
      Step c b
        { value := c.put b (.ended (some f))
          events := ((workerFor plan s b).conclude asked sofar).events }
  | rest (h : c.stepsLeft b = 0) : Step c b { value := c, events := [] }

theorem step_spec (c : Crew) (b : Backend) : Step plan s c b (step plan s c b) := by
  unfold step
  split
  · rename_i asked sofar t ahead h
    have hstep : Step plan s c b _ := .ask asked sofar t ahead h
    simpa only [bind, Traced.bind, pure, Traced.pure, List.append_nil] using hstep
  · rename_i asked sofar h
    cases hs : plan.hazards.store b with
    | none =>
      have hstep : Step plan s c b _ := .store asked sofar h hs
      simpa only [bind, Traced.bind, pure, Traced.pure, List.append_nil] using hstep
    | some f =>
      have hstep : Step plan s c b _ := .fail asked sofar f h hs
      simpa only [bind, Traced.bind, pure, Traced.pure, List.append_nil] using hstep
  · rename_i hask hstore
    refine .rest ?_
    unfold stepsLeft
    split
    · rename_i asked sofar ahead h
      cases ahead with
      | nil => exact absurd h (hstore asked sofar)
      | cons t ahead => exact absurd h (hask asked sofar t ahead)
    · rfl

/-- The devices that the worker of a backend is about to store, if it is going to store some. -/
def due (c : Crew) (b : Backend) : Option (List Device) :=
  match c.progress b, plan.hazards.store b with
  | some (.working asked sofar ahead), none =>
    some ((workerFor plan s b).collect asked sofar ahead).value
  | _, _ => none

/-- The slots as they will be when every worker has ended. -/
def outlook (c : Crew) : Slots :=
  { found := fun b => (c.due plan s b).getD (c.slots.found b)
    claimed := fun b => c.slots.claimed b && (c.due plan s b).isNone }

/-- What keeps the worker of a backend from storing its devices. -/
def fate (c : Crew) (b : Backend) : Option Fault :=
  match c.progress b with
  | some (.working ..) => plan.hazards.store b
  | some (.ended failure) => failure
  | none => none

/-- The requests that the worker of a backend has ahead. -/
def pending (c : Crew) (b : Backend) : List Request :=
  match c.progress b with
  | some (.working _ _ ahead) => ahead.map (workerFor plan s b).request
  | _ => []

@[simp] theorem put_progress_same (c : Crew) (b : Backend) (p : Progress) :
    (c.put b p).progress b = some p := Backend.updated_same ..

private theorem put_progress_of_ne (c : Crew) {b x : Backend} (p : Progress) (h : x ≠ b) :
    (c.put b p).progress x = c.progress x := Backend.updated_of_ne _ h _

@[simp] theorem put_slots (c : Crew) (b : Backend) (p : Progress) : (c.put b p).slots = c.slots := rfl

variable {plan s} {c : Crew} {b : Backend} {a : Action Crew}

private theorem Step.progress_of_ne (h : Step plan s c b a) {x : Backend} (hx : x ≠ b) :
    a.value.progress x = c.progress x := by
  cases h with
  | ask asked sofar t ahead h => exact put_progress_of_ne c _ hx
  | store asked sofar h hs => exact put_progress_of_ne _ _ hx
  | fail asked sofar f h hs => exact put_progress_of_ne c _ hx
  | rest h => rfl

theorem Step.stepsLeft (h : Step plan s c b a) (x : Backend) :
    a.value.stepsLeft x = c.stepsLeft x - if b = x then 1 else 0 := by
  by_cases hx : x = b
  · subst hx
    rw [if_pos rfl]
    cases h with
    | ask asked sofar t ahead h => simp [Crew.stepsLeft, h]
    | store asked sofar h hs => simp [Crew.stepsLeft, h]
    | fail asked sofar f h hs => simp [Crew.stepsLeft, h]
    | rest h => simp [h]
  · rw [if_neg (Ne.symm hx), Nat.sub_zero]
    simp only [Crew.stepsLeft, h.progress_of_ne hx]

theorem Step.fate (h : Step plan s c b a) (x : Backend) : a.value.fate plan x = c.fate plan x := by
  by_cases hx : x = b
  · subst hx
    cases h with
    | ask asked sofar t ahead h => simp [Crew.fate, h]
    | store asked sofar h hs => simp [Crew.fate, h, hs]
    | fail asked sofar f h hs => simp [Crew.fate, h, hs]
    | rest h => rfl
  · simp only [Crew.fate, h.progress_of_ne hx]

theorem Step.requests (h : Step plan s c b a) (x : Backend) :
    requestsTo x a.events ++ a.value.pending plan s x = c.pending plan s x := by
  by_cases hx : x = b
  · subst hx
    cases h with
    | ask asked sofar t ahead h => simp [Crew.pending, h, Worker.requestsTo_ask, workerFor]
    | store asked sofar h hs => simp [Crew.pending, h]
    | fail asked sofar f h hs => simp [Crew.pending, h]
    | rest h => simp
  · have hsilent : requestsTo x a.events = [] := by
      cases h with
      | ask asked sofar t ahead h => simp [Worker.requestsTo_ask, workerFor, Ne.symm hx]
      | store asked sofar h hs => simp
      | fail asked sofar f h hs => simp
      | rest h => rfl
    rw [hsilent, List.nil_append]
    simp only [Crew.pending, h.progress_of_ne hx]

private theorem Step.slots_of_ne (h : Step plan s c b a) {x : Backend} (hx : x ≠ b) :
    a.value.slots.found x = c.slots.found x ∧ a.value.slots.claimed x = c.slots.claimed x := by
  cases h with
  | store asked sofar h hs => exact ⟨Backend.updated_of_ne _ hx _, Backend.updated_of_ne _ hx _⟩
  | _ => exact ⟨rfl, rfl⟩

private theorem Step.outlook (h : Step plan s c b a) : a.value.outlook plan s = c.outlook plan s := by
  have hslot (x : Backend) :
      (a.value.due plan s x).getD (a.value.slots.found x) =
        (c.due plan s x).getD (c.slots.found x) ∧
      (a.value.slots.claimed x && (a.value.due plan s x).isNone) =
        (c.slots.claimed x && (c.due plan s x).isNone) := by
    -- A worker touches no slot but its own, and there it stores what was due.
    by_cases hx : x = b
    · subst hx
      cases h with
      | ask asked sofar t ahead h =>
        cases hs : plan.hazards.store x <;> simp [Crew.due, h, hs, Worker.collect]
      | store asked sofar h hs => simp [Crew.due, h, hs, Worker.collect]
      | fail asked sofar f h hs => simp [Crew.due, h, hs]
      | rest h => exact ⟨rfl, rfl⟩
    · have hdue : a.value.due plan s x = c.due plan s x := by
        simp only [Crew.due, h.progress_of_ne hx]
      rw [hdue, (h.slots_of_ne hx).1, (h.slots_of_ne hx).2]
      exact ⟨rfl, rfl⟩
  have hfound := funext fun x => (hslot x).1
  have hclaimed := funext fun x => (hslot x).2
  simp only [Crew.outlook, hfound, hclaimed]

/-! ### Several steps -/

/-- What any number of steps leaves as it is: the outlook of the slots, and for each backend its fate, its
requests made and ahead, and its steps made and ahead. -/
theorem follow_spec (plan : Plan) (s : State) (c : Crew) (bs : List Backend) :
    (c.follow plan s bs).value.outlook plan s = c.outlook plan s ∧ ∀ x,
      (c.follow plan s bs).value.fate plan x = c.fate plan x ∧
      requestsTo x (c.follow plan s bs).events ++ (c.follow plan s bs).value.pending plan s x =
        c.pending plan s x ∧
      (c.follow plan s bs).value.stepsLeft x = c.stepsLeft x - bs.count x := by
  induction bs generalizing c with
  | nil => exact ⟨rfl, fun x => ⟨rfl, rfl, rfl⟩⟩
  | cons b bs ih =>
    have hstep := step_spec plan s c b
    obtain ⟨houtlook, hrest⟩ := ih (step plan s c b).value
    refine ⟨houtlook.trans hstep.outlook, fun x => ?_⟩
    obtain ⟨hfate, hrequests, hsteps⟩ := hrest x
    refine ⟨hfate.trans (hstep.fate x), ?_, ?_⟩
    · rw [← hstep.requests x, ← hrequests]
      simp only [follow, Traced.bind_events, Traced.bind_value, requestsTo_append, List.append_assoc]
    · simp only [follow, Traced.bind_value, hsteps, hstep.stepsLeft, List.count_cons, beq_iff_eq]
      omega

/-- Every worker among some backends has made its last step after they came to their ends one by one. -/
private theorem stepsLeft_le_count_oneByOne (c : Crew) {backends : List Backend} {x : Backend}
    (hx : x ∈ backends) : c.stepsLeft x ≤ (c.oneByOne backends).count x := by
  induction backends with
  | nil => cases hx
  | cons b bs ih =>
    simp only [oneByOne, List.flatMap_cons, List.count_append]
    rcases List.mem_cons.mp hx with rfl | hx
    · simp
    · exact Nat.le_trans (ih hx) (Nat.le_add_left _ _)

private theorem progress_of_stepsLeft {x : Backend} (h : c.stepsLeft x = 0) :
    c.progress x = none ∨ ∃ failure, c.progress x = some (.ended failure) := by
  unfold Crew.stepsLeft at h
  split at h
  · cases h
  · rename_i hidle
    cases hp : c.progress x with
    | none => exact .inl rfl
    | some p =>
      cases p with
      | working asked sofar ahead => exact absurd hp (hidle asked sofar ahead)
      | ended failure => exact .inr ⟨failure, rfl⟩

theorem outlook_of_stepsLeft (plan : Plan) (s : State) (h : ∀ x, c.stepsLeft x = 0) :
    c.outlook plan s = c.slots := by
  have hdue (x : Backend) : c.due plan s x = none := by
    rcases progress_of_stepsLeft (h x) with hp | ⟨failure, hp⟩ <;> simp only [Crew.due, hp]
  simp [Crew.outlook, hdue]

theorem pending_of_stepsLeft {x : Backend} (h : c.stepsLeft x = 0) : c.pending plan s x = [] := by
  rcases progress_of_stepsLeft h with hp | ⟨failure, hp⟩ <;> simp only [Crew.pending, hp]

theorem casualties_of_stepsLeft (plan : Plan) (h : ∀ x, c.stepsLeft x = 0)
    (backends : List Backend) :
    c.casualties backends = backends.filterMap fun b => (c.fate plan b).map fun f => ⟨b, f⟩ := by
  refine List.filterMap_congr fun x _ => ?_
  rcases progress_of_stepsLeft (h x) with hp | ⟨failure, hp⟩
  · simp only [Crew.fate, hp, Option.map_none]
  · cases failure <;> simp only [Crew.fate, hp, Option.map_none, Option.map_some]

variable (plan s)

private theorem assemble_due (started : List Backend) (x : Backend) :
    (assemble s started).due plan s x =
      if stores plan started x then some (harvest plan s x) else none := by
  by_cases hx : started.contains x <;> cases hs : plan.hazards.store x <;>
    simp only [Crew.due, assemble, stores, harvest, hx, hs, Option.isNone_none, Option.isNone_some,
      Bool.and_true, Bool.and_false, if_true, if_false, Bool.false_eq_true]

theorem assemble_outlook (started : List Backend) :
    (assemble s started).outlook plan s = storedBy plan s started := by
  simp only [Crew.outlook, assemble_due, storedBy]
  congr 1 <;> funext x <;> cases stores plan started x <;> simp [assemble]

theorem assemble_pending (started : List Backend) (x : Backend) :
    (assemble s started).pending plan s x =
      if started.contains x then (x.targets s.registry.ranges).map (workerFor plan s x).request
      else [] := by
  by_cases hx : started.contains x <;> simp only [Crew.pending, assemble, hx, if_true, if_false,
    Bool.false_eq_true]

/-- Whatever steps the workers of some backends have made, none is ahead when all of them have come to their
ends one by one. -/
theorem oneByOne_stepsLeft (started turns : List Backend) (x : Backend) :
    let c := ((assemble s started).follow plan s turns).value
    (c.follow plan s (c.oneByOne started)).value.stepsLeft x = 0 := by
  intro c
  have hturns : c.stepsLeft x = (assemble s started).stepsLeft x - turns.count x :=
    ((follow_spec plan s (assemble s started) turns).2 x).2.2
  have hends := ((follow_spec plan s c (c.oneByOne started)).2 x).2.2
  by_cases hx : x ∈ started
  · have hcount := stepsLeft_le_count_oneByOne c hx
    omega
  · have hstart : (assemble s started).stepsLeft x = 0 := by
      simp [Crew.stepsLeft, assemble, hx]
    omega

end Crew

end PowerDiscovery.Run
