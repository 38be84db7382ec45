import Mathlib.Data.List.Basic
import PowerDiscovery.Proofs.Run.Requests
import PowerDiscovery.Run.Dispatch

/-! # What dispatch starts

Dispatch goes through the backends that take part and asks no engine.  It starts a worker for each one
whose slot is free and whose worker can be started; the others leave the run and give back what they had
claimed. -/

namespace PowerDiscovery.Run

open Event

variable (plan : Plan) (s : State)

@[simp] theorem requestsTo_progress (text : String) (x : Backend) :
    requestsTo x (progress plan text).events = [] := by
  unfold progress
  split <;> simp

@[simp] theorem requestsTo_refuseStart (b : Backend) (message : String) (x : Backend) :
    requestsTo x (refuseStart s b message).events = [] := rfl

theorem requestsTo_dispatch (bs : List Backend) (x : Backend) :
    requestsTo x (dispatch plan s bs).events = [] := by
  induction bs generalizing s with
  | nil => rfl
  | cons b bs ih =>
    simp only [dispatch, Traced.bind_events, requestsTo_append, requestsTo_progress, List.nil_append]
    split
    · simp [ih]
    · simp [ih]
    · split <;> simp [ih]

theorem dispatch_value_congr {p q : Plan} (h : ∀ b, startFault p b = startFault q b)
    (bs : List Backend) : (dispatch p s bs).value = (dispatch q s bs).value := by
  induction bs generalizing s with
  | nil => rfl
  | cons b bs ih =>
    simp only [dispatch, Traced.bind_value, h b]
    split
    · exact ih _
    · simp only [Traced.bind_value, Traced.pure_value, ih]
    · split
      · exact ih _
      · rfl

/-- Whether a worker is started for a backend: its slot is free, and nothing keeps the worker from being
started. -/
def starts (b : Backend) : Bool := !s.slots.claimed b && (startFault plan b).isNone

structure Starts (bs : List Backend) (d : Dispatched) : Prop where
  failure : d.failure = none
  started : d.started = bs.filter (starts plan s)
  slots : d.state.slots = { s.slots with claimed := fun b => s.slots.claimed b || d.started.contains b }
  registry : d.state.registry = s.registry
  bench : d.state.bench = s.bench

private theorem claim_eq_ok {slots slots' : Slots} {b : Backend} (h : slots.claim b = .ok slots') :
    slots.claimed b = false ∧
      slots' = { slots with claimed := Backend.updated slots.claimed b true } := by
  unfold Slots.claim at h
  split at h
  · cases h
  · rename_i hfree
    cases h
    exact ⟨by simpa using hfree, rfl⟩

private theorem claim_eq_error {slots : Slots} {b : Backend} {e : Slots.Error}
    (h : slots.claim b = .error e) : slots.claimed b = true := by
  unfold Slots.claim at h
  split at h
  · assumption
  · cases h

private theorem abandon_claimed {slots : Slots} {b : Backend} (hfree : slots.claimed b = false) :
    Slots.abandon { slots with claimed := Backend.updated slots.claimed b true } b = slots := by
  have hclaimed : Backend.updated (Backend.updated slots.claimed b true) b false = slots.claimed := by
    funext x
    by_cases hx : x = b
    · subst hx
      simp [hfree]
    · simp [Backend.updated_of_ne, hx]
  simp only [Slots.abandon, hclaimed]

theorem dispatch_starts {bs : List Backend} (hnodup : bs.Nodup)
    (hdone : (dispatch plan s bs).value.failure = none) :
    Starts plan s bs (dispatch plan s bs).value := by
  induction bs generalizing s with
  | nil => exact ⟨rfl, rfl, by simp [dispatch], rfl, rfl⟩
  | cons b bs ih =>
    obtain ⟨hb, hbs⟩ := List.nodup_cons.mp hnodup
    simp only [dispatch, Traced.bind_value] at hdone ⊢
    revert hdone
    split <;> intro hdone
    · -- The slot of the backend is taken.
      rename_i e hclaim
      have hstarts : starts plan s b = false := by simp [starts, claim_eq_error hclaim]
      obtain ⟨hfailure, hstarted, hslots, hregistry, hbench⟩ := ih (s.disable b) hbs hdone
      refine ⟨hfailure, ?_, hslots, hregistry, hbench⟩
      simp only [List.filter_cons, hstarts, Bool.false_eq_true, if_false]
      exact hstarted
    · -- The worker is started.
      rename_i slots hclaim hfault
      obtain ⟨hfree, rfl⟩ := claim_eq_ok hclaim
      have hstarts : starts plan s b = true := by simp [starts, hfree, hfault]
      obtain ⟨hfailure, hstarted, hslots, hregistry, hbench⟩ := ih _ hbs hdone
      refine ⟨hfailure, ?_, ?_, hregistry, hbench⟩
      · simp only [Traced.bind_value, Traced.pure_value, List.filter_cons, hstarts, if_true, hstarted]
        congr 1
        refine List.filter_congr fun x hx => ?_
        have hne : x ≠ b := fun h => hb (h ▸ hx)
        simp [starts, Backend.updated_of_ne, hne]
      · simp only [Traced.bind_value, Traced.pure_value, hslots]
        congr 1
        funext x
        by_cases hx : x = b
        · subst hx
          simp
        · simp [Backend.updated_of_ne, hx]
    · -- The worker cannot be started.
      rename_i slots f hclaim hfault
      obtain ⟨hfree, rfl⟩ := claim_eq_ok hclaim
      have hstarts : starts plan s b = false := by simp [starts, hfault]
      rw [abandon_claimed hfree] at hdone ⊢
      revert hdone
      split <;> intro hdone
      · obtain ⟨hfailure, hstarted, hslots, hregistry, hbench⟩ := ih (s.disable b) hbs hdone
        refine ⟨hfailure, ?_, hslots, hregistry, hbench⟩
        simp only [List.filter_cons, hstarts, Bool.false_eq_true, if_false]
        exact hstarted
      · cases hdone

private theorem dispatch_failure (hstart : ∀ b f, startFault plan b = some f → f.spoilsStart)
    (bs : List Backend) : (dispatch plan s bs).value.failure = none := by
  induction bs generalizing s with
  | nil => rfl
  | cons b bs ih =>
    simp only [dispatch, Traced.bind_value]
    split
    · exact ih _
    · exact ih _
    · rename_i slots f hclaim hfault
      rw [if_pos (hstart b f hfault)]
      exact ih _

theorem dispatch_spec (hstart : ∀ b f, startFault plan b = some f → f.spoilsStart)
    {bs : List Backend} (hnodup : bs.Nodup) : Starts plan s bs (dispatch plan s bs).value :=
  dispatch_starts plan s hnodup (dispatch_failure plan s hstart bs)

end PowerDiscovery.Run
