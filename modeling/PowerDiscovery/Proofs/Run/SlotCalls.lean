import Mathlib.Data.List.Induction
import PowerDiscovery.Slots

/-! # Calls of result slots

Slots are asked to claim, to store, to abandon, to release and to tell what they hold, in any order and also by
those who have not claimed anything.  What a slot holds, and whether it is claimed, can be told from the calls
so far: the devices are those that were stored last, unless they were released, and a claim lasts until devices
are stored or the claim is abandoned. -/

namespace PowerDiscovery.Slots

inductive Call where
  | claim (b : Backend)
  | store (b : Backend) (devices : List Device)
  | abandon (b : Backend)
  | release (b : Backend)
  | get (b : Backend)
  | total

/-- What a call answers: nothing, the devices of a slot, the number of all devices, or why it is refused. -/
inductive Answer where
  | nothing
  | devices (found : List Device)
  | number (n : Nat)
  | refused (e : Error)

namespace Call

def backend? : Call → Option Backend
  | claim b | store b _ | abandon b | release b | get b => some b
  | total => none

/-- Whether a call ends a claim of the slot of a backend. -/
def Frees (c : Call) (b : Backend) : Prop := c = abandon b ∨ ∃ devices, c = store b devices

/-- Whether a call puts a new list into the slot of a backend. -/
def Fills (c : Call) (b : Backend) : Prop := c = release b ∨ ∃ devices, c = store b devices

theorem about {c : Call} {b : Backend} (h : c.backend? = some b) : c = claim b ∨
    (∃ devices, c = store b devices) ∨ c = abandon b ∨ c = release b ∨ c = get b := by
  cases c with
  | total => cases h
  | _ =>
    cases h
    simp

end Call

def call (s : Slots) : Call → Slots × Answer
  | .claim b => match s.claim b with
    | .ok s' => (s', .nothing)
    | .error e => (s, .refused e)
  | .store b devices => (s.store b devices, .nothing)
  | .abandon b => (s.abandon b, .nothing)
  | .release b => (s.release b, .nothing)
  | .get b => (s, .devices (s.found b))
  | .total => (s, .number s.total)

def after (s : Slots) (calls : List Call) : Slots := calls.foldl (fun s c => (s.call c).1) s

/-- Whether a slot is held after some calls: a claim of it was granted, and no call has ended it since. -/
def Holds (calls : List Call) (b : Backend) : Prop :=
  ∃ before since, calls = before ++ .claim b :: since ∧
    ((({} : Slots).after before).call (.claim b)).2 = .nothing ∧ ∀ c ∈ since, ¬ c.Frees b

/-! ### What one call does -/

variable (s : Slots) (b : Backend)

private theorem call_claim_of_claimed (h : s.claimed b = true) :
    s.call (.claim b) = (s, .refused (.alreadyClaimed b)) := by
  simp [call, claim, h]

private theorem call_claim_of_free (h : s.claimed b = false) :
    s.call (.claim b) = ({ s with claimed := Backend.updated s.claimed b true }, .nothing) := by
  simp [call, claim, h]

private theorem call_claim_refused_iff :
    (s.call (.claim b)).2 = .refused (.alreadyClaimed b) ↔ s.claimed b = true := by
  cases h : s.claimed b with
  | false => simp [call_claim_of_free s b h]
  | true => simp [call_claim_of_claimed s b h]

private theorem call_claim_granted_iff : (s.call (.claim b)).2 = .nothing ↔ s.claimed b = false := by
  cases h : s.claimed b with
  | false => simp [call_claim_of_free s b h]
  | true => simp [call_claim_of_claimed s b h]

private theorem found_call_claim : (s.call (.claim b)).1.found = s.found := by
  cases h : s.claimed b with
  | false => rw [call_claim_of_free s b h]
  | true => rw [call_claim_of_claimed s b h]

private theorem claimed_call_claim : (s.call (.claim b)).1.claimed b = true := by
  cases h : s.claimed b with
  | false => simp [call_claim_of_free s b h]
  | true => simp [call_claim_of_claimed s b h, h]

variable {s b}

private theorem claimed_call_of_frees {c : Call} (h : c.Frees b) : (s.call c).1.claimed b = false := by
  rcases h with rfl | ⟨devices, rfl⟩
  · simp [call]
  · simp [call]

private theorem call_of_ne {c : Call} (h : c.backend? ≠ some b) :
    (s.call c).1.found b = s.found b ∧ (s.call c).1.claimed b = s.claimed b := by
  have hne (x : Backend) (hx : c.backend? = some x) : b ≠ x := fun hbx => h (hbx ▸ hx)
  cases c with
  | claim x =>
    have hx := hne x rfl
    cases hclaimed : s.claimed x with
    | false => simp [call_claim_of_free s x hclaimed, Backend.updated_of_ne, hx]
    | true => simp [call_claim_of_claimed s x hclaimed]
  | store x devices =>
    have hx := hne x rfl
    simp [call, Backend.updated_of_ne, hx]
  | abandon x =>
    have hx := hne x rfl
    simp [call, Backend.updated_of_ne, hx]
  | release x =>
    have hx := hne x rfl
    simp [call, Backend.updated_of_ne, hx]
  | get x => exact ⟨rfl, rfl⟩
  | total => exact ⟨rfl, rfl⟩

private theorem claimed_call_of_keeps {c : Call} (hclaim : c ≠ .claim b) (hfrees : ¬ c.Frees b) :
    (s.call c).1.claimed b = s.claimed b := by
  by_cases hb : c.backend? = some b
  · rcases Call.about hb with rfl | ⟨devices, rfl⟩ | rfl | rfl | rfl
    · exact absurd rfl hclaim
    · exact absurd (.inr ⟨devices, rfl⟩) hfrees
    · exact absurd (.inl rfl) hfrees
    · rfl
    · rfl
  · exact (call_of_ne hb).2

private theorem found_call_of_keeps {c : Call} (h : ¬ c.Fills b) : (s.call c).1.found b = s.found b := by
  by_cases hb : c.backend? = some b
  · rcases Call.about hb with rfl | ⟨devices, rfl⟩ | rfl | rfl | rfl
    · rw [found_call_claim]
    · exact absurd (.inr ⟨devices, rfl⟩) h
    · rfl
    · exact absurd (.inl rfl) h
    · rfl
  · exact (call_of_ne hb).1

private theorem total_eq (s : Slots) : s.total = (s.found .usb).length + (s.found .snmp).length +
    (s.found .xml).length + (s.found .nut).length + (s.found .nutSimulation).length +
    (s.found .avahi).length + (s.found .ipmi).length + (s.found .eatonSerial).length := by
  simp only [total, Backend.all, List.flatMap_cons, List.flatMap_nil, List.length_append, List.length_nil]
  omega

/-! ### What several calls do -/

private theorem after_append (s : Slots) (calls calls' : List Call) :
    s.after (calls ++ calls') = (s.after calls).after calls' := List.foldl_append

theorem after_concat (s : Slots) (calls : List Call) (c : Call) :
    s.after (calls ++ [c]) = ((s.after calls).call c).1 := by
  rw [after_append]
  rfl

private theorem holds_concat {calls : List Call} {c : Call} : Holds (calls ++ [c]) b ↔
    c = .claim b ∧ (({} : Slots).after calls).claimed b = false ∨ ¬ c.Frees b ∧ Holds calls b := by
  constructor
  · rintro ⟨before, since, hcalls, hgranted, hsince⟩
    rcases List.eq_nil_or_concat since with rfl | ⟨since, last, rfl⟩
    · obtain ⟨rfl, hc⟩ := List.append_inj' hcalls rfl
      exact .inl ⟨List.singleton_inj.mp hc, (call_claim_granted_iff _ b).mp hgranted⟩
    · have hend : calls ++ [c] = (before ++ .claim b :: since) ++ [last] := by simpa using hcalls
      obtain ⟨rfl, hc⟩ := List.append_inj' hend rfl
      rw [List.singleton_inj.mp hc]
      refine .inr ⟨hsince last (by simp), before, since, rfl, hgranted, ?_⟩
      intro x hx
      exact hsince x (by simp [hx])
  · rintro (⟨rfl, hfree⟩ | ⟨hkeeps, before, since, rfl, hgranted, hsince⟩)
    · exact ⟨calls, [], rfl, (call_claim_granted_iff _ b).mpr hfree, by simp⟩
    · refine ⟨before, since ++ [c], by simp, hgranted, ?_⟩
      intro x hx
      rcases List.mem_append.mp hx with hx | hx
      · exact hsince x hx
      · rw [List.mem_singleton.mp hx]
        exact hkeeps

private theorem claimed_iff_holds (calls : List Call) (b : Backend) :
    (({} : Slots).after calls).claimed b = true ↔ Holds calls b := by
  induction calls using List.reverseRecOn with
  | nil => exact iff_of_false Bool.false_ne_true (by rintro ⟨before, since, hcalls, -⟩; simp at hcalls)
  | append_singleton calls c ih =>
    rw [after_concat, holds_concat]
    by_cases hclaim : c = .claim b
    · rw [hclaim, claimed_call_claim]
      have hkeeps : ¬ (Call.claim b).Frees b := by rintro (h | ⟨devices, h⟩) <;> cases h
      refine iff_of_true rfl ?_
      cases hclaimed : (({} : Slots).after calls).claimed b with
      | false => exact .inl ⟨rfl, rfl⟩
      | true => exact .inr ⟨hkeeps, ih.mp hclaimed⟩
    · by_cases hfrees : c.Frees b
      · rw [claimed_call_of_frees hfrees]
        simp [hclaim, hfrees]
      · rw [claimed_call_of_keeps hclaim hfrees, ih]
        simp [hclaim, hfrees]

private theorem found_after_of_keeps (s : Slots) {calls : List Call} (h : ∀ c ∈ calls, ¬ c.Fills b) :
    (s.after calls).found b = s.found b := by
  induction calls generalizing s with
  | nil => rfl
  | cons c calls ih =>
    have hrest := ih (s.call c).1 fun x hx => h x (List.mem_cons_of_mem _ hx)
    exact hrest.trans (found_call_of_keeps (h c List.mem_cons_self))

private theorem found_after_store (before since : List Call) (devices : List Device)
    (h : ∀ c ∈ since, ¬ c.Fills b) :
    (({} : Slots).after (before ++ .store b devices :: since)).found b = devices := by
  rw [after_append]
  apply (found_after_of_keeps _ h).trans
  simp [call]

private theorem found_after_nothing (calls : List Call)
    (h : ∀ before devices since, calls = before ++ .store b devices :: since → .release b ∈ since) :
    (({} : Slots).after calls).found b = [] := by
  -- Seen from the last call: a release empties the slot, and no store can be the last call.
  induction calls using List.reverseRecOn with
  | nil => rfl
  | append_singleton calls c ih =>
    rw [after_concat]
    by_cases hfills : c.Fills b
    · rcases hfills with rfl | ⟨devices, rfl⟩
      · simp [call]
      · have hmem := h calls devices [] rfl
        cases hmem
    · rw [found_call_of_keeps hfills]
      apply ih
      rintro before devices since rfl
      have hmem := h before devices (since ++ [c]) (by simp)
      rcases List.mem_append.mp hmem with hmem | hlast
      · exact hmem
      · exact absurd (.inl (List.mem_singleton.mp hlast).symm) hfills

/-- What slots answer and hold after any calls, told from the calls alone. -/
theorem slots_by_history (calls : List Call) (b : Backend) :
    let s := ({} : Slots).after calls
    ((s.call (.claim b)).2 = .refused (.alreadyClaimed b) ↔ Holds calls b) ∧
    (Holds calls b → (s.call (.claim b)).1 = s) ∧
    (¬ Holds calls b → (s.call (.claim b)).2 = .nothing) ∧
    (∀ before devices since, calls = before ++ .store b devices :: since →
      (∀ c ∈ since, ¬ c.Fills b) → s.found b = devices) ∧
    ((∀ before devices since, calls = before ++ .store b devices :: since → .release b ∈ since) →
      s.found b = []) ∧
    s.call (.get b) = (s, .devices (s.found b)) ∧
    (s.call (.abandon b)).1.found = s.found ∧
    (s.call (.release b)).1.claimed = s.claimed ∧
    (∀ (c : Call) (other : Backend), c.backend? ≠ some other →
      (s.call c).1.found other = s.found other ∧ (s.call c).1.claimed other = s.claimed other) ∧
    s.call .total = (s, .number ((s.found .usb).length + (s.found .snmp).length + (s.found .xml).length +
      (s.found .nut).length + (s.found .nutSimulation).length + (s.found .avahi).length +
      (s.found .ipmi).length + (s.found .eatonSerial).length)) := by
  intro s
  have hclaimed : s.claimed b = true ↔ Holds calls b := claimed_iff_holds calls b
  rw [call_claim_refused_iff, ← hclaimed]
  refine ⟨Iff.rfl, ?_, ?_, ?_, found_after_nothing calls, rfl, rfl, rfl, ?_, ?_⟩
  · intro h
    rw [call_claim_of_claimed s b h]
  · intro h
    exact (call_claim_granted_iff s b).mpr (Bool.eq_false_iff.mpr h)
  · rintro before devices since rfl hsince
    exact found_after_store before since devices hsince
  · intro c other hother
    exact call_of_ne hother
  · exact congrArg (fun n => (s, Answer.number n)) (total_eq s)

-- Devices that are stored by someone who has not claimed the slot end the claim of whoever has.
example (devices : List Device) :
    ((({} : Slots).after [.claim .ipmi, .store .ipmi devices]).call (.claim .ipmi)).2 = .nothing := rfl

end PowerDiscovery.Slots
