import PowerDiscovery.Proofs.Budget.Granted

/-! # Calls of a budget

A budget is called to override its value, to open and to close.  Each call is told by what it leaves and by
what it answers; a call that fails leaves everything as it was. -/

namespace PowerDiscovery.Budget

namespace AtGate

/-- The semaphore that stands at the gate while a budget is open. -/
def granted (s : AtGate) : Semaphore := s.gate.next (capped s.budget.value)

def opened (s : AtGate) : AtGate :=
  { budget := { s.budget with value := capped s.budget.value, own := some s.granted }
    gate := s.gate.install (capped s.budget.value) }

theorem openUp_eq (s : AtGate) : s.openUp.value =
    if s.budget.isOpen then .error .alreadyOpen
    else if (capped s.budget.value).amount < 0 then .error .negative
    else .ok s.opened := by
  by_cases hopen : s.budget.isOpen = true
  · simp [openUp, hopen]
  · by_cases hnegative : (capped s.budget.value).amount < 0 <;>
      by_cases hlarge : s.budget.value.amount > maxSlots <;>
      by_cases hforeign : s.gate.installed.isSome = true <;>
      simp [openUp, opened, granted, hopen, hnegative, hlarge, hforeign]

theorem openUp_eq_ok {s bench : AtGate} (h : s.openUp.value = .ok bench) : bench = s.opened := by
  rw [openUp_eq] at h
  split at h
  · cases h
  · split at h
    · cases h
    · exact (Except.ok.inj h).symm

theorem openUp_value {s : AtGate} (hclosed : s.budget.own = none) (hslots : 0 ≤ s.budget.value.amount) :
    ∃ bench, s.openUp.value = .ok bench ∧ bench.gate.installed = some s.granted := by
  have hopen : ¬ s.budget.isOpen = true := by simp [Budget.isOpen, hclosed]
  have hcapped : ¬ (capped s.budget.value).amount < 0 := by
    rw [capped_neg_iff]
    omega
  refine ⟨s.opened, ?_, rfl⟩
  rw [openUp_eq, if_neg hopen, if_neg hcapped]

theorem close_eq (s : AtGate) : s.close.value =
    { budget := { s.budget with own := none }
      gate := if s.budget.isOpen ∧ s.gate.installed = s.budget.own then s.gate.remove else s.gate } := by
  obtain ⟨⟨value, fdLimit, own⟩, gate⟩ := s
  cases own with
  | none => simp [close, isOpen]
  | some own => simp [close, isOpen]

theorem close_opened (s : AtGate) :
    s.opened.close.value =
      { budget := { s.budget with value := capped s.budget.value, own := none }
        gate := { installed := none, issued := s.gate.issued + 1 } } := by
  simp [opened, close, Gate.install, Gate.remove, granted]

end AtGate

inductive Call where
  | override (request : Value)
  | openUp
  | close

/-- What a call answers: the value in force, the semaphore that was made, nothing, or why it failed. -/
inductive Answer where
  | value (v : Count)
  | semaphore (own : Semaphore)
  | nothing
  | refused (e : Error)
  | failed (f : Fault)

/-- The semaphore that a call has made, if it opened the budget. -/
def Answer.semaphore? : Answer → Option Semaphore
  | .semaphore own => some own
  | _ => none

/-- A number that a request asks for and that can be granted. -/
def Grants (request : Value) (n : Int) : Prop :=
  ∃ words, request.written = .ok words ∧ Numeral.read? (Text.trim words) = some n ∧
    0 < n ∧ n < 0x7FFFFFFFFFFFFFFF

namespace AtGate

def call (s : AtGate) : Call → AtGate × Answer
  | .override request => match (s.budget.override request).value with
    | .ok b => ({ s with budget := b }, .value b.value)
    | .error f => (s, .failed f)
  | .openUp => match s.openUp.value with
    | .ok s' => (s', (s'.budget.own.map Answer.semaphore).getD .nothing)
    | .error e => (s, .refused e)
  | .close => (s.close.value, .nothing)

def after (s : AtGate) (calls : List Call) : AtGate := calls.foldl (fun s c => (s.call c).1) s

@[simp] theorem after_nil (s : AtGate) : s.after [] = s := rfl

@[simp] theorem after_cons (s : AtGate) (c : Call) (calls : List Call) :
    s.after (c :: calls) = (s.call c).1.after calls := rfl

variable (s : AtGate)

theorem call_granted {request : Value} {n : Int} (h : Grants request n) :
    let b := { s.budget with value := (Count.number n).clamp s.budget.fdLimit }
    s.call (.override request) = ({ s with budget := b }, .value b.value) := by
  obtain ⟨words, hwords, hn⟩ := h
  have hvalue := s.budget.override_value request
  rw [hwords] at hvalue
  simp only [Except.bind, requestedCount?_eq_some.mpr hn] at hvalue
  simp only [call, hvalue]

/-- A request that cannot be granted changes nothing.  It is answered with the value in force, if the request
and this value can be shown. -/
theorem call_refused {request : Value} (h : ∀ n, ¬ Grants request n) :
    s.call (.override request) = (s,
      if request.isWritable && s.budget.value.toValue.isWritable then .value s.budget.value
      else .failed .unwritable) := by
  have hvalue := s.budget.override_value request
  cases hrequest : request.isWritable with
  | false =>
    simp only [Value.written, hrequest, Bool.false_eq_true, if_false, Except.bind] at hvalue
    simp only [call, hvalue, Bool.false_and, Bool.false_eq_true, if_false]
  | true =>
    have hwords : request.written = .ok request.display := if_pos hrequest
    have hcount : requestedCount? request.display = none := by
      rw [Option.eq_none_iff_forall_ne_some]
      intro n hn
      exact h n ⟨_, hwords, requestedCount?_eq_some.mp hn⟩
    rw [hwords] at hvalue
    simp only [Except.bind, hcount] at hvalue
    cases hkept : s.budget.value.toValue.isWritable with
    | false =>
      simp only [Value.written, hkept, Bool.false_eq_true, if_false, Except.map] at hvalue
      simp only [call, hvalue, Bool.and_false, Bool.false_eq_true, if_false]
    | true =>
      simp only [Value.written, hkept, if_true, Except.map] at hvalue
      simp only [call, hvalue, Bool.and_self, if_true]

theorem call_openUp : s.call .openUp =
    if s.budget.isOpen then (s, .refused .alreadyOpen)
    else if s.budget.value.amount < 0 then (s, .refused .negative)
    else (s.opened, .semaphore s.granted) := by
  simp only [call, openUp_eq, capped_neg_iff]
  by_cases hopen : s.budget.isOpen = true
  · simp only [if_pos hopen]
  · by_cases hnegative : s.budget.value.amount < 0
    · simp only [if_neg hopen, if_pos hnegative]
    · simp only [if_neg hopen, if_neg hnegative]
      rfl

theorem call_openUp_of_closed (hclosed : s.budget.isOpen = false) (hslots : 0 ≤ s.budget.value.amount) :
    s.call .openUp = (s.opened, .semaphore s.granted) := by
  rw [call_openUp, if_neg (by simp [hclosed]), if_neg (by omega)]

/-- A call opens the budget with a new semaphore, or closes it, or changes neither its semaphore nor the
gate. -/
theorem call_cases (c : Call) :
    (c = .openUp ∧ s.budget.own = none ∧ s.call c = (s.opened, .semaphore s.granted)) ∨
      (c = .close ∧ s.call c = (s.close.value, .nothing)) ∨
      (c ≠ .close ∧ (s.call c).2.semaphore? = none ∧ (s.call c).1.budget.own = s.budget.own ∧
        (s.call c).1.gate = s.gate) := by
  cases c with
  | close => exact .inr (.inl ⟨rfl, rfl⟩)
  | openUp =>
    rw [call_openUp]
    split
    · exact .inr (.inr ⟨nofun, rfl, rfl, rfl⟩)
    · rename_i hclosed
      split
      · exact .inr (.inr ⟨nofun, rfl, rfl, rfl⟩)
      · refine .inl ⟨rfl, ?_, rfl⟩
        simpa [isOpen] using hclosed
  | override request =>
    refine .inr (.inr ⟨nofun, ?_⟩)
    by_cases hrequest : ∃ n, Grants request n
    · obtain ⟨n, hn⟩ := hrequest
      rw [s.call_granted hn]
      exact ⟨rfl, rfl, rfl⟩
    · rw [s.call_refused fun n hn => hrequest ⟨n, hn⟩]
      split <;> exact ⟨rfl, rfl, rfl⟩

end AtGate

end PowerDiscovery.Budget
