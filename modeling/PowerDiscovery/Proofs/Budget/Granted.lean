import PowerDiscovery.Budget.Basic

/-! # The slots that a budget grants

How many slots come of a number that is asked for, by default or by an operator.  Whatever the system says
about its files, a semaphore is made with one slot at least. -/

namespace PowerDiscovery

/-- A number cut down to what a limit on open files leaves room for. -/
def Count.fit (fdLimit : Option Int) (n : Int) : Int :=
  match fdLimit with
  | some limit => if 0 < limit then min n (max (limit - 3) 1) else n
  | none => n

namespace Count

variable {fdLimit : Option Int} {n : Int}

theorem clamp_amount_eq_fit (v : Count) (fdLimit : Option Int) :
    (v.clamp fdLimit).amount = fit fdLimit v.amount := by
  cases fdLimit with
  | none => rfl
  | some limit =>
    simp only [clamp, fit, Bool.or_eq_true, decide_eq_true_eq]
    split
    · rename_i hfits
      simp only [ceiling, reserve] at hfits
      split <;> omega
    · rename_i hfits
      simp only [ceiling, reserve, not_or] at hfits
      rw [if_pos (by omega)]
      show max (limit - 3) 1 = _
      omega

theorem clamp_eq_self_iff (v : Count) (fdLimit : Option Int) :
    v.clamp fdLimit = v ↔ fit fdLimit v.amount = v.amount := by
  rw [← clamp_amount_eq_fit]
  constructor
  · intro h
    rw [h]
  · intro h
    cases fdLimit with
    | none => rfl
    | some limit =>
      simp only [clamp] at h ⊢
      split at h
      · rename_i hfits
        exact if_pos hfits
      · rename_i hfits
        have hceiling : ceiling limit = v.amount := h
        simp only [Bool.or_eq_true, decide_eq_true_eq, not_or] at hfits
        omega

theorem one_le_fit (fdLimit : Option Int) (h : 1 ≤ n) : 1 ≤ fit fdLimit n := by
  unfold fit
  split
  · split <;> omega
  · exact h

theorem fit_le {limit : Int} (h : 0 < limit) (n : Int) : fit (some limit) n ≤ max (limit - 3) 1 := by
  simp only [fit, if_pos h]
  omega

end Count

namespace FileLimit

/-- Whether the system fails to tell its limit in a way that is no refusal. -/
def BreaksOff (system : FileLimit) : Prop :=
  ∃ cause, system = .failing cause ∧ cause.isSystem = false ∧ cause.isValue = false

/-- The soft limit that counts, if the system tells one. -/
def soft? : FileLimit → Option Int
  | .given soft _ => if soft = -1 then none else some soft
  | _ => none

theorem read_value (system : FileLimit) :
    (¬ system.BreaksOff → system.read.value = .ok system.soft?) ∧
      (system.BreaksOff → ∃ f, system.read.value = .error f) := by
  constructor
  · intro h
    cases system with
    | absent => rfl
    | given soft hard => rfl
    | failing cause =>
      cases hrefusal : cause.isSystem || cause.isValue with
      | false => exact absurd ⟨cause, rfl, Bool.or_eq_false_iff.mp hrefusal⟩ h
      | true =>
        simp only [read, hrefusal, if_true]
        rfl
  · rintro ⟨cause, rfl, hsystem, hvalue⟩
    refine ⟨cause, ?_⟩
    simp only [read, hsystem, hvalue, Bool.or_self, Bool.false_eq_true, if_false]
    rfl

private theorem read_eq_ok {system : FileLimit} {fdLimit : Option Int} (h : system.read.value = .ok fdLimit) :
    fdLimit = system.soft? := by
  by_cases hbroken : system.BreaksOff
  · obtain ⟨f, hf⟩ := system.read_value.2 hbroken
    rw [hf] at h
    cases h
  · rw [system.read_value.1 hbroken] at h
    exact (Except.ok.inj h).symm

/-- The slots that are granted to one who asks for some number of them. -/
def within : FileLimit → Int → Int
  | .given soft _, n =>
    if 0 < soft then min n (min (max (soft - 3) 1) Budget.maxSlots) else min n Budget.maxSlots
  | _, n => min n Budget.maxSlots

private theorem within_eq_fit (limit : FileLimit) (n : Int) :
    limit.within n = min (Count.fit limit.soft? n) Budget.maxSlots := by
  cases limit with
  | absent => rfl
  | failing cause => rfl
  | given soft hard =>
    by_cases hsoft : soft = -1
    · subst hsoft
      rfl
    · simp only [within, soft?, hsoft, if_false, Count.fit]
      split
      · omega
      · rfl

theorem within_le (limit : FileLimit) (n : Int) : limit.within n ≤ Budget.maxSlots := by
  rw [within_eq_fit]
  omega

theorem within_given_le {soft : Int} (hard n : Int) (hsoft : 0 < soft) :
    (given soft hard).within n ≤ max (soft - 3) 1 := by
  simp only [within, if_pos hsoft]
  omega

theorem one_le_within (limit : FileLimit) {n : Int} (h : 1 ≤ n) : 1 ≤ limit.within n := by
  have hslots : 1 ≤ Budget.maxSlots := by decide
  have hfit := Count.one_le_fit limit.soft? h
  rw [within_eq_fit]
  omega

end FileLimit

namespace Budget

theorem capped_amount (v : Count) : (capped v).amount = min v.amount maxSlots := by
  unfold capped
  split
  · show maxSlots = min v.amount maxSlots
    omega
  · omega

theorem capped_neg_iff {v : Count} : (capped v).amount < 0 ↔ v.amount < 0 := by
  have hmax : 0 ≤ maxSlots := by decide
  rw [capped_amount]
  omega

/-- A count that is cut down to what the limit on open files leaves room for, and then to what a semaphore
can hold. -/
theorem capped_clamp_amount {limit : FileLimit} {fdLimit : Option Int}
    (h : limit.read.value = .ok fdLimit) (v : Count) :
    (capped (v.clamp fdLimit)).amount = limit.within v.amount := by
  rw [capped_amount, Count.clamp_amount_eq_fit, FileLimit.within_eq_fit, FileLimit.read_eq_ok h]

theorem make_eq_ok {default : Count} {fdLimit : Option Int} {b : Budget}
    (h : (make default fdLimit).value = .ok b) :
    b = { value := default.clamp fdLimit, fdLimit := fdLimit } := by
  simp only [make] at h
  split at h
  · exact (Except.ok.inj h).symm
  · split at h
    · cases h
    · exact (Except.ok.inj h).symm

private theorem grant_value (b : Budget) (request : String) (n : Int) :
    (b.grant request n).value = { b with value := (Count.number n).clamp b.fdLimit } := by
  simp only [grant]
  split <;> rfl

theorem requestedCount?_eq_some {t : String} {n : Int} :
    requestedCount? t = some n ↔ Numeral.read? (Text.trim t) = some n ∧ 0 < n ∧ n < 0x7FFFFFFFFFFFFFFF := by
  unfold requestedCount?
  cases Numeral.read? (Text.trim t) with
  | none => simp
  | some k =>
    rw [Option.ite_none_right_eq_some, Option.some.injEq, Bool.and_eq_true, decide_eq_true_eq,
      decide_eq_true_eq]
    constructor
    · rintro ⟨hrange, rfl⟩
      exact ⟨rfl, hrange⟩
    · rintro ⟨rfl, hrange⟩
      exact ⟨hrange, rfl⟩

/-- A request that names a number in range replaces the value; any other one leaves it, and has it shown. -/
theorem override_value (b : Budget) (request : Value) : (b.override request).value =
    request.written.bind fun words => match requestedCount? words with
      | none => b.value.toValue.written.map fun _ => b
      | some n => .ok { b with value := (Count.number n).clamp b.fdLimit } := by
  simp only [override]
  cases request.written with
  | error f => rfl
  | ok words =>
    simp only [Except.bind]
    cases requestedCount? words with
    | none =>
      simp only [refuse]
      cases b.value.toValue.written <;> rfl
    | some n =>
      simp only [Traced.map_value, grant_value]

theorem override_eq_ok {b b' : Budget} {request : Value} (h : (b.override request).value = .ok b') :
    b' = match requestedCount? request.display with
      | none => b
      | some n => { b with value := (Count.number n).clamp b.fdLimit } := by
  rw [override_value, Value.written] at h
  split at h
  · simp only [Except.bind] at h
    cases hcount : requestedCount? request.display with
    | none =>
      rw [hcount] at h
      cases hkept : b.value.toValue.written with
      | error f =>
        rw [hkept] at h
        cases h
      | ok kept =>
        rw [hkept] at h
        exact (Except.ok.inj h).symm
    | some n =>
      rw [hcount] at h
      exact (Except.ok.inj h).symm
  · cases h

end Budget

end PowerDiscovery
