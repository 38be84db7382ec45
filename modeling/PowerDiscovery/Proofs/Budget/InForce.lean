import Mathlib.Data.List.Induction
import PowerDiscovery.Proofs.Budget.Calls

/-! # The value in force

A budget has the value that was granted last, or else the default, cut down to what the limit on open files
leaves room for, and to what a semaphore can hold once the budget has been opened with it. -/

namespace PowerDiscovery.Budget

private theorem make_value (default : Count) (fdLimit : Option Int) : (make default fdLimit).value =
    if default.clamp fdLimit = default then .ok { value := default, fdLimit := fdLimit }
    else default.toValue.written.map fun _ => { value := default.clamp fdLimit, fdLimit := fdLimit } := by
  simp only [make]
  split
  · rename_i hfits
    rw [hfits]
    rfl
  · cases default.toValue.written <;> rfl

variable {default : Count} {given : Option Int} {system : FileLimit} {b : Budget}

private theorem establish_eq_ok (h : (establish default given system).value = .ok b) :
    b = { value := default.clamp (given.or system.soft?), fdLimit := given.or system.soft? } := by
  cases given with
  | some limit => exact make_eq_ok h
  | none =>
    simp only [establish, Traced.bind_value] at h
    by_cases hbroken : system.BreaksOff
    · obtain ⟨f, hf⟩ := system.read_value.2 hbroken
      rw [hf] at h
      cases h
    · rw [system.read_value.1 hbroken] at h
      exact make_eq_ok h

private theorem exists_make_iff (default : Count) (fdLimit : Option Int) :
    (∃ b, (make default fdLimit).value = .ok b) ↔
      default.toValue.isWritable = true ∨ Count.fit fdLimit default.amount = default.amount := by
  rw [make_value, ← Count.clamp_eq_self_iff, Value.written]
  by_cases hfits : default.clamp fdLimit = default
  · simp [hfits]
  · cases default.toValue.isWritable <;> simp [hfits, Except.map]

/-- A budget can be made unless the system breaks off, or the default is cut down and cannot be shown. -/
private theorem exists_establish_iff : (∃ b, (establish default given system).value = .ok b) ↔
    (given = none → ¬ system.BreaksOff) ∧ (default.toValue.isWritable = true ∨
      Count.fit (given.or system.soft?) default.amount = default.amount) := by
  cases given with
  | some limit => exact (exists_make_iff default (some limit)).trans (by simp)
  | none =>
    simp only [establish, Traced.bind_value]
    by_cases hbroken : system.BreaksOff
    · obtain ⟨f, hf⟩ := system.read_value.2 hbroken
      simp [hf, hbroken]
    · simpa [system.read_value.1 hbroken, hbroken] using exists_make_iff default system.soft?

private theorem establish_zero (default : Count) (system : FileLimit) :
    (establish default (some 0) system).value = .ok { value := default, fdLimit := some 0 } :=
  (make_value default (some 0)).trans (if_pos rfl)

/-- Whether the last of some calls is one that sets the value, to a number; before any call it is the
default. -/
inductive Sets (default : Int) : List Call → Int → Prop where
  | start : Sets default [] default
  | override (calls : List Call) {request : Value} {n : Int} (h : Grants request n) :
    Sets default (calls ++ [.override request]) n

def Keeps (calls : List Call) : Prop :=
  ∀ request n, .override request ∈ calls → ¬ Grants request n

private theorem keeps_nil : Keeps [] := by
  intro request n hmem
  cases hmem

theorem Keeps.concat {calls : List Call} {c : Call} (h : Keeps calls)
    (hc : ∀ request n, c = .override request → ¬ Grants request n) : Keeps (calls ++ [c]) := by
  intro request n hmem
  rcases List.mem_append.mp hmem with hmem | hlast
  · exact h request n hmem
  · exact hc request n (List.mem_singleton.mp hlast).symm

namespace AtGate

def opens (s : AtGate) : List Call → Bool
  | [] => false
  | c :: calls => (s.call c).2.semaphore?.isSome || (s.call c).1.opens calls

private theorem opens_concat (s : AtGate) (calls : List Call) (c : Call) :
    s.opens (calls ++ [c]) = (s.opens calls || ((s.after calls).call c).2.semaphore?.isSome) := by
  induction calls generalizing s with
  | nil => simp [opens]
  | cons first calls ih => simp [opens, ih, Bool.or_assoc]

theorem after_concat (s : AtGate) (calls : List Call) (c : Call) :
    s.after (calls ++ [c]) = ((s.after calls).call c).1 := by
  simp [after]

/-- A call that sets no value cuts it down to what a semaphore can hold if it opens the budget, and leaves it
otherwise. -/
private theorem call_kept (s : AtGate) {c : Call} (hc : ∀ request n, c = .override request → ¬ Grants request n) :
    (s.call c).1.budget.fdLimit = s.budget.fdLimit ∧ (s.call c).1.budget.value.amount =
      if (s.call c).2.semaphore?.isSome then min s.budget.value.amount maxSlots
      else s.budget.value.amount := by
  cases c with
  | override request =>
    rw [s.call_refused fun n => hc request n rfl]
    refine ⟨rfl, ?_⟩
    split
    · split <;> simp_all [Answer.semaphore?]
    · rfl
  | openUp =>
    rw [call_openUp]
    split
    · exact ⟨rfl, rfl⟩
    · split
      · exact ⟨rfl, rfl⟩
      · exact ⟨rfl, capped_amount s.budget.value⟩
  | close =>
    simp only [call, close_eq]
    exact ⟨trivial, rfl⟩

/-- The value is the number that was set last, cut down to what the limit on open files leaves room for, and
to what a semaphore can hold if the budget has been opened with it. -/
private theorem after_value (s : AtGate) {fdLimit : Option Int} {default : Int}
    (hlimit : s.budget.fdLimit = fdLimit)
    (hs : s.budget.value.amount = Count.fit fdLimit default) (calls : List Call) :
    (s.after calls).budget.fdLimit = fdLimit ∧
      ∃ earlier later n, calls = earlier ++ later ∧ Sets default earlier n ∧ Keeps later ∧
        (s.after calls).budget.value.amount =
          if (s.after earlier).opens later then min (Count.fit fdLimit n) maxSlots
          else Count.fit fdLimit n := by
  -- The last call is looked at first: it sets the value, or the value is the one before, perhaps cut down.
  induction calls using List.reverseRecOn with
  | nil =>
    refine ⟨hlimit, [], [], default, rfl, .start, keeps_nil, ?_⟩
    simpa [opens] using hs
  | append_singleton calls c ih =>
    obtain ⟨hbefore, earlier, later, n, hcalls, hsets, hkeeps, hvalue⟩ := ih
    by_cases hc : ∃ request k, c = .override request ∧ Grants request k
    · obtain ⟨request, k, rfl, hk⟩ := hc
      rw [after_concat, call_granted _ hk]
      refine ⟨hbefore, calls ++ [.override request], [], k, by simp, .override calls hk, keeps_nil, ?_⟩
      rw [← hbefore]
      exact Count.clamp_amount_eq_fit _ _
    · have hc' : ∀ request k, c = .override request → ¬ Grants request k :=
        fun request k hrequest hk => hc ⟨request, k, hrequest, hk⟩
      obtain ⟨hkept, hcut⟩ := (s.after calls).call_kept hc'
      have hstate : (s.after earlier).after later = s.after calls := by
        rw [hcalls, after, after, after, List.foldl_append]
      rw [after_concat]
      refine ⟨hkept.trans hbefore, earlier, later ++ [c], n, by simp [hcalls], hsets, hkeeps.concat hc', ?_⟩
      rw [opens_concat, hstate, hcut, hvalue]
      cases (s.after earlier).opens later <;> simp

end AtGate

private theorem Sets.pos {default n : Int} {calls : List Call} (hdefault : 1 ≤ default) (h : Sets default calls n) :
    1 ≤ n := by
  cases h with
  | start => exact hdefault
  | override calls h =>
    obtain ⟨words, hwords, hread, hpos, hlt⟩ := h
    exact hpos

/-- A budget can be made with a default of one or more unless the system breaks off or the default would be
cut down but cannot be shown.  After any calls the value in force is the one that was granted last, cut down,
and never less than one.  A request that can be granted sets the value; any other one leaves everything as it
was, and is answered with the value in force unless the request or this value cannot be shown.  An open budget
refuses to open, and a closed one opens with as many slots as its value says. -/
theorem in_force_after (default : Count) (hdefault : 1 ≤ default.amount) (given : Option Int)
    (system : FileLimit) :
    let fdLimit := given.or system.soft?
    ((∃ b, (establish default given system).value = .ok b) ↔ (given = none → ¬ system.BreaksOff) ∧
      (default.toValue.isWritable = true ∨ Count.fit fdLimit default.amount = default.amount)) ∧
    ∀ b, (establish default given system).value = .ok b → ∀ (gate : Gate) (calls : List Call),
      let s := (AtGate.mk b gate).after calls
      (∃ earlier later n, calls = earlier ++ later ∧ Sets default.amount earlier n ∧ Keeps later ∧
        s.budget.value.amount =
          if ((AtGate.mk b gate).after earlier).opens later then min (Count.fit fdLimit n) maxSlots
          else Count.fit fdLimit n) ∧
      1 ≤ s.budget.value.amount ∧
      (∀ limit, fdLimit = some limit → 0 < limit → s.budget.value.amount ≤ max (limit - 3) 1) ∧
      (∀ request n, Grants request n →
        let granted := (Count.number n).clamp fdLimit
        s.call (.override request) = ({ s with budget.value := granted }, .value granted)) ∧
      (∀ request, (∀ n, ¬ Grants request n) → s.call (.override request) = (s,
        if request.isWritable && s.budget.value.toValue.isWritable then .value s.budget.value
        else .failed .unwritable)) ∧
      (s.budget.isOpen = true → s.call .openUp = (s, .refused .alreadyOpen)) ∧
      (s.budget.isOpen = false → ∃ own, s.call .openUp = (s.opened, .semaphore own) ∧
        own.slots = s.opened.budget.value ∧ s.opened.gate.installed = some own ∧
        own.slots.amount = min s.budget.value.amount maxSlots) := by
  intro fdLimit
  refine ⟨exists_establish_iff, ?_⟩
  intro b hb gate calls s
  have hmade := establish_eq_ok hb
  have hunder : b.fdLimit = fdLimit := by rw [hmade]
  have hstart : b.value.amount = Count.fit fdLimit default.amount := by
    rw [hmade]
    exact Count.clamp_amount_eq_fit _ _
  obtain ⟨hlimit, earlier, later, n, hcalls, hsets, hkeeps, hvalue⟩ :=
    AtGate.after_value (AtGate.mk b gate) hunder hstart calls
  have hfit := Count.one_le_fit fdLimit (hsets.pos hdefault)
  have hmax : 1 ≤ maxSlots := by decide
  have hpos : 1 ≤ s.budget.value.amount := by
    rw [hvalue]
    split <;> omega
  refine ⟨⟨earlier, later, n, hcalls, hsets, hkeeps, hvalue⟩, hpos, ?_, ?_, ?_, ?_, ?_⟩
  · intro limit hgiven hcounts
    have hroom := Count.fit_le hcounts n
    rw [← hgiven] at hroom
    rw [hvalue]
    split <;> omega
  · intro request k hk
    rw [← hlimit]
    exact s.call_granted hk
  · intro request hrequest
    exact s.call_refused hrequest
  · intro hopen
    rw [AtGate.call_openUp, if_pos hopen]
  · intro hclosed
    have hslots : 0 ≤ s.budget.value.amount := by omega
    exact ⟨s.granted, s.call_openUp_of_closed hclosed hslots, rfl, rfl, capped_amount _⟩

/-- A budget can be made with a default of too many digits when no limit cuts it down; the first request that
cannot be granted then fails, as it has to show the value that is kept. -/
theorem in_force_after_unwritable :
    let s : AtGate := ⟨{ value := .number (Nat.pow 10 4300), fdLimit := some 0 }, {}⟩
    1 ≤ s.budget.value.amount ∧ (establish s.budget.value (some 0) .absent).value = .ok s.budget ∧
      (∀ n, ¬ Grants (.text "abc") n) ∧ s.call (.override (.text "abc")) = (s, .failed .unwritable) := by
  intro s
  have hpos : 1 ≤ s.budget.value.amount := by decide +kernel
  have hmade : (establish s.budget.value (some 0) .absent).value = .ok s.budget := establish_zero _ _
  have hrequest : ∀ n, ¬ Grants (.text "abc") n := by
    rintro n ⟨words, hwords, hread, hrange⟩
    cases hwords
    cases hread
  have hhuge : s.budget.value.toValue.isWritable = false := by decide +kernel
  have hafter := (in_force_after _ hpos (some 0) .absent).2 _ hmade s.gate []
  have hanswer := hafter.2.2.2.2.1 _ hrequest
  refine ⟨hpos, hmade, hrequest, ?_⟩
  simpa [s.after_nil, hhuge] using hanswer

end PowerDiscovery.Budget
