import PowerDiscovery.Proofs.Discovery.Sweep

/-! # Slots shared by many parties

Whatever the parties of a traffic do, a slot is free or held by one of them.  A probe that holds a slot
goes on without another one, so that the traffic makes a step as long as one of its parties is not over,
and all slots are free again when all parties are over. -/

namespace PowerDiscovery

/-! ## Rounds -/

namespace Round

inductive Step (free : Nat) (r : Round) : Move → Nat → Round → Prop where
  | take (visit : Visit) (waiting : List Visit) (hh : r.held = none) (hw : r.waiting = visit :: waiting)
      (hfree : free ≠ 0) :
      Step free r .take (free - 1) { r with held := some (visit, .granted), waiting := waiting }
  | start (visit : Visit) (hh : r.held = some (visit, .granted)) :
      Step free r (.start visit.draw) free { r with held := some (visit, .running) }
  | finish (visit : Visit) (hh : r.held = some (visit, .running)) :
      Step free r (.finish visit.draw) free { r with held := some (visit, .ended) }
  | release (visit : Visit) (hh : r.held = some (visit, .ended)) :
      Step free r (.release visit.draw) (free + 1) (r.settle visit)

variable {free free' : Nat} {r r' : Round} {m : Move}

theorem step?_eq_some (h : r.step? free m = some (free', r')) : r.Step free m free' r' := by
  cases m with
  | read => cases h
  | take =>
    simp only [step?] at h
    split at h
    · rename_i visit waiting hh hw
      split at h
      · cases h
      · rename_i hfree
        cases h
        exact .take visit waiting hh hw hfree
    · cases h
  | start draw =>
    simp only [step?] at h
    split at h
    · rename_i visit hh
      split at h
      · rename_i hdraw
        cases h
        exact hdraw ▸ .start visit hh
      · cases h
    · cases h
  | finish draw =>
    simp only [step?] at h
    split at h
    · rename_i visit hh
      split at h
      · rename_i hdraw
        cases h
        exact hdraw ▸ .finish visit hh
      · cases h
    · cases h
  | release draw =>
    simp only [step?] at h
    split at h
    · rename_i visit hh
      split at h
      · rename_i hdraw
        cases h
        exact hdraw ▸ .release visit hh
      · cases h
    · cases h

@[simp] theorem settle_held (r : Round) (visit : Visit) : (r.settle visit).held = none := by
  simp only [settle]
  split <;> rfl

theorem Step.slots (h : r.Step free m free' r') :
    free' + r'.holding.length = free + r.holding.length := by
  cases h with
  | take visit waiting hh hw hfree =>
    simp only [holding, hh, Option.map_some, Option.map_none, Option.toList_some, Option.toList_none,
      List.length_singleton, List.length_nil]
    omega
  | start visit hh => simp only [holding, hh, Option.map_some]
  | finish visit hh => simp only [holding, hh, Option.map_some]
  | release visit hh => simp [holding, hh]

theorem exists_step (r : Round) (hover : r.result? = none) (hslot : free ≠ 0 ∨ r.holding ≠ []) :
    ∃ m, (r.step? free m).isSome := by
  cases hh : r.held with
  | some h =>
    obtain ⟨visit, stage⟩ := h
    cases stage with
    | granted => exact ⟨.start visit.draw, by simp [step?, hh]⟩
    | running => exact ⟨.finish visit.draw, by simp [step?, hh]⟩
    | ended => exact ⟨.release visit.draw, by simp [step?, hh]⟩
  | none =>
    have hfree : free ≠ 0 := by simpa [holding, hh] using hslot
    cases hw : r.waiting with
    | cons visit waiting => exact ⟨.take, by simp [step?, hh, hw, hfree]⟩
    | nil => simp [result?, hh, hw] at hover

end Round

/-! ## Parties -/

namespace Party

variable {free free' : Nat} {p p' : Party} {m : Move}

private theorem step?_slots (h : p.step? free m = some (free', p')) :
    free' + p'.holding.length = free + p.holding.length := by
  cases p with
  | call start stop probe =>
    cases m with
    | read =>
      cases h
      simp only [ofEnds]
      cases Span.ofEndpoints start stop <;> rfl
    | _ => cases h
  | refused e => cases h
  | sweep probe s =>
    obtain ⟨q, hq, rfl, rfl⟩ := step?_sweep h
    exact hq.slots
  | round r =>
    obtain ⟨⟨_, r'⟩, hr, he⟩ := Option.map_eq_some_iff.mp h
    cases he
    exact (Round.step?_eq_some hr).slots

/-- What holds a slot goes on without another one: a probe starts or ends, or its slot is given back. -/
private theorem holding_step {draw : Draw} (h : draw ∈ p.holding) :
    ∃ m ∈ [Move.start draw, .finish draw, .release draw], ∀ free, (p.step? free m).isSome := by
  cases p with
  | call start stop probe => cases h
  | refused e => cases h
  | sweep probe s =>
    rcases List.mem_append.mp h with h | h
    · exact ⟨.start draw, by simp, fun free => by simp [step?, Pool.step?, h]⟩
    · rcases List.mem_append.mp h with h | h
      · exact ⟨.finish draw, by simp, fun free => by simp [step?, Pool.step?, h]⟩
      · exact ⟨.release draw, by simp, fun free => by simp [step?, Pool.step?, h]⟩
  | round r =>
    obtain ⟨⟨visit, stage⟩, hh, rfl⟩ : ∃ x, r.held = some x ∧ x.1.draw = draw := by
      simpa [holding, Round.holding] using h
    cases stage with
    | granted => exact ⟨.start visit.draw, by simp, fun free => by simp [step?, Round.step?, hh]⟩
    | running => exact ⟨.finish visit.draw, by simp, fun free => by simp [step?, Round.step?, hh]⟩
    | ended => exact ⟨.release visit.draw, by simp, fun free => by simp [step?, Round.step?, hh]⟩

theorem exists_step (hover : p.result? = none) (hfree : 0 < free) :
    ∃ m, (p.step? free m).isSome := by
  cases p with
  | call start stop probe => exact ⟨.read, rfl⟩
  | refused e => cases hover
  | sweep probe s => exact exists_step_sweep hover (Nat.add_pos_left hfree _)
  | round r =>
    obtain ⟨m, hm⟩ := Round.exists_step r hover (.inl (Nat.ne_of_gt hfree))
    refine ⟨m, ?_⟩
    rw [step?, Option.isSome_map]
    exact hm

private theorem holding_of_result? {x : Except Fault (List Device)} (h : p.result? = some x) :
    p.holding = [] := by
  cases p with
  | call start stop probe => rfl
  | refused e => rfl
  | sweep probe s => exact (Sweep.result?_eq_some h).2.1
  | round r =>
    simp only [result?, Round.result?, Bool.and_eq_true, Option.isNone_iff_eq_none] at h
    split at h
    · rename_i hover
      simp [holding, Round.holding, hover.2]
    · cases h

private theorem probing_le_holding (p : Party) : p.probing.length ≤ p.holding.length := by
  cases p with
  | call start stop probe => exact Nat.le_refl 0
  | refused e => exact Nat.le_refl 0
  | sweep probe s =>
    simp only [probing, holding, Sweep.holding, List.length_append]
    omega
  | round r =>
    simp only [probing, holding, Round.running, Round.holding]
    split
    · rename_i visit hh
      simp [hh]
    · exact Nat.zero_le _

private theorem errand_holding (e : Errand) : e.party.holding = [] := by
  cases e <;> rfl

end Party

/-! ## Traffic -/

namespace Traffic

private theorem length_flatMap_set {α β : Type} (f : α → List β) {xs : List α} {i : Nat} {a : α}
    (b : α) (h : xs[i]? = some a) :
    ((xs.set i b).flatMap f).length + (f a).length = (xs.flatMap f).length + (f b).length := by
  induction xs generalizing i with
  | nil => cases h
  | cons x xs ih =>
    cases i with
    | zero =>
      cases h
      simp only [List.set_cons_zero, List.flatMap_cons, List.length_append]
      omega
    | succ i =>
      have hxs := ih h
      simp only [List.set_cons_succ, List.flatMap_cons, List.length_append]
      omega

theorem step?_eq_some {t t' : Traffic} {i : Nat} {m : Move} (h : t.step? i m = some t') :
    ∃ p p', t.parties[i]? = some p ∧ p.step? t.free m = some (t'.free, p') ∧
      t'.parties = t.parties.set i p' := by
  obtain ⟨p, hp, hstep⟩ := Option.bind_eq_some_iff.mp h
  obtain ⟨⟨free', p'⟩, hp', he⟩ := Option.map_eq_some_iff.mp hstep
  cases he
  exact ⟨p, p', hp, hp', rfl⟩

private theorem step?_slots {t t' : Traffic} {i : Nat} {m : Move} (h : t.step? i m = some t') :
    t'.free + t'.held = t.free + t.held := by
  obtain ⟨p, p', hp, hstep, hparties⟩ := step?_eq_some h
  have hparty := Party.step?_slots hstep
  have hset := length_flatMap_set Party.holding p' hp
  rw [held, hparties, held]
  omega

private theorem follow?_slots {steps : List (Nat × Move)} {t t' : Traffic} (h : t.follow? steps = some t') :
    t'.free + t'.held = t.free + t.held := by
  induction steps generalizing t with
  | nil =>
    cases h
    rfl
  | cons step steps ih =>
    obtain ⟨t₁, hstep, hrest⟩ := Option.bind_eq_some_iff.mp h
    exact (ih hrest).trans (step?_slots hstep)

@[simp] theorem ofErrands_held (slots : Nat) (errands : List Errand) :
    (ofErrands slots errands).held = 0 := by
  rw [held, List.length_eq_zero_iff, List.flatMap_eq_nil_iff]
  intro p hp
  obtain ⟨e, -, rfl⟩ := List.mem_map.mp hp
  exact Party.errand_holding e

private theorem probes_le_held (t : Traffic) : t.probes ≤ t.held := by
  rw [probes, held]
  induction t.parties with
  | nil => exact Nat.le_refl 0
  | cons p ps ih =>
    have hp := p.probing_le_holding
    simp only [List.flatMap_cons, List.length_append]
    omega

theorem exists_step {t : Traffic} (hslots : 0 < t.free + t.held)
    (hover : ∃ p ∈ t.parties, p.result? = none) : ∃ i m, (t.step? i m).isSome := by
  have hmove {p : Party} {m : Move} (hp : p ∈ t.parties) (hm : (p.step? t.free m).isSome) :
      ∃ i m, (t.step? i m).isSome := by
    obtain ⟨i, hi⟩ := List.mem_iff_getElem?.mp hp
    refine ⟨i, m, ?_⟩
    rw [step?, hi, Option.bind_some, Option.isSome_map]
    exact hm
  rcases Nat.eq_zero_or_pos t.free with hfree | hfree
  · -- No slot is free, so that some party holds one; it goes on without a further one.
    have hheld : t.parties.flatMap Party.holding ≠ [] := by
      rw [← List.length_pos_iff]
      rwa [hfree, Nat.zero_add] at hslots
    obtain ⟨draw, hdraw⟩ := List.exists_mem_of_ne_nil _ hheld
    obtain ⟨p, hp, hdraw⟩ := List.mem_flatMap.mp hdraw
    obtain ⟨m, -, hm⟩ := Party.holding_step hdraw
    exact hmove hp (hm t.free)
  · obtain ⟨p, hp, hnone⟩ := hover
    obtain ⟨m, hm⟩ := Party.exists_step hnone hfree
    exact hmove hp hm

private theorem held_eq_zero {t : Traffic} (hover : ∀ p ∈ t.parties, p.result?.isSome) : t.held = 0 := by
  rw [held, List.length_eq_zero_iff, List.flatMap_eq_nil_iff]
  intro p hp
  obtain ⟨x, hx⟩ := Option.isSome_iff_exists.mp (hover p hp)
  exact Party.holding_of_result? hx

/-- Any number of calls and rounds share a number of slots.  In every state that they reach a slot is free
or held, which bounds the probes that run; what holds a slot goes on however few slots are free; the
traffic makes a step until all parties are over; and then every slot is free. -/
theorem slots_bound_probes (slots : Nat) (hslots : 0 < slots) (errands : List Errand)
    (steps : List (Nat × Move)) (t : Traffic)
    (hrun : (ofErrands slots errands).follow? steps = some t) :
    t.free + t.held = slots ∧
    t.probes ≤ slots ∧ t.held ≤ slots ∧
    (∀ p ∈ t.parties, ∀ draw ∈ p.holding,
      ∃ m ∈ [Move.start draw, .finish draw, .release draw], ∀ free, (p.step? free m).isSome) ∧
    ((∃ p ∈ t.parties, p.result? = none) → ∃ i m, (t.step? i m).isSome) ∧
    ((∀ p ∈ t.parties, p.result?.isSome) → t.free = slots) := by
  have hsum : t.free + t.held = slots := by
    rw [follow?_slots hrun, ofErrands_held]
    rfl
  have hprobes := t.probes_le_held
  refine ⟨hsum, by omega, by omega, ?_, ?_, ?_⟩
  · intro p _ draw hdraw
    exact Party.holding_step hdraw
  · exact exists_step (by omega)
  · intro hover
    have hheld := held_eq_zero hover
    omega

/-- A range, a range with a bad end and a round whose probes all fail. -/
private def failingErrands : List Errand :=
  [.range (.text "10.0.0.1") (.text "10.0.0.1") fun _ => throw Fault.expired,
    .range (.text "10.0.0.1") .wordless fun _ => throw Fault.expired,
    .round [("/dev/ttyS0", throw Fault.expired), ("/dev/ttyS1", throw Fault.expired)]]

private def failingSteps : List (Nat × Move) :=
  let address : Draw := ⟨0, "10.0.0.1"⟩
  let port : Draw := ⟨0, "/dev/ttyS0"⟩
  [(0, .read), (0, .take), (1, .read), (0, .start address), (0, .finish address), (0, .release address),
    (2, .take), (2, .start port), (2, .finish port), (2, .release port)]

theorem slots_bound_probes_failing :
    ∃ t, (ofErrands 1 failingErrands).follow? failingSteps = some t ∧
      (∀ p ∈ t.parties, p.result?.isSome) ∧ t.free = 1 := by
  have hover : ∀ t, (ofErrands 1 failingErrands).follow? failingSteps = some t →
      ∀ p ∈ t.parties, p.result?.isSome := by
    intro t ht
    cases ht
    decide
  refine ⟨_, rfl, hover _ rfl, ?_⟩
  exact (slots_bound_probes 1 (by decide) failingErrands failingSteps _ rfl).2.2.2.2.2 (hover _ rfl)

end Traffic

end PowerDiscovery
