import PowerDiscovery.Proofs.Discovery.CompletionOrder
import PowerDiscovery.Proofs.Discovery.SharedSlots

/-! # What errands come to in traffic

A party comes to the same among others as on its own.  The others take slots and give them back, which may
delay a probe but changes neither what it finds nor the order in which the devices are put together. -/

namespace PowerDiscovery

theorem Attempt.inTurn_cons_value (x : Attempt (List Device)) (xs : List (Attempt (List Device))) :
    (inTurn (x :: xs)).run.value = (do return (← x.run.value) ++ (← (inTurn xs).run.value)) := by
  simp only [inTurn, ExceptT.run_bind, Traced.bind_value]
  cases x.run.value with
  | error f => rfl
  | ok found =>
    simp only [Traced.bind_value]
    cases (inTurn xs).run.value <;> rfl

namespace Round

variable {free free' : Nat} {r r' : Round} {m : Move}

/-- What a round is about to come to: what was found so far, and then what its targets that are not done
come to in turn. -/
def prospect (r : Round) : Except Fault (List Device) := do
  let ahead := (r.held.map Prod.fst).toList ++ r.waiting
  return (← r.outcome) ++ (← (Attempt.inTurn (ahead.map Visit.probe)).run.value)

private theorem Step.prospect (h : r.Step free m free' r') : r'.prospect = r.prospect := by
  cases h with
  | take visit waiting hh hw hfree => simp [Round.prospect, hh, hw]
  | start visit hh => simp [Round.prospect, hh]
  | finish visit hh => simp [Round.prospect, hh]
  | release visit hh =>
    simp only [Round.prospect, settle, hh, Option.map_some, Option.toList_some, List.singleton_append,
      List.map_cons, Attempt.inTurn_cons_value]
    cases r.outcome with
    | error f => rfl
    | ok sofar =>
      cases visit.probe.run.value with
      | error f => rfl
      | ok found =>
        simp only [bind, Except.bind, pure, Except.pure, Option.map_none, Option.toList_none,
          List.nil_append, List.append_assoc]
        cases (Attempt.inTurn (r.waiting.map Visit.probe)).run.value <;> rfl

private theorem prospect_of_result? {x : Except Fault (List Device)} (h : r.result? = some x) :
    r.prospect = x := by
  simp only [result?, Bool.and_eq_true, List.isEmpty_iff, Option.isNone_iff_eq_none] at h
  split at h
  · rename_i hover
    cases h
    simp only [prospect, hover.1, hover.2]
    cases r.outcome with
    | error f => rfl
    | ok found => exact congrArg Except.ok (List.append_nil found)
  · cases h

private theorem ofTargets_prospect (targets : List (String × Attempt (List Device))) :
    (ofTargets targets).prospect = (Attempt.inTurn (targets.map Prod.snd)).run.value := by
  have hprobes : (ofTargets targets).waiting.map Visit.probe = targets.map Prod.snd := by
    calc (ofTargets targets).waiting.map Visit.probe
      _ = (targets.zipIdx.map Prod.fst).map Prod.snd := by
        simp only [ofTargets, List.map_map, Function.comp_def]
      _ = targets.map Prod.snd := by rw [List.zipIdx_map_fst]
  rw [← hprobes]
  simp only [prospect, ofTargets, Option.map_none, Option.toList_none, List.nil_append]
  generalize (Attempt.inTurn _).run.value = outcome
  cases outcome <;> rfl

end Round

def Errand.outcome (gate : Option Semaphore) : Errand → Except Fault (List Device)
  | range start stop probe => (probe.range gate start stop).run.value
  | round targets => (Attempt.inTurn (targets.map Prod.snd)).run.value

namespace Party

inductive Serves : Errand → Party → Prop where
  | call (start stop : Endpoint) (probe : Probe) : Serves (.range start stop probe) (.call start stop probe)
  | refused {start stop : Endpoint} {e : Address.Error} (probe : Probe)
      (he : Span.ofEndpoints start stop = .error e) : Serves (.range start stop probe) (.refused e)
  | sweep {start stop : Endpoint} {span : Span} {probe : Probe} {s : Sweep} {done : List Draw}
      (hspan : Span.ofEndpoints start stop = .ok span)
      (ha : s.Account probe (Sweep.ofAddresses (span.toList.map Address.text)).waiting done) :
      Serves (.range start stop probe) (.sweep probe s)
  | round {targets : List (String × Attempt (List Device))} {r : Round}
      (hr : r.prospect = (Attempt.inTurn (targets.map Prod.snd)).run.value) :
      Serves (.round targets) (.round r)

variable {free free' : Nat} {e : Errand} {p p' : Party} {m : Move}

private theorem errand_serves (e : Errand) : Serves e e.party := by
  cases e with
  | range start stop probe => exact .call start stop probe
  | round targets => exact .round (Round.ofTargets_prospect targets)

theorem Serves.step (h : Serves e p) (hstep : p.step? free m = some (free', p')) : Serves e p' := by
  cases h with
  | call start stop probe =>
    cases m with
    | read =>
      cases hstep
      unfold ofEnds
      split
      · rename_i e he
        exact .refused probe he
      · rename_i span hspan
        exact .sweep hspan (Sweep.ofAddresses_account probe _)
    | _ => cases hstep
  | refused probe he => cases hstep
  | sweep hspan ha =>
    obtain ⟨q, hq, -, rfl⟩ := step?_sweep hstep
    obtain ⟨done', ha', -⟩ := hq.account ha
    exact .sweep hspan ha'
  | round hr =>
    obtain ⟨⟨_, r'⟩, hr', he⟩ := Option.map_eq_some_iff.mp hstep
    cases he
    exact .round ((Round.step?_eq_some hr').prospect.trans hr)

theorem Serves.result {gate : Option Semaphore} {x : Except Fault (List Device)} (h : Serves e p)
    (hslots : 0 < Pool.slotsOf gate) (hx : p.result? = some x) : x = e.outcome gate := by
  cases h with
  | call start stop probe => cases hx
  | refused probe he =>
    cases hx
    exact (Probe.range_error probe gate he).symm
  | @sweep start stop span probe s done hspan ha =>
    rw [Errand.outcome, Probe.range_value probe hslots hspan]
    exact (ha.result hx).2
  | round hr => exact (Round.prospect_of_result? hx).symm.trans hr

end Party

namespace Traffic

/-- Every party of the traffic is on its way to what its errand comes to. -/
def Serves (errands : List Errand) (t : Traffic) : Prop :=
  ∀ (i : Nat) (p : Party), t.parties[i]? = some p → ∃ e, errands[i]? = some e ∧ Party.Serves e p

variable {errands : List Errand} {t t' : Traffic}

private theorem ofErrands_serves (slots : Nat) (errands : List Errand) :
    (ofErrands slots errands).Serves errands := by
  intro i p hp
  simp only [ofErrands, List.getElem?_map, Option.map_eq_some_iff] at hp
  obtain ⟨e, he, rfl⟩ := hp
  exact ⟨e, he, Party.errand_serves e⟩

private theorem step?_serves {i : Nat} {m : Move} (hstep : t.step? i m = some t') (h : t.Serves errands) :
    t'.Serves errands := by
  obtain ⟨p, p', hp, hmove, hparties⟩ := step?_eq_some hstep
  intro k x hx
  rw [hparties, List.getElem?_set] at hx
  split at hx
  · rename_i hk
    subst hk
    obtain ⟨e, he, hserves⟩ := h i p hp
    split at hx
    · cases hx
      exact ⟨e, he, hserves.step hmove⟩
    · cases hx
  · exact h k x hx

private theorem follow?_serves {steps : List (Nat × Move)} (hrun : t.follow? steps = some t')
    (h : t.Serves errands) : t'.Serves errands := by
  induction steps generalizing t with
  | nil =>
    cases hrun
    exact h
  | cons step steps ih =>
    obtain ⟨t₁, hstep, hrest⟩ := Option.bind_eq_some_iff.mp hrun
    exact ih hrest (step?_serves hstep h)

/-- Whatever the other parties do, a party that is over has come to what its errand comes to on its own. -/
theorem result_of_errand {slots : Nat} {steps : List (Nat × Move)} {gate : Option Semaphore} {i : Nat}
    {p : Party} {x : Except Fault (List Device)}
    (hrun : (ofErrands slots errands).follow? steps = some t) (hslots : 0 < Pool.slotsOf gate)
    (hp : t.parties[i]? = some p) (hx : p.result? = some x) :
    ∃ e, errands[i]? = some e ∧ x = e.outcome gate := by
  obtain ⟨e, he, hserves⟩ := follow?_serves hrun (ofErrands_serves slots errands) i p hp
  exact ⟨e, he, hserves.result hslots hx⟩

end Traffic

end PowerDiscovery
