import PowerDiscovery.Proofs.Address.Enumeration
import PowerDiscovery.Proofs.Discovery.Sweep

/-! # The order in which probes end

A call for a range comes to the same devices in whatever order its probes start, end and give their slots
back, and whenever further addresses are drawn meanwhile.  The order in which each probe ends before the
next one starts is one of these. -/

namespace PowerDiscovery

/-- The addresses between two of one family, both included, from the lower to the higher one. -/
def Address.between (a b : Address) : List String :=
  let low := min a.value b.value
  (List.range' low (max a.value b.value - low + 1)).map fun n => (Address.ofNat a.family n).text

theorem Span.ofEndpoints_between {start stop : String} {a b : Address} (ha : Address.read start = .ok a)
    (hb : Address.read stop = .ok b) (hf : a.family = b.family) :
    ∃ span, Span.ofEndpoints (.text start) (.text stop) = .ok span ∧
      span.toList.map Address.text = a.between b := by
  refine ⟨Span.between a b hf, Span.read_eq_between ha hb hf, ?_⟩
  have hsize : (Span.between a b hf).size = max a.value b.value - min a.value b.value + 1 := by
    simp only [Span.size, Span.between]
    omega
  simp only [Span.toList, Span.take, Nat.min_self, List.map_map, hsize]
  rfl

theorem Span.ofEndpoints_error {start stop : String}
    (h : ¬ ∃ a b, Address.read start = .ok a ∧ Address.read stop = .ok b ∧ a.family = b.family) :
    ∃ e, Span.ofEndpoints (.text start) (.text stop) = .error e :=
  Span.read_eq_error h

namespace Party

open scoped List

variable {probe : Probe}

/-- What any number of steps leave of a sweep: its account, the probes started meanwhile, the number of
steps ahead and the slots. -/
private theorem follow?_sweep {moves : List Move} {free free' : Nat} {s : Sweep} {p : Party}
    {draws done : List Draw} (h : (sweep probe s).follow? free moves = some (free', p))
    (ha : s.Account probe draws done) :
    ∃ s' done', p = sweep probe s' ∧ s'.Account probe draws done' ∧
      (moves.filterMap Move.started? ++ (s.running ++ done)).Perm (s'.running ++ done') ∧
      moves.length + s'.stepsLeft = s.stepsLeft ∧
      free' + s'.holding.length = free + s.holding.length := by
  induction moves generalizing free s done with
  | nil =>
    cases h
    exact ⟨s, done, rfl, ha, .refl _, Nat.zero_add _, rfl⟩
  | cons m moves ih =>
    obtain ⟨⟨free₁, p₁⟩, hm, hrest⟩ := Option.bind_eq_some_iff.mp h
    obtain ⟨q, hq, rfl, rfl⟩ := step?_sweep hm
    obtain ⟨done₁, ha₁, hstarted₁⟩ := hq.account ha
    obtain ⟨s', done', rfl, ha', hstarted, hsteps, hslots⟩ := ih hrest ha₁
    have hsteps₁ : q.stepsLeft + 1 = s.stepsLeft := hq.stepsLeft
    have hslots₁ : q.free + q.holding.length = free + s.holding.length := hq.slots
    refine ⟨s', done', rfl, ha', ?_, ?_, ?_⟩
    · have hcons : (m :: moves).filterMap Move.started? =
          m.started?.toList ++ moves.filterMap Move.started? := by
        rw [List.filterMap_cons]
        cases m.started? <;> rfl
      rw [hcons]
      calc m.started?.toList ++ moves.filterMap Move.started? ++ (s.running ++ done)
        _ ~ moves.filterMap Move.started? ++ (m.started?.toList ++ (s.running ++ done)) := by
          rw [List.append_assoc]
          exact List.perm_append_comm_assoc _ _ _
        _ ~ moves.filterMap Move.started? ++ (q.running ++ done₁) := hstarted₁.append_left _
        _ ~ s'.running ++ done' := hstarted
    · simp only [List.length_cons]
      omega
    · omega

private theorem sweep_result {addresses : List String} {moves : List Move} {free free' : Nat} {p : Party}
    {r : Except Fault (List Device)}
    (h : (sweep probe (Sweep.ofAddresses addresses)).follow? free moves = some (free', p))
    (hr : p.result? = some r) :
    ((moves.filterMap Move.started?).map Draw.address).Perm addresses ∧ free' = free ∧
      r = .ok (addresses.flatMap probe.finds) := by
  obtain ⟨s, done, rfl, ha, hstarted, -, hslots⟩ :=
    follow?_sweep h (Sweep.ofAddresses_account probe addresses)
  obtain ⟨hdone, hresult⟩ := ha.result hr
  obtain ⟨-, hh, -⟩ := Sweep.result?_eq_some hr
  refine ⟨?_, ?_, hresult⟩
  · have hrunning : s.running = [] := by
      simp only [Sweep.holding, List.append_eq_nil_iff] at hh
      exact hh.2.1
    have hall : (moves.filterMap Move.started?).Perm (Sweep.ofAddresses addresses).waiting := by
      rw [hrunning] at hstarted
      simpa only [Sweep.ofAddresses, List.append_nil, List.nil_append] using hstarted.trans hdone
    simpa only [Sweep.ofAddresses_map_address] using hall.map Draw.address
  · rw [hh] at hslots
    exact hslots

private theorem follow?_refused {free free' : Nat} {e : Address.Error} {moves : List Move} {p : Party}
    (h : (refused e).follow? free moves = some (free', p)) :
    moves = [] ∧ free' = free ∧ p = refused e := by
  cases moves with
  | nil =>
    cases h
    exact ⟨rfl, rfl, rfl⟩
  | cons m moves => cases h

private theorem follow?_call {free free' : Nat} {start stop : Endpoint} {moves : List Move} {p : Party}
    (h : (call start stop probe).follow? free moves = some (free', p)) :
    moves = [] ∧ free' = free ∧ p = call start stop probe ∨
      ∃ rest, moves = .read :: rest ∧ (ofEnds start stop probe).follow? free rest = some (free', p) := by
  cases moves with
  | nil =>
    cases h
    exact .inl ⟨rfl, rfl, rfl⟩
  | cons m moves =>
    cases m with
    | read => exact .inr ⟨moves, rfl, h⟩
    | _ => cases h

end Party

namespace Pool

/-- The order in which each probe ends before the next one starts is one of the orders of a sweep, and it
brings the sweep to its end. -/
private theorem run_follow? (probe : Probe) (n : Nat) (p : Pool) (hn : p.waiting.length = n) (hfree : 0 < p.free)
    (hidle : p.holding = []) :
    ∃ moves q, (run probe n p).value = q ∧
      (Party.sweep probe p.toSweep).follow? p.free moves = some (q.free, .sweep probe q.toSweep) ∧
      q.waiting = [] ∧ q.holding = [] := by
  induction n generalizing p with
  | zero => exact ⟨[], p, rfl, rfl, List.length_eq_zero_iff.mp hn, hidle⟩
  | succ n ih =>
    cases hw : p.waiting with
    | nil => simp [hw] at hn
    | cons draw waiting =>
      simp only [Sweep.holding, List.append_eq_nil_iff] at hidle
      obtain ⟨hg, hr, he⟩ := hidle
      have hne : p.free ≠ 0 := Nat.ne_of_gt hfree
      let drawn : Pool := { p with free := p.free - 1, waiting := waiting, granted := draw :: p.granted }
      let served := ((drawn.start draw).finish draw (probe.single draw.address).value).release draw
      have htake : p.take? = some (draw, drawn) := by
        rw [take?, hw]
        exact if_neg hne
      have hfree' : served.free = p.free := Nat.sub_add_cancel hfree
      have hholding : served.holding = [] := by
        simp [served, drawn, Sweep.holding, Pool.start, Pool.finish, Pool.release, hg, hr, he]
      have hsteps (moves : List Move) :
          (Party.sweep probe p.toSweep).follow? p.free
              (.take :: .start draw :: .finish draw :: .release draw :: moves) =
            (Party.sweep probe served.toSweep).follow? served.free moves := by
        simp [Party.follow?, Party.step?, step?, htake, served, drawn, Pool.start, Pool.finish, Pool.release]
      obtain ⟨moves, q, hq, hfollow, hdone⟩ := ih served (by
        have hlen : served.waiting.length = waiting.length := rfl
        rw [hw, List.length_cons] at hn
        omega) (by omega) hholding
      refine ⟨_, q, ?_, (hsteps moves).trans hfollow, hdone⟩
      rw [run, htake]
      exact hq

end Pool

theorem Probe.range_value (probe : Probe) {gate : Option Semaphore} {start stop : Endpoint} {span : Span}
    (hslots : 0 < Pool.slotsOf gate) (hspan : Span.ofEndpoints start stop = .ok span) :
    (probe.range gate start stop).run.value =
      .ok ((span.toList.map Address.text).flatMap probe.finds) := by
  let s := Sweep.ofAddresses (span.toList.map Address.text)
  obtain ⟨moves, q, hq, hfollow, hw, hh⟩ :=
    Pool.run_follow? probe s.waiting.length { s with free := Pool.slotsOf gate } rfl hslots rfl
  have hresult : (Party.sweep probe q.toSweep).result? = some (.ok q.devices) := by
    simp [Party.result?, Sweep.result?, hw, hh]
  have hrange : (probe.range gate start stop).run.value = .ok q.devices := by
    rw [Probe.range, Probe.pool, hspan, ← hq]
    rfl
  rw [hrange, (Party.sweep_result hfollow hresult).2.2]

theorem Probe.range_error (probe : Probe) (gate : Option Semaphore) {start stop : Endpoint}
    {e : Address.Error} (he : Span.ofEndpoints start stop = .error e) :
    (probe.range gate start stop).run.value = .error (.badAddress e) := by
  rw [Probe.range, Probe.pool, he]
  rfl

namespace Party

variable {probe : Probe} {start stop : String} {free free' : Nat} {moves : List Move} {p : Party}

/-- A call with two ends of one family comes to an end, with each address probed once and all slots given
back. -/
theorem follow?_call_between {gate : Option Semaphore} {a b : Address} (hfree : 0 < free)
    (hgate : free ≤ Pool.slotsOf gate) (ha : Address.read start = .ok a)
    (hb : Address.read stop = .ok b) (hf : a.family = b.family)
    (hrun : (call (.text start) (.text stop) probe).follow? free moves = some (free', p)) :
    moves.length ≤ 4 * (a.between b).length + 1 ∧
    (p.result? = none → ∃ m, (p.step? free' m).isSome) ∧
    ∀ r, p.result? = some r →
      ((moves.filterMap Move.started?).map Draw.address).Perm (a.between b) ∧
      free' = free ∧
      r = .ok ((a.between b).flatMap probe.finds) ∧
      r = (probe.range gate (.text start) (.text stop)).run.value := by
  obtain ⟨span, hspan, hbetween⟩ := Span.ofEndpoints_between ha hb hf
  rcases follow?_call hrun with ⟨rfl, rfl, rfl⟩ | ⟨rest, rfl, hrest⟩
  · refine ⟨by simp, fun _ => ⟨.read, rfl⟩, ?_⟩
    intro r hr
    cases hr
  · rw [ofEnds, hspan] at hrest
    simp only [hbetween] at hrest
    obtain ⟨s, done, hp, -, -, hsteps, hslots⟩ :=
      follow?_sweep hrest (Sweep.ofAddresses_account probe _)
    have hheld : (Sweep.ofAddresses (a.between b)).holding.length = 0 := rfl
    rw [Sweep.ofAddresses_stepsLeft] at hsteps
    refine ⟨?_, ?_, ?_⟩
    · rw [List.length_cons]
      omega
    · intro hover
      subst hp
      exact exists_step_sweep hover (by omega)
    · intro r hr
      obtain ⟨hprobed, hfree', hresult⟩ := sweep_result hrest hr
      refine ⟨hprobed, hfree', hresult, ?_⟩
      rw [Probe.range_value probe (by omega) hspan, hbetween, hresult]

private theorem follow?_call_refused (gate : Option Semaphore)
    (hends : ¬ ∃ a b, Address.read start = .ok a ∧ Address.read stop = .ok b ∧ a.family = b.family)
    (hrun : (call (.text start) (.text stop) probe).follow? free moves = some (free', p)) :
    moves.filterMap Move.started? = [] ∧ .take ∉ moves ∧ free' = free ∧ moves.length ≤ 1 ∧
    (p.result? = none → ∃ m, (p.step? free' m).isSome) ∧
    ∀ r, p.result? = some r →
      (∃ f : Fault, r = .error f ∧ f.isValue) ∧
      r = (probe.range gate (.text start) (.text stop)).run.value := by
  obtain ⟨e, he⟩ := Span.ofEndpoints_error hends
  rcases follow?_call hrun with ⟨rfl, rfl, rfl⟩ | ⟨rest, rfl, hrest⟩
  · refine ⟨rfl, List.not_mem_nil, rfl, Nat.zero_le _, fun _ => ⟨.read, rfl⟩, ?_⟩
    intro r hr
    cases hr
  · rw [ofEnds, he] at hrest
    obtain ⟨rfl, rfl, rfl⟩ := follow?_refused hrest
    refine ⟨rfl, by decide, rfl, Nat.le_refl _, ?_, ?_⟩
    · intro hover
      cases hover
    · intro r hr
      cases hr
      exact ⟨⟨_, rfl, rfl⟩, (Probe.range_error probe gate he).symm⟩

/-- A call for a range that finds slots free gives the same result in every order of its steps: the ends
of its probes and the drawing of further addresses may follow each other as they like. -/
theorem call_in_any_order (gate : Option Semaphore) (probe : Probe) (start stop : String)
    (free : Nat) (hfree : 0 < free) (hgate : free ≤ Pool.slotsOf gate) (moves : List Move)
    (free' : Nat) (p : Party)
    (hrun : (call (.text start) (.text stop) probe).follow? free moves = some (free', p)) :
    (∀ a b, Address.read start = .ok a → Address.read stop = .ok b → a.family = b.family →
      moves.length ≤ 4 * (a.between b).length + 1 ∧
      (p.result? = none → ∃ m, (p.step? free' m).isSome) ∧
      ∀ r, p.result? = some r →
        ((moves.filterMap Move.started?).map Draw.address).Perm (a.between b) ∧
        free' = free ∧
        r = .ok ((a.between b).flatMap probe.finds) ∧
        r = (probe.range gate (.text start) (.text stop)).run.value) ∧
    ((¬ ∃ a b, Address.read start = .ok a ∧ Address.read stop = .ok b ∧ a.family = b.family) →
      moves.filterMap Move.started? = [] ∧ .take ∉ moves ∧ free' = free ∧ moves.length ≤ 1 ∧
      (p.result? = none → ∃ m, (p.step? free' m).isSome) ∧
      ∀ r, p.result? = some r →
        (∃ f : Fault, r = .error f ∧ f.isValue) ∧
        r = (probe.range gate (.text start) (.text stop)).run.value) :=
  ⟨fun _ _ ha hb hf => follow?_call_between hfree hgate ha hb hf hrun,
    fun hends => follow?_call_refused gate hends hrun⟩

/-- A probe that fails at one address and finds a device at every other one. -/
private def probeFailingAt (address : String) : Probe := fun asked =>
  if asked = address then throw Fault.expired
  else return some [{ backend := .snmp, driver := "snmp-ups", port := asked }]

/-- Two probes are under way at once, and the one that started first ends first. -/
private def laterAddressFirst : List Move :=
  let lower : Draw := ⟨0, "10.0.0.1"⟩
  let upper : Draw := ⟨1, "10.0.0.2"⟩
  [.read, .take, .take, .start upper, .start lower, .finish upper, .release upper, .finish lower,
    .release lower]

theorem call_in_any_order_later_first :
    ∃ p, (call (.text "10.0.0.2") (.text "10.0.0.1") (probeFailingAt "10.0.0.1")).follow? 2
        laterAddressFirst = some (2, p) ∧
      p.result? = some (.ok [{ backend := .snmp, driver := "snmp-ups", port := "10.0.0.2" }]) := by
  refine ⟨_, rfl, ?_⟩
  have hbetween := (call_in_any_order none (probeFailingAt "10.0.0.1") "10.0.0.2" "10.0.0.1" 2
    (by decide) (by decide) laterAddressFirst 2 _ rfl).1 _ _ rfl rfl rfl
  have hresult := (hbetween.2.2 _ rfl).2.2.1
  exact congrArg some (hresult.trans rfl)

end Party

end PowerDiscovery
