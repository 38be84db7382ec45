import Mathlib.Data.List.Nodup
import Mathlib.Data.Nat.Basic
import Mathlib.Order.Lattice
import PowerDiscovery.Discovery.Traffic
import PowerDiscovery.Proofs.Sorting

/-! # What a sweep finds

The probes of a sweep may start, end and give back their slots in any order.  What does not change on the
way is the account of the draws: each of them waits, holds a slot, or is done, and the devices kept are
those of the draws that are done.  A sweep that is over has therefore found what its addresses have, in
their order. -/

namespace PowerDiscovery

/-- The devices that a probe finds at an address; none if it fails. -/
def Probe.finds (probe : Probe) (address : String) : List Device :=
  match (probe address).run.value with
  | .ok found => found.getD []
  | .error _ => []

private theorem Probe.single_value (probe : Probe) (address : String) :
    (probe.single address).value = probe.finds address := by
  unfold Probe.single Probe.finds
  rw [Traced.bind_value]
  cases (probe address).run.value <;> rfl

inductive Pool.Step (probe : Probe) (p : Pool) : Move → Pool → Prop where
  | take (draw : Draw) (waiting : List Draw) (hw : p.waiting = draw :: waiting) (hfree : p.free ≠ 0) :
      Step probe p .take
        { p with free := p.free - 1, waiting := waiting, granted := draw :: p.granted }
  | start (draw : Draw) (h : draw ∈ p.granted) : Step probe p (.start draw) (p.start draw)
  | finish (draw : Draw) (h : draw ∈ p.running) :
      Step probe p (.finish draw) (p.finish draw (probe.finds draw.address))
  | release (draw : Draw) (h : draw ∈ p.ended) : Step probe p (.release draw) (p.release draw)

theorem Pool.step?_eq_some {probe : Probe} {p q : Pool} {m : Move} (h : p.step? probe m = some q) :
    p.Step probe m q := by
  cases m with
  | read => cases h
  | take =>
    simp only [Pool.step?, Pool.take?] at h
    split at h
    · cases h
    · rename_i draw waiting hw
      split at h
      · cases h
      · rename_i hfree
        cases h
        exact .take draw waiting hw hfree
  | start draw =>
    simp only [Pool.step?] at h
    split at h
    · rename_i hd
      cases h
      exact .start draw hd
    · cases h
  | finish draw =>
    simp only [Pool.step?, Probe.single_value] at h
    split at h
    · rename_i hd
      cases h
      exact .finish draw hd
    · cases h
  | release draw =>
    simp only [Pool.step?] at h
    split at h
    · rename_i hd
      cases h
      exact .release draw hd
    · cases h

namespace Sweep

/-- The steps that a sweep has ahead: four for each address, less those that its probe has made. -/
def stepsLeft (s : Sweep) : Nat :=
  4 * s.waiting.length + 3 * s.granted.length + 2 * s.running.length + s.ended.length

def kept (probe : Probe) (done : List Draw) : List (Nat × List Device) :=
  done.filterMap fun draw =>
    if (probe.finds draw.address).isEmpty then none else some (draw.place, probe.finds draw.address)

/-- The account of a sweep: each draw waits, holds a slot with its probe not yet ended, or is done, and
what was found is what the draws that are done have. -/
structure Account (probe : Probe) (draws done : List Draw) (s : Sweep) : Prop where
  drawn : (s.waiting ++ (s.granted ++ (s.running ++ done))).Perm draws
  found : s.found = kept probe done

end Sweep

namespace Pool

variable {probe : Probe} {p q : Pool} {m : Move}

theorem Step.stepsLeft (h : p.Step probe m q) : q.stepsLeft + 1 = p.stepsLeft := by
  cases h with
  | take draw waiting hw hfree =>
    simp only [Sweep.stepsLeft, hw, List.length_cons]
    omega
  | start draw h =>
    have hlen := List.length_erase_of_mem h
    have hpos := List.length_pos_of_mem h
    simp only [Sweep.stepsLeft, Pool.start, hlen, List.length_cons]
    omega
  | finish draw h =>
    have hlen := List.length_erase_of_mem h
    have hpos := List.length_pos_of_mem h
    simp only [Sweep.stepsLeft, Pool.finish, hlen, List.length_cons]
    omega
  | release draw h =>
    have hlen := List.length_erase_of_mem h
    have hpos := List.length_pos_of_mem h
    simp only [Sweep.stepsLeft, Pool.release, hlen]
    omega

theorem Step.slots (h : p.Step probe m q) :
    q.free + q.holding.length = p.free + p.holding.length := by
  cases h with
  | take draw waiting hw hfree =>
    simp only [Sweep.holding, List.length_append, List.length_cons]
    omega
  | start draw h =>
    have hlen := List.length_erase_of_mem h
    have hpos := List.length_pos_of_mem h
    simp only [Sweep.holding, Pool.start, List.length_append, List.length_cons, hlen]
    omega
  | finish draw h =>
    have hlen := List.length_erase_of_mem h
    have hpos := List.length_pos_of_mem h
    simp only [Sweep.holding, Pool.finish, List.length_append, List.length_cons, hlen]
    omega
  | release draw h =>
    have hlen := List.length_erase_of_mem h
    have hpos := List.length_pos_of_mem h
    simp only [Sweep.holding, Pool.release, List.length_append, hlen]
    omega

/-- A step keeps the account; a probe that it starts is one more of those that run or are done. -/
theorem Step.account (h : p.Step probe m q) {draws done : List Draw}
    (ha : p.Account probe draws done) :
    ∃ done', q.Account probe draws done' ∧
      (m.started?.toList ++ (p.running ++ done)).Perm (q.running ++ done') := by
  obtain ⟨hd, hf⟩ := ha
  cases h with
  | take draw waiting hw hfree =>
    refine ⟨done, ⟨?_, hf⟩, .refl _⟩
    rw [hw] at hd
    exact List.perm_middle.trans hd
  | start draw h =>
    refine ⟨done, ⟨?_, hf⟩, .refl _⟩
    have hperm : (p.granted.erase draw ++ (draw :: p.running ++ done)).Perm
        (p.granted ++ (p.running ++ done)) :=
      List.perm_middle.trans ((List.perm_cons_erase h).symm.append_right _)
    exact (hperm.append_left p.waiting).trans hd
  | finish draw h =>
    have hrun : (p.running.erase draw ++ draw :: done).Perm (p.running ++ done) :=
      List.perm_middle.trans ((List.perm_cons_erase h).symm.append_right done)
    refine ⟨draw :: done, ⟨?_, ?_⟩, hrun.symm⟩
    · exact ((hrun.append_left p.granted).append_left p.waiting).trans hd
    · simp only [Pool.finish, Sweep.kept, List.filterMap_cons, hf]
      by_cases he : (probe.finds draw.address).isEmpty <;> simp [he]
  | release draw h => exact ⟨done, ⟨hd, hf⟩, .refl _⟩

theorem exists_step (probe : Probe) (p : Pool) (hover : p.result? = none)
    (hslot : p.free ≠ 0 ∨ p.holding ≠ []) :
    ∃ m, (p.step? probe m).isSome := by
  cases hg : p.granted with
  | cons draw granted => exact ⟨.start draw, by simp [step?, hg]⟩
  | nil =>
    cases hr : p.running with
    | cons draw running => exact ⟨.finish draw, by simp [step?, hr]⟩
    | nil =>
      cases he : p.ended with
      | cons draw ended => exact ⟨.release draw, by simp [step?, he]⟩
      | nil =>
        have hfree : p.free ≠ 0 := by simpa [Sweep.holding, hg, hr, he] using hslot
        cases hw : p.waiting with
        | cons draw waiting => exact ⟨.take, by simp [step?, take?, hw, hfree]⟩
        | nil => simp [Sweep.result?, Sweep.holding, hw, hg, hr, he] at hover

end Pool

namespace Sweep

variable {probe : Probe}

/-- Draws whose places ascend; no two of them have the same place. -/
def Ascending (draws : List Draw) : Prop := draws.Pairwise fun a b => a.place < b.place

private theorem ofAddresses_ascending (addresses : List String) :
    Ascending (ofAddresses addresses).waiting := by
  have hplaces : (addresses.zipIdx.map Prod.snd).Pairwise (· < ·) := by
    rw [List.zipIdx_map_snd]
    exact List.pairwise_lt_range'
  simp only [Ascending, ofAddresses, List.pairwise_map] at hplaces ⊢
  exact hplaces

@[simp] theorem ofAddresses_map_address (addresses : List String) :
    (ofAddresses addresses).waiting.map Draw.address = addresses := by
  simp only [ofAddresses, List.map_map, Function.comp_def]
  exact List.zipIdx_map_fst 0 addresses

theorem ofAddresses_account (probe : Probe) (addresses : List String) :
    (ofAddresses addresses).Account probe (ofAddresses addresses).waiting [] := by
  refine ⟨?_, rfl⟩
  simp only [ofAddresses, List.append_nil]
  exact .refl _

theorem ofAddresses_stepsLeft (addresses : List String) :
    (ofAddresses addresses).stepsLeft = 4 * addresses.length := by
  simp [stepsLeft, ofAddresses]

theorem result?_eq_some {s : Sweep} {r : Except Fault (List Device)} (h : s.result? = some r) :
    s.waiting = [] ∧ s.holding = [] ∧ r = .ok s.devices := by
  simp only [result?, Bool.and_eq_true, List.isEmpty_iff] at h
  split at h
  · rename_i hover
    cases h
    exact ⟨hover.1, hover.2, rfl⟩
  · cases h

private theorem kept_ascending (probe : Probe) {draws : List Draw} (h : Ascending draws) :
    (kept probe draws).Pairwise fun a b => a.1 < b.1 := by
  refine h.filterMap _ ?_
  intro a b hab x hx y hy
  split at hx <;> cases hx
  split at hy <;> cases hy
  exact hab

private theorem kept_devices (draws : List Draw) :
    (kept probe draws).flatMap (·.2) = draws.flatMap fun draw => probe.finds draw.address := by
  induction draws with
  | nil => rfl
  | cons draw draws ih =>
    rw [kept, List.filterMap_cons, List.flatMap_cons, ← ih]
    by_cases he : (probe.finds draw.address).isEmpty
    · rw [List.isEmpty_iff.mp he]
      rfl
    · simp only [he, Bool.false_eq_true, if_false, List.flatMap_cons]
      rfl

theorem Account.devices {draws done : List Draw} {s : Sweep} (ha : s.Account probe draws done)
    (hasc : Ascending draws) (hdone : done.Perm draws) :
    s.devices = draws.flatMap fun draw => probe.finds draw.address := by
  have hperm : (s.found.mergeSort fun a b => decide (a.1 ≤ b.1)).Perm (kept probe draws) := by
    rw [ha.found]
    exact (List.mergeSort_perm _ _).trans (hdone.filterMap _)
  have hsorted := pairwise_mergeSort_key Prod.fst s.found
  have hkept := kept_ascending probe hasc
  rw [Sweep.devices, ← kept_devices]
  congr 1
  refine List.Perm.eq_of_pairwise ?_ hsorted (hkept.imp Nat.le_of_lt) hperm
  -- Two entries of one place are the same entry, since the places of the draws ascend.
  intro a b ha hb hab hba
  have hplaces : ((kept probe draws).map Prod.fst).Nodup :=
    List.pairwise_map.mpr (hkept.imp Nat.ne_of_lt)
  exact List.inj_on_of_nodup_map hplaces (hperm.mem_iff.mp ha) hb (Nat.le_antisymm hab hba)

theorem Account.result {addresses : List String} {done : List Draw} {s : Sweep}
    {r : Except Fault (List Device)} (ha : s.Account probe (ofAddresses addresses).waiting done)
    (hr : s.result? = some r) :
    done.Perm (ofAddresses addresses).waiting ∧ r = .ok (addresses.flatMap probe.finds) := by
  obtain ⟨hw, hh, rfl⟩ := result?_eq_some hr
  have hempty : s.granted = [] ∧ s.running = [] ∧ s.ended = [] := by
    simpa only [holding, List.append_eq_nil_iff] using hh
  have hdone : done.Perm (ofAddresses addresses).waiting := by
    simpa only [hw, hempty.1, hempty.2.1, List.nil_append] using ha.drawn
  refine ⟨hdone, ?_⟩
  rw [ha.devices (ofAddresses_ascending addresses) hdone, ← List.flatMap_map, ofAddresses_map_address]

end Sweep

namespace Party

variable {probe : Probe}

theorem step?_sweep {free free' : Nat} {s : Sweep} {m : Move} {p : Party}
    (h : (sweep probe s).step? free m = some (free', p)) :
    ∃ q : Pool, Pool.Step probe { s with free := free } m q ∧ free' = q.free ∧
      p = sweep probe q.toSweep := by
  obtain ⟨q, hq, he⟩ := Option.map_eq_some_iff.mp h
  cases he
  exact ⟨q, Pool.step?_eq_some hq, rfl, rfl⟩

theorem exists_step_sweep {free : Nat} {s : Sweep} (hover : s.result? = none)
    (hslots : 0 < free + s.holding.length) : ∃ m, ((sweep probe s).step? free m).isSome := by
  have hslot : free ≠ 0 ∨ s.holding ≠ [] := by
    rcases Nat.eq_zero_or_pos free with h | h
    · exact .inr (List.ne_nil_of_length_pos (by omega))
    · exact .inl (Nat.ne_of_gt h)
  obtain ⟨m, hm⟩ := Pool.exists_step probe { s with free := free } hover hslot
  refine ⟨m, ?_⟩
  rw [step?, Option.isSome_map]
  exact hm

end Party

end PowerDiscovery
