import Mathlib.Data.List.Nodup
import Mathlib.Order.Lattice

/-! # Lists sorted by a key

A list whose members differ in a key is sorted by it in one way only, so the order in which the members came
does not show any more. -/

namespace PowerDiscovery

variable {α β : Type} [LinearOrder β] (key : α → β) {l l' : List α}

theorem pairwise_mergeSort_key (l : List α) :
    (l.mergeSort fun a b => decide (key a ≤ key b)).Pairwise fun a b => key a ≤ key b := by
  have hsorted : (l.mergeSort fun a b => decide (key a ≤ key b)).Pairwise
      fun a b => decide (key a ≤ key b) = true := by
    apply List.pairwise_mergeSort
    · intro a b c hab hbc
      rw [decide_eq_true_eq] at hab hbc ⊢
      exact le_trans hab hbc
    · intro a b
      rw [Bool.or_eq_true, decide_eq_true_eq, decide_eq_true_eq]
      exact le_total _ _
  exact hsorted.imp of_decide_eq_true

theorem mergeSort_key_ascending (h : (l.map key).Nodup) :
    (l.mergeSort fun a b => decide (key a ≤ key b)).Pairwise fun a b => key a < key b := by
  have hdistinct : (l.mergeSort fun a b => decide (key a ≤ key b)).Pairwise fun a b => key a ≠ key b :=
    List.pairwise_map.mp ((((List.mergeSort_perm l _).map key).nodup_iff).mpr h)
  exact (pairwise_mergeSort_key key l).imp₂ (fun _ _ => lt_of_le_of_ne) hdistinct

theorem mergeSort_key_congr (h : (l.map key).Nodup) (hperm : l.Perm l') :
    (l.mergeSort fun a b => decide (key a ≤ key b)) = l'.mergeSort fun a b => decide (key a ≤ key b) := by
  have h' : (l'.map key).Nodup := (hperm.map key).nodup_iff.mp h
  have hsame := (List.mergeSort_perm l fun a b => decide (key a ≤ key b)).trans
    (hperm.trans (List.mergeSort_perm l' fun a b => decide (key a ≤ key b)).symm)
  refine hsame.eq_of_pairwise ?_ (mergeSort_key_ascending key h) (mergeSort_key_ascending key h')
  intro x y _ _ hxy hyx
  exact absurd hxy (lt_asymm hyx)

theorem exists_first {p : α → Prop} (hascending : l.Pairwise fun a b => key a < key b) (h : ∃ x ∈ l, p x) :
    ∃ before x after, l = before ++ x :: after ∧ p x ∧ (∀ y ∈ before, ¬ p y) ∧
      ∀ y ∈ l, p y → key x ≤ key y := by
  classical
  obtain ⟨z, hz, hpz⟩ := h
  obtain ⟨x, hx⟩ := Option.isSome_iff_exists.mp
    (List.find?_isSome.mpr ⟨z, hz, decide_eq_true hpz⟩ : (l.find? fun y => decide (p y)).isSome = true)
  obtain ⟨hpx, before, after, rfl, hnone⟩ := List.find?_eq_some_iff_append.mp hx
  have hbefore : ∀ y ∈ before, ¬ p y := fun y hy => by simpa using hnone y hy
  have hafter := (List.pairwise_cons.mp (List.pairwise_append.mp hascending).2.1).1
  refine ⟨before, x, after, rfl, of_decide_eq_true hpx, hbefore, fun y hy hpy => ?_⟩
  rcases List.mem_append.mp hy with hy | hy
  · exact absurd hpy (hbefore y hy)
  · rcases List.mem_cons.mp hy with rfl | hy
    · exact le_rfl
    · exact (hafter y hy).le

end PowerDiscovery
