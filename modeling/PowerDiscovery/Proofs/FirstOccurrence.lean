import Mathlib.Data.List.Basic

/-! # First occurrences

Without its repetitions, a list keeps the first occurrence of each of its members. -/

namespace PowerDiscovery

variable {α : Type} [BEq α] [LawfulBEq α]

theorem eraseDups_concat_of_mem {xs : List α} {x : α} (h : x ∈ xs) : (xs ++ [x]).eraseDups = xs.eraseDups := by
  rw [List.eraseDups_append]
  simp [List.removeAll, h]

theorem eraseDups_concat_of_not_mem {xs : List α} {x : α} (h : x ∉ xs) :
    (xs ++ [x]).eraseDups = xs.eraseDups ++ [x] := by
  rw [List.eraseDups_append]
  simp [List.removeAll, List.eraseDups_cons, h]

/-- The members that satisfy a test come in the order of their first occurrences in the whole list. -/
theorem pairwise_idxOf_eraseDups (xs : List α) (p : α → Bool) :
    (xs.filter p).eraseDups.Pairwise fun x y => xs.idxOf x < xs.idxOf y := by
  induction xs generalizing p with
  | nil => exact .nil
  | cons a xs ih =>
    have hne {q : α → Bool} (hq : q a = false) : ∀ x ∈ (xs.filter q).eraseDups, a ≠ x := by
      intro x hx heq
      have hqx := (List.mem_filter.1 (List.mem_eraseDups.1 hx)).2
      rw [← heq, hq] at hqx
      cases hqx
    have hlater {q : α → Bool} (hq : q a = false) :
        (xs.filter q).eraseDups.Pairwise fun x y => (a :: xs).idxOf x < (a :: xs).idxOf y := by
      apply (ih q).imp_of_mem
      intro x y hx hy hlt
      rw [List.idxOf_cons_ne _ (hne hq x hx), List.idxOf_cons_ne _ (hne hq y hy)]
      exact Nat.succ_lt_succ hlt
    by_cases hp : p a = true
    · -- The first member is the first occurrence of its kind; the tail is searched for the other kinds.
      rw [List.filter_cons_of_pos hp, List.eraseDups_cons, List.filter_filter, List.pairwise_cons]
      have hself : (!a == a && p a) = false := by simp
      constructor
      · intro y hy
        rw [List.idxOf_cons_self, List.idxOf_cons_ne _ (hne hself y hy)]
        exact Nat.succ_pos _
      · exact hlater hself
    · rw [List.filter_cons_of_neg hp]
      exact hlater (Bool.eq_false_iff.2 hp)

theorem nodup_eraseDups (xs : List α) : xs.eraseDups.Nodup := by
  have horder := pairwise_idxOf_eraseDups xs fun _ => true
  rw [List.filter_true] at horder
  apply horder.imp
  intro x y hlt heq
  subst heq
  exact Nat.lt_irrefl _ hlt

end PowerDiscovery
