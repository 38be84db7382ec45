/-! # Cutting lists at a separator

`split` cuts at every occurrence of a separator and always gives at least one piece; joining the
pieces with the separator restores the text. -/

namespace PowerDiscovery.Text

variable {α : Type} [DecidableEq α]

def split (sep : α) : List α → List (List α)
  | [] => [[]]
  | c :: cs =>
    if c = sep then [] :: split sep cs
    else match split sep cs with
      | [] => [[c]]
      | piece :: pieces => (c :: piece) :: pieces

def join (sep : α) : List (List α) → List α
  | [] => []
  | [piece] => piece
  | piece :: pieces => piece ++ sep :: join sep pieces

theorem split_ne_nil (sep : α) (cs : List α) : split sep cs ≠ [] := by
  induction cs with
  | nil => simp [split]
  | cons c cs ih =>
    by_cases h : c = sep
    · simp [split, h]
    · cases hs : split sep cs with
      | nil => exact absurd hs ih
      | cons piece pieces => simp [split, h, hs]

theorem join_split (sep : α) (cs : List α) : join sep (split sep cs) = cs := by
  induction cs with
  | nil => rfl
  | cons c cs ih =>
    cases hs : split sep cs with
    | nil => exact absurd hs (split_ne_nil sep cs)
    | cons piece pieces =>
      rw [hs] at ih
      by_cases h : c = sep
      · rw [split, if_pos h, hs, join, ih, h]
        · rfl
        · simp
      · cases pieces with
        | nil => simpa [split, h, hs, join] using ih
        | cons next pieces => simpa [split, h, hs, join] using ih

theorem not_mem_of_mem_split {sep : α} {cs piece : List α} (h : piece ∈ split sep cs) :
    sep ∉ piece := by
  induction cs generalizing piece with
  | nil => simp_all [split]
  | cons c cs ih =>
    cases hs : split sep cs with
    | nil => exact absurd hs (split_ne_nil sep cs)
    | cons first pieces =>
      rw [hs] at ih
      by_cases hc : c = sep
      · rw [split, if_pos hc, hs] at h
        rcases List.mem_cons.1 h with rfl | h
        · exact List.not_mem_nil
        · exact ih h
      · rw [split, if_neg hc, hs] at h
        rcases List.mem_cons.1 h with rfl | h
        · exact List.not_mem_cons_of_ne_of_not_mem (Ne.symm hc) (ih List.mem_cons_self)
        · exact ih (List.mem_cons_of_mem _ h)

theorem split_of_not_mem {sep : α} {cs : List α} (h : sep ∉ cs) : split sep cs = [cs] := by
  induction cs with
  | nil => rfl
  | cons c cs ih =>
    obtain ⟨hc, hcs⟩ := List.ne_and_not_mem_of_not_mem_cons h
    rw [split, if_neg (Ne.symm hc), ih hcs]

theorem split_append (sep : α) (front back : List α) :
    split sep (front ++ sep :: back) = split sep front ++ split sep back := by
  induction front with
  | nil => simp [split]
  | cons c front ih =>
    by_cases hc : c = sep
    · simp [split, hc, ih]
    · obtain ⟨piece, pieces, hs⟩ := List.exists_cons_of_ne_nil (split_ne_nil sep front)
      simp [split, hc, ih, hs]

theorem split_append_cons {sep : α} {piece : List α} (h : sep ∉ piece) (cs : List α) :
    split sep (piece ++ sep :: cs) = piece :: split sep cs := by
  rw [split_append, split_of_not_mem h, List.singleton_append]

theorem split_append_left {sep : α} {front : List α} (h : sep ∉ front) (cs : List α) :
    ∃ piece pieces, split sep (front ++ cs) = (front ++ piece) :: pieces := by
  induction front with
  | nil => exact List.exists_cons_of_ne_nil (split_ne_nil sep cs)
  | cons c front ih =>
    obtain ⟨hc, hfront⟩ := List.ne_and_not_mem_of_not_mem_cons h
    obtain ⟨piece, pieces, hs⟩ := ih hfront
    exact ⟨piece, pieces, by simp [split, Ne.symm hc, hs]⟩

theorem length_split (sep : α) (cs : List α) : (split sep cs).length = cs.count sep + 1 := by
  induction cs with
  | nil => rfl
  | cons c cs ih =>
    by_cases hc : c = sep
    · simp [split, hc, ih]
    · obtain ⟨piece, pieces, hs⟩ := List.exists_cons_of_ne_nil (split_ne_nil sep cs)
      rw [hs] at ih
      simpa [split, hc, hs] using ih

theorem split_join {sep : α} {pieces : List (List α)} (hne : pieces ≠ [])
    (h : ∀ piece ∈ pieces, sep ∉ piece) : split sep (join sep pieces) = pieces := by
  induction pieces with
  | nil => exact absurd rfl hne
  | cons piece pieces ih =>
    obtain ⟨hpiece, hpieces⟩ := List.forall_mem_cons.1 h
    cases pieces with
    | nil => rw [join, split_of_not_mem hpiece]
    | cons next pieces =>
      rw [join, split_append_cons hpiece, ih (List.cons_ne_nil next pieces) hpieces]
      simp

omit [DecidableEq α] in
theorem mem_join {sep c : α} {pieces : List (List α)} (h : c ∈ join sep pieces) :
    c = sep ∨ ∃ piece ∈ pieces, c ∈ piece := by
  induction pieces with
  | nil => simp [join] at h
  | cons piece pieces ih =>
    cases pieces with
    | nil => exact .inr ⟨piece, List.mem_cons_self, h⟩
    | cons next pieces =>
      have hc : c ∈ piece ∨ c = sep ∨ c ∈ join sep (next :: pieces) := by simpa [join] using h
      rcases hc with hc | rfl | hc
      · exact .inr ⟨piece, List.mem_cons_self, hc⟩
      · exact .inl rfl
      · rcases ih hc with rfl | ⟨other, hother, hc⟩
        · exact .inl rfl
        · exact .inr ⟨other, List.mem_cons_of_mem _ hother, hc⟩

omit [DecidableEq α] in
theorem join_cons (sep : α) (piece : List α) (pieces : List (List α)) :
    join sep (piece :: pieces) = piece ++ pieces.flatMap (sep :: ·) := by
  induction pieces generalizing piece with
  | nil => simp [join]
  | cons next pieces ih => simp [join, ih]

theorem count_join {sep c : α} (h : sep ≠ c) (pieces : List (List α)) :
    (join sep pieces).count c = pieces.flatten.count c := by
  induction pieces with
  | nil => rfl
  | cons piece pieces ih =>
    cases pieces with
    | nil => simp [join]
    | cons next pieces => simp [join, h, ih]

omit [DecidableEq α] in
theorem join_concat (sep : α) {pieces : List (List α)} (hne : pieces ≠ []) :
    join sep pieces ++ [sep] = pieces.flatMap (· ++ [sep]) := by
  induction pieces with
  | nil => exact absurd rfl hne
  | cons piece pieces ih =>
    cases pieces with
    | nil => simp [join]
    | cons next pieces => simpa [join] using ih

omit [DecidableEq α] in
theorem join_append (sep : α) {front back : List (List α)} (hfront : front ≠ []) (hback : back ≠ []) :
    join sep (front ++ back) = join sep front ++ sep :: join sep back := by
  induction front with
  | nil => exact absurd rfl hfront
  | cons piece front ih =>
    cases front with
    | nil =>
      cases back with
      | nil => exact absurd rfl hback
      | cons next back => rfl
    | cons next front => simp [join, ← ih]

/-- The pieces of one list are the first ones of another exactly if the other is the same list or goes on after
it with the separator. -/
theorem split_isPrefix_split {sep : α} {front cs : List α} :
    split sep front <+: split sep cs ↔ cs = front ∨ front ++ [sep] <+: cs := by
  constructor
  · rintro ⟨back, hback⟩
    have hjoin := congrArg (join sep) hback
    rw [join_split] at hjoin
    cases back with
    | nil =>
      rw [List.append_nil, join_split] at hjoin
      exact .inl hjoin.symm
    | cons piece pieces =>
      rw [join_append sep (split_ne_nil sep front) (List.cons_ne_nil piece pieces), join_split] at hjoin
      exact .inr ⟨join sep (piece :: pieces), by rw [← hjoin, List.append_assoc, List.singleton_append]⟩
  · rintro (rfl | ⟨rest, rfl⟩)
    · exact List.prefix_refl _
    · rw [List.append_assoc, List.singleton_append, split_append]
      exact List.prefix_append _ _

omit [DecidableEq α] in
theorem join_eq_intercalate (sep : α) (pieces : List (List α)) :
    join sep pieces = [sep].intercalate pieces := by
  induction pieces with
  | nil => rfl
  | cons piece pieces ih =>
    cases pieces with
    | nil => simp [join]
    | cons next pieces => simp [join, ih]

/-- What stands before the first occurrence of a separator, and, if there is one, what follows it. -/
def cut (sep : α) : List α → List α × Option (List α)
  | [] => ([], none)
  | c :: cs => if c = sep then ([], some cs) else (c :: (cut sep cs).1, (cut sep cs).2)

theorem cut_of_not_mem {sep : α} {cs : List α} (h : sep ∉ cs) : cut sep cs = (cs, none) := by
  induction cs with
  | nil => rfl
  | cons c cs ih =>
    obtain ⟨hc, hcs⟩ := List.ne_and_not_mem_of_not_mem_cons h
    rw [cut, if_neg (Ne.symm hc), ih hcs]

theorem cut_append_cons {sep : α} {cs : List α} (h : sep ∉ cs) (rest : List α) :
    cut sep (cs ++ sep :: rest) = (cs, some rest) := by
  induction cs with
  | nil => simp [cut]
  | cons c cs ih =>
    obtain ⟨hc, hcs⟩ := List.ne_and_not_mem_of_not_mem_cons h
    rw [List.cons_append, cut, if_neg (Ne.symm hc), ih hcs]

theorem append_cut (sep : α) (cs : List α) :
    (cut sep cs).1 ++ (cut sep cs).2.elim [] (sep :: ·) = cs := by
  induction cs with
  | nil => rfl
  | cons c cs ih =>
    by_cases hc : c = sep
    · simp [cut, hc]
    · simp [cut, hc, ih]

theorem not_mem_cut (sep : α) (cs : List α) : sep ∉ (cut sep cs).1 := by
  induction cs with
  | nil => exact List.not_mem_nil
  | cons c cs ih =>
    by_cases hc : c = sep
    · simp [cut, hc]
    · simp [cut, hc, ih, Ne.symm hc]

omit [DecidableEq α] in
theorem takeWhile_run {p : α → Bool} {run rest : List α} {c : α} (hrun : ∀ x ∈ run, p x = true)
    (hc : p c = false) : (run ++ c :: rest).takeWhile p = run := by
  rw [List.takeWhile_append_of_pos hrun, List.takeWhile_cons, hc, if_neg Bool.false_ne_true, List.append_nil]

omit [DecidableEq α] in
theorem dropWhile_run {p : α → Bool} {run rest : List α} {c : α} (hrun : ∀ x ∈ run, p x = true)
    (hc : p c = false) : (run ++ c :: rest).dropWhile p = c :: rest := by
  rw [List.dropWhile_append_of_pos hrun, List.dropWhile_cons, hc, if_neg Bool.false_ne_true]

def pieces (sep : Char) (s : String) : List String :=
  (split sep s.toList).map String.ofList

def occursIn (needle : List Char) : List Char → Bool
  | [] => needle.isEmpty
  | c :: cs => needle.isPrefixOf (c :: cs) || occursIn needle cs

end PowerDiscovery.Text
