/-! # White space

White space is Unicode's property White_Space together with the four information separators
U+001C to U+001F.  Text is taken as a list of characters. -/

namespace PowerDiscovery.Text

/-- A character of the property White_Space, or an information separator. -/
def isBlank (c : Char) : Bool :=
  let n := c.toNat
  (0x09 ≤ n && n ≤ 0x0D) || (0x1C ≤ n && n ≤ 0x20) || n == 0x85 || n == 0xA0 || n == 0x1680
    || (0x2000 ≤ n && n ≤ 0x200A) || n == 0x2028 || n == 0x2029 || n == 0x202F || n == 0x205F
    || n == 0x3000

def dropEndWhile (p : Char → Bool) (cs : List Char) : List Char :=
  (cs.reverse.dropWhile p).reverse

def trimWhile (p : Char → Bool) (cs : List Char) : List Char :=
  dropEndWhile p (cs.dropWhile p)

def trim (s : String) : String :=
  String.ofList (trimWhile isBlank s.toList)

def isBlankText (s : String) : Bool :=
  s.toList.all isBlank

theorem dropEndWhile_append {p : Char → Bool} (cs : List Char) {tail : List Char}
    (h : ∀ c ∈ tail, p c = true) : dropEndWhile p (cs ++ tail) = dropEndWhile p cs := by
  have hr : ∀ c ∈ tail.reverse, p c = true := fun c hc => h c (List.mem_reverse.1 hc)
  simp [dropEndWhile, List.dropWhile_append_of_pos hr]

theorem mem_dropWhile {p : Char → Bool} {c : Char} {cs : List Char} (hp : p c = false) :
    c ∈ cs.dropWhile p ↔ c ∈ cs := by
  induction cs with
  | nil => rfl
  | cons d cs ih =>
    by_cases hd : p d = true
    · have hne : c ≠ d := fun h => by simp [h, hd] at hp
      simp [hd, ih, hne]
    · simp [hd]

theorem mem_trimWhile {p : Char → Bool} {c : Char} {cs : List Char} (hp : p c = false) :
    c ∈ trimWhile p cs ↔ c ∈ cs := by
  simp only [trimWhile, dropEndWhile, List.mem_reverse, mem_dropWhile hp]

theorem trimWhile_append {p : Char → Bool} {before cs after : List Char} (hbefore : ∀ c ∈ before, p c = true)
    (hcs : ∀ c ∈ cs, p c = false) (hafter : ∀ c ∈ after, p c = true) :
    trimWhile p (before ++ cs ++ after) = cs := by
  have hkept (xs ys : List Char) (hxs : ∀ c ∈ xs, p c = false) (hne : xs ≠ []) :
      (xs ++ ys).dropWhile p = xs ++ ys := by
    cases xs with
    | nil => exact absurd rfl hne
    | cons x xs =>
      rw [List.cons_append, List.dropWhile_cons, hxs x List.mem_cons_self, if_neg Bool.false_ne_true]
  rw [List.append_assoc, trimWhile, List.dropWhile_append_of_pos hbefore]
  by_cases hnil : cs = []
  · have hnone : (after ++ []).dropWhile p = [] := List.dropWhile_append_of_pos hafter
    rw [hnil, List.nil_append, ← List.append_nil after, hnone]
    rfl
  · have hreverse : ∀ c ∈ cs.reverse, p c = false := fun c hc => hcs c (List.mem_reverse.1 hc)
    have hend := hkept cs.reverse [] hreverse (mt List.reverse_eq_nil_iff.1 hnil)
    rw [List.append_nil] at hend
    rw [hkept cs after hcs hnil, dropEndWhile_append cs hafter, dropEndWhile, hend, List.reverse_reverse]

theorem exists_trimWhile (p : Char → Bool) (cs : List Char) :
    ∃ before after, cs = before ++ trimWhile p cs ++ after ∧ (∀ c ∈ before, p c = true) ∧
      ∀ c ∈ after, p c = true := by
  have htaken (xs : List Char) : ∀ c ∈ xs.takeWhile p, p c = true := List.all_eq_true.1 List.all_takeWhile
  have hend := congrArg List.reverse (List.takeWhile_append_dropWhile (p := p) (l := (cs.dropWhile p).reverse))
  rw [List.reverse_append, List.reverse_reverse] at hend
  refine ⟨cs.takeWhile p, ((cs.dropWhile p).reverse.takeWhile p).reverse, ?_, htaken _, ?_⟩
  · rw [List.append_assoc, trimWhile, dropEndWhile, hend, List.takeWhile_append_dropWhile]
  · exact fun c hc => htaken _ c (List.mem_reverse.1 hc)

theorem trim_of_not_blank {s : String} (h : ∀ c ∈ s.toList, isBlank c = false) : trim s = s := by
  have hchars : trimWhile isBlank ([] ++ s.toList ++ []) = s.toList := trimWhile_append nofun h nofun
  rw [List.nil_append, List.append_nil] at hchars
  rw [trim, hchars, String.ofList_toList]

end PowerDiscovery.Text
