import Mathlib.Data.List.Nodup
import PowerDiscovery.Discovery.Snmp

/-! # Identifiers of systems

The definitions for a system are found by the components of its identifier.  An entry of the table is for the
systems whose identifiers begin with all of its components, and of the entries that are for a system the one
with the longest identifier decides, in whatever order the table is looked through. -/

namespace PowerDiscovery.Snmp

open Text

/-- The components of an identifier, which stand between its dots. -/
def components (identifier : List Char) : List (List Char) := split '.' identifier

/-- Whether an entry is for the systems with an identifier. -/
def Covers (identifier : List Char) (entry : String × String) : Prop :=
  components entry.1.toList <+: components identifier

instance (identifier : List Char) (entry : String × String) : Decidable (Covers identifier entry) :=
  inferInstanceAs (Decidable (_ <+: _))

variable {identifier : List Char} {table seen : List (String × String)} {entry other : String × String}

private theorem isUnder_iff : isUnder identifier entry.1.toList = true ↔ Covers identifier entry := by
  simp only [isUnder, Covers, components, split_isPrefix_split, Bool.or_eq_true, beq_iff_eq,
    List.isPrefixOf_iff_prefix]

private theorem Covers.isPrefix (h : Covers identifier entry) : entry.1.toList <+: identifier := by
  rcases split_isPrefix_split.mp h with heq | hbegins
  · subst heq
    exact List.prefix_refl _
  · exact (List.prefix_append _ _).trans hbegins

private theorem not_covers_of_ne {c : Char} (hc : c ≠ '.') (rest : List Char) :
    ¬ Covers (entry.1.toList ++ c :: rest) entry := by
  intro h
  rcases split_isPrefix_split.mp h with heq | hbegins
  · simp at heq
  · rw [List.prefix_append_right_inj, List.cons_prefix_cons] at hbegins
    exact hc hbegins.1.symm

private theorem Covers.eq_of_length (h : Covers identifier entry) (h' : Covers identifier other)
    (hlength : entry.1.length = other.1.length) : entry.1 = other.1 := by
  have hchars : entry.1.toList.length = other.1.toList.length := by
    rw [String.length_toList, String.length_toList, hlength]
  have hbegins := List.prefix_of_prefix_length_le h.isPrefix h'.isPrefix (Nat.le_of_eq hchars)
  exact String.toList_inj.mp (hbegins.eq_of_length hchars)

/-! ### The search -/

/-- Whether a search has kept an entry with the longest identifier of all that it has seen. -/
def Keeps (seen : List (String × String)) : Option (String × String) → Prop
  | none => seen = []
  | some best => best ∈ seen ∧ ∀ entry ∈ seen, entry.1.length ≤ best.1.length

theorem Keeps.step {kept : Option (String × String)} (h : Keeps seen kept) (entry : String × String) :
    Keeps (seen ++ [entry]) (longer kept entry) := by
  cases kept with
  | none =>
    have hnil : seen = [] := h
    subst hnil
    simp [Keeps, longer]
  | some best =>
    obtain ⟨hmem, hlongest⟩ := h
    by_cases hlt : best.1.length < entry.1.length
    · rw [longer, if_pos hlt]
      refine ⟨by simp, fun x hx => ?_⟩
      rcases List.mem_append.mp hx with hseen | hnew
      · exact Nat.le_trans (hlongest x hseen) (Nat.le_of_lt hlt)
      · exact Nat.le_of_eq (by rw [List.mem_singleton.mp hnew])
    · rw [longer, if_neg hlt]
      refine ⟨List.mem_append_left _ hmem, fun x hx => ?_⟩
      rcases List.mem_append.mp hx with hseen | hnew
      · exact hlongest x hseen
      · rw [List.mem_singleton.mp hnew]
        exact Nat.le_of_not_lt hlt

private theorem keeps_foldl {kept : Option (String × String)} (h : Keeps seen kept)
    (entries : List (String × String)) : Keeps (seen ++ entries) (entries.foldl longer kept) := by
  induction entries generalizing seen kept with
  | nil => rwa [List.append_nil, List.foldl_nil]
  | cons entry entries ih =>
    rw [List.foldl_cons, ← List.singleton_append, ← List.append_assoc]
    exact ih (h.step entry)

/-- Whether an entry of a table decides about the systems with an identifier. -/
structure Selects (table : List (String × String)) (identifier : List Char) (entry : String × String) :
    Prop where
  mem : entry ∈ table
  covers : Covers identifier entry
  longest : ∀ other ∈ table, Covers identifier other → other.1.length ≤ entry.1.length

theorem Selects.unique (hkeys : (table.map Prod.fst).Nodup) (h : Selects table identifier entry)
    (h' : Selects table identifier other) : entry = other := by
  have hlength := Nat.le_antisymm (h'.longest entry h.mem h.covers) (h.longest other h'.mem h'.covers)
  exact List.inj_on_of_nodup_map hkeys h.mem h'.mem (h.covers.eq_of_length h'.covers hlength)

private theorem foldl_longer_cases (table : List (String × String)) (identifier : List Char) :
    let known := table.filter fun entry => isUnder identifier entry.1.toList
    (known.foldl longer none = none ∧ ∀ entry ∈ table, ¬ Covers identifier entry) ∨
      ∃ best, known.foldl longer none = some best ∧ Selects table identifier best := by
  intro known
  have hknown (x : String × String) : x ∈ known ↔ x ∈ table ∧ Covers identifier x := by
    rw [List.mem_filter, isUnder_iff]
  have hnothing : Keeps [] none := rfl
  have hkeeps : Keeps known (known.foldl longer none) := keeps_foldl hnothing known
  cases hfound : known.foldl longer none with
  | none =>
    rw [hfound] at hkeeps
    have hnil : known = [] := hkeeps
    refine .inl ⟨rfl, fun x hx hcovers => ?_⟩
    have hmem := (hknown x).mpr ⟨hx, hcovers⟩
    rw [hnil] at hmem
    cases hmem
  | some best =>
    rw [hfound] at hkeeps
    obtain ⟨hmem, hlongest⟩ := hkeeps
    obtain ⟨htable, hcovers⟩ := (hknown best).mp hmem
    exact .inr ⟨best, rfl, htable, hcovers, fun x hx hx' => hlongest x ((hknown x).mpr ⟨hx, hx'⟩)⟩

variable {text name : String}

private theorem definitionsIn?_eq_some_iff (hkeys : (table.map Prod.fst).Nodup) :
    definitionsIn? table text = some name ↔ ∃ entry, Selects table (bare text) entry ∧ entry.2 = name := by
  rcases foldl_longer_cases table (bare text) with ⟨hfound, hnone⟩ | ⟨best, hfound, hbest⟩
  · simp only [definitionsIn?, hfound, Option.map_none, reduceCtorEq, false_iff, not_exists, not_and]
    intro entry hentry
    exact absurd hentry.covers (hnone entry hentry.mem)
  · simp only [definitionsIn?, hfound, Option.map_some, Option.some.injEq]
    constructor
    · intro hname
      exact ⟨best, hbest, hname⟩
    · rintro ⟨entry, hentry, hname⟩
      rw [hbest.unique hkeys hentry, hname]

private theorem definitionsIn?_eq_none_iff :
    definitionsIn? table text = none ↔ ∀ entry ∈ table, ¬ Covers (bare text) entry := by
  rcases foldl_longer_cases table (bare text) with ⟨hfound, hnone⟩ | ⟨best, hfound, hbest⟩
  · simp only [definitionsIn?, hfound, Option.map_none, true_iff]
    exact hnone
  · simp only [definitionsIn?, hfound, Option.map_some, reduceCtorEq, false_iff, not_forall, not_not]
    exact ⟨best, hbest.mem, hbest.covers⟩

/-! ### The enterprises -/

private theorem nodup_enterprises : (enterprises.map Prod.fst).Nodup := by decide

private theorem eq_of_enterprise_isPrefix : ∀ x ∈ enterprises, ∀ y ∈ enterprises,
    x.1.toList <+: y.1.toList → x = y := by
  decide

private theorem not_covers_within (hentry : entry ∈ enterprises) {c : Char} (hc : c ≠ '.') (rest : List Char)
    (hother : other ∈ enterprises) : ¬ Covers (entry.1.toList ++ c :: rest) other := by
  intro hcovers
  -- Two known identifiers that both begin the text are the same, since none of them begins another one.
  have hsame : other = entry := by
    rcases List.prefix_or_prefix_of_prefix hcovers.isPrefix (List.prefix_append _ _) with h | h
    · exact eq_of_enterprise_isPrefix other hother entry hentry h
    · exact (eq_of_enterprise_isPrefix entry hentry other hother h).symm
  rw [hsame] at hcovers
  exact not_covers_of_ne hc rest hcovers

/-- A system has definitions exactly if the components of its identifier begin with those of a known one, and
then it has those of the longest such one, in whatever order the known ones are looked through.  If its
identifier goes on within the last component of a known one, it has none. -/
theorem definitionsIn?_longest (htable : table.Perm enterprises) (text : String) :
    (∀ name, definitionsIn? table text = some name ↔
      ∃ entry, Selects enterprises (bare text) entry ∧ entry.2 = name) ∧
    (definitionsIn? table text = none ↔
      ∀ entry ∈ enterprises, ¬ components entry.1.toList <+: components (bare text)) ∧
    definitionsIn? table text = definitions? text ∧
    ∀ entry ∈ enterprises, ∀ c rest, c ≠ '.' → bare text = entry.1.toList ++ c :: rest →
      definitions? text = none := by
  have hkeys : (table.map Prod.fst).Nodup := (htable.map Prod.fst).nodup_iff.mpr nodup_enterprises
  have hselects (entry : String × String) :
      Selects table (bare text) entry ↔ Selects enterprises (bare text) entry := by
    constructor
    · rintro ⟨hmem, hcovers, hlongest⟩
      exact ⟨htable.mem_iff.mp hmem, hcovers, fun x hx => hlongest x (htable.mem_iff.mpr hx)⟩
    · rintro ⟨hmem, hcovers, hlongest⟩
      exact ⟨htable.mem_iff.mpr hmem, hcovers, fun x hx => hlongest x (htable.mem_iff.mp hx)⟩
  have hsome (name : String) : definitionsIn? table text = some name ↔
      ∃ entry, Selects enterprises (bare text) entry ∧ entry.2 = name := by
    rw [definitionsIn?_eq_some_iff hkeys]
    simp only [hselects]
  refine ⟨hsome, ?_, ?_, ?_⟩
  · rw [definitionsIn?_eq_none_iff]
    constructor
    · intro h x hx
      exact h x (htable.mem_iff.mpr hx)
    · intro h x hx
      exact h x (htable.mem_iff.mp hx)
  · apply Option.ext
    intro name
    rw [hsome, definitions?, definitionsIn?_eq_some_iff nodup_enterprises]
  · intro entry hentry c rest hc htext
    rw [definitions?, definitionsIn?_eq_none_iff, htext]
    exact fun other hother => not_covers_within hentry hc rest hother

theorem definitionsIn?_longest_reversed :
    enterprises.reverse.Perm enterprises ∧
    definitionsIn? enterprises.reverse "\t..1.3.6.1.4.1.318..27. " = some "apcc" ∧
    definitions? ".1.3.6.1.4.1.3181" = none := by
  obtain ⟨hsome, -, -, -⟩ :=
    definitionsIn?_longest (List.reverse_perm enterprises) "\t..1.3.6.1.4.1.318..27. "
  obtain ⟨-, -, -, hwithin⟩ := definitionsIn?_longest (List.reverse_perm enterprises) ".1.3.6.1.4.1.3181"
  refine ⟨List.reverse_perm enterprises, (hsome "apcc").mpr ⟨("1.3.6.1.4.1.318", "apcc"), ?_, rfl⟩, ?_⟩
  · exact ⟨by decide, by decide, by decide⟩
  · exact hwithin ("1.3.6.1.4.1.318", "apcc") (by decide) '1' [] (by decide) (by decide)

end PowerDiscovery.Snmp
