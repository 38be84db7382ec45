import PowerDiscovery.CommandLine.Arguments
import PowerDiscovery.Proofs.Steps

/-! # Options given on a command line

Of an option that is given several times the last value counts, wherever it stands among the others.  An
option that takes a value is never given without one, so arguments tell whether it was given. -/

namespace PowerDiscovery.CommandLine

/-! ### What is read -/

/-- Whether the value of an option was read from a word, if the option takes one. -/
def Given.IsRead (g : Given) : Prop :=
  g.flag.operand ≠ .none → ∃ text, readValue g.flag text = .ok g.value

theorem addGiven_eq_ok {sofar out : List Given} {g : Given} (h : addGiven sofar g = .ok out) :
    out = sofar ++ [g] := by
  simp only [addGiven] at h
  split at h
  · cases h
  · exact (Except.ok.inj h).symm

private theorem addGiven_read {sofar out : List Given} {g : Given} (h : addGiven sofar g = .ok out)
    (hsofar : ∀ x ∈ sofar, x.IsRead) (hg : g.IsRead) : ∀ x ∈ out, x.IsRead := by
  rw [addGiven_eq_ok h]
  intro x hx
  rcases List.mem_append.mp hx with hx | hx
  · exact hsofar x hx
  · rw [List.mem_singleton.mp hx]
    exact hg

private theorem addSwitches_read {sofar out : List Given} {flags : List Flag}
    (h : addSwitches sofar flags = .ok out) (hsofar : ∀ x ∈ sofar, x.IsRead)
    (hflags : ∀ f ∈ flags, f.operand = .none) : ∀ x ∈ out, x.IsRead := by
  induction flags generalizing sofar with
  | nil =>
    cases h
    exact hsofar
  | cons f fs ih =>
    obtain ⟨next, hnext, hout⟩ := bind_eq_ok.mp h
    apply ih hout
    · apply addGiven_read hnext hsofar
      intro hf
      exact absurd (hflags f List.mem_cons_self) hf
    · intro x hx
      exact hflags x (List.mem_cons_of_mem f hx)

private theorem Cluster.spread_switches {flag : Flag} {isShort : Bool} {cs : List Char} {c : Cluster}
    (h : spread flag isShort cs = .ok c) : ∀ f ∈ c.switches, f.operand = .none := by
  induction cs generalizing flag isShort c with
  | nil =>
    simp only [spread] at h
    split at h
    · cases h
    · cases h
      intro f hf
      cases hf
  | cons x xs ih =>
    simp only [spread] at h
    split at h
    · cases h
      intro f hf
      cases hf
    rename_i hswitch
    rw [ne_eq, Decidable.not_not] at hswitch
    split at h
    · split at h
      · cases h
        intro f hf
        rw [List.mem_singleton.mp hf]
        exact hswitch
      · obtain ⟨rest, hrest, hc⟩ := bind_eq_ok.mp h
        cases hc
        intro f hf
        rcases List.mem_cons.mp hf with rfl | hf
        · exact hswitch
        · exact ih hrest f hf
    · cases h

private theorem Cluster.read_switches {flag : Flag} {isShort : Bool} {value : Option (List Char)} {c : Cluster}
    (h : read flag isShort value = .ok c) : ∀ f ∈ c.switches, f.operand = .none := by
  cases value with
  | none =>
    cases h
    intro f hf
    cases hf
  | some cs => exact spread_switches h

private theorem Cluster.addTo_read {sofar out : List Given} {c : Cluster} {text : String}
    (h : c.addTo sofar text = .ok out) (hsofar : ∀ g ∈ sofar, g.IsRead)
    (hswitches : ∀ f ∈ c.switches, f.operand = .none) : ∀ g ∈ out, g.IsRead := by
  obtain ⟨given, hgiven, hrest⟩ := bind_eq_ok.mp h
  obtain ⟨v, hv, hout⟩ := bind_eq_ok.mp hrest
  apply addGiven_read hout
  · exact addSwitches_read hgiven hsofar hswitches
  · intro _
    exact ⟨text, hv⟩

/-- What holds of the options taken so far: each has its value, and only the last one of a word may wait
for one. -/
structure Parsed.IsRead (p : Parsed) : Prop where
  given : ∀ g ∈ p.given, g.IsRead
  waiting : ∀ c, p.waiting = some c → ∀ f ∈ c.switches, f.operand = .none

private theorem Parsed.take_read {p out : Parsed} {word : String × Word} (h : p.take word = .ok out)
    (hp : p.IsRead) : out.IsRead := by
  unfold take at h
  split at h
  · rename_i c hwaiting hword
    obtain ⟨given, hgiven, hout⟩ := bind_eq_ok.mp h
    cases hout
    refine ⟨Cluster.addTo_read hgiven hp.given (hp.waiting c hwaiting), ?_⟩
    intro c' hc'
    cases hc'
  · cases h
  · rename_i flag isShort value hwaiting hword
    obtain ⟨c, hcluster, hrest⟩ := bind_eq_ok.mp h
    have hswitches := Cluster.read_switches hcluster
    split at hrest
    · rename_i hlast
      obtain ⟨given, hgiven, hout⟩ := bind_eq_ok.mp hrest
      cases hout
      refine ⟨addSwitches_read hgiven hp.given ?_, hp.waiting⟩
      intro f hf
      rcases List.mem_append.mp hf with hf | hf
      · exact hswitches f hf
      · rw [List.mem_singleton.mp hf]
        exact hlast
    split at hrest
    · obtain ⟨given, hgiven, hout⟩ := bind_eq_ok.mp hrest
      cases hout
      exact ⟨Cluster.addTo_read hgiven hp.given hswitches, hp.waiting⟩
    · cases hrest
      refine ⟨hp.given, ?_⟩
      intro c' hc'
      cases hc'
      exact hswitches
  · cases h
    exact ⟨hp.given, hp.waiting⟩

private theorem Parsed.foldlM_read {words : List (String × Word)} {p out : Parsed}
    (h : words.foldlM Parsed.take p = .ok out) (hp : p.IsRead) : out.IsRead := by
  induction words generalizing p with
  | nil =>
    cases h
    exact hp
  | cons word words ih =>
    obtain ⟨next, hnext, hout⟩ := bind_eq_ok.mp h
    exact ih hout (take_read hnext hp)

theorem readOptions_read {words : List String} {given : List Given}
    (h : readOptions words = .ok given) : ∀ g ∈ given, g.IsRead := by
  obtain ⟨classified, hclassified, hrest⟩ := bind_eq_ok.mp h
  obtain ⟨parsed, hparsed, hend⟩ := bind_eq_ok.mp hrest
  have hnone : ({} : Parsed).IsRead := by
    refine ⟨?_, ?_⟩
    · intro g hg
      cases hg
    · intro c hc
      cases hc
  have hread := Parsed.foldlM_read hparsed hnone
  split at hend
  · cases hend
  split at hend
  · cases hend
    exact hread.given
  · cases hend

private theorem readValue_eq_ok {flag : Flag} {text : String} {v : Value} (h : readValue flag text = .ok v) :
    v = .list [] ∨ (∃ n, v = .int n) ∨ ∃ t, v = .text t := by
  unfold readValue at h
  split at h
  · exact .inl (Except.ok.inj h).symm
  split at h
  · split at h <;> cases h
    exact .inr (.inl ⟨_, rfl⟩)
  · exact .inr (.inr ⟨_, (Except.ok.inj h).symm⟩)
  · exact .inr (.inr ⟨_, (Except.ok.inj h).symm⟩)

theorem Given.IsRead.isNull {g : Given} (hg : g.IsRead) (hoperand : g.flag.operand ≠ .none) :
    g.value.isNull = false := by
  obtain ⟨text, hvalue⟩ := hg hoperand
  rcases readValue_eq_ok hvalue with h | ⟨n, h⟩ | ⟨t, h⟩ <;> rw [h] <;> rfl

/-- An option that takes any text has just this text for its value, unless it is the mark after which
there are no options. -/
theorem Given.IsRead.value_of_text {g : Given} (hg : g.IsRead) {metavar : String}
    (hoperand : g.flag.operand = .text metavar) : g.value = .list [] ∨ ∃ t, g.value = .text t := by
  have hsome : g.flag.operand ≠ .none := by
    rw [hoperand]
    exact Operand.noConfusion
  obtain ⟨text, hvalue⟩ := hg hsome
  simp only [readValue, hoperand] at hvalue
  split at hvalue
  · exact .inl (Except.ok.inj hvalue).symm
  · exact .inr ⟨text, (Except.ok.inj hvalue).symm⟩

/-! ### What arguments hold -/

def lastValue? (given : List Given) (f : Flag) : Option Value :=
  ((given.filter fun g => g.flag = f).getLast?).map Given.value

private theorem lastValue?_cons (g : Given) (given : List Given) (f : Flag) :
    lastValue? (g :: given) f =
      (lastValue? given f).or (if g.flag = f then some g.value else none) := by
  by_cases hg : g.flag = f
  · simp only [lastValue?, List.filter_cons, hg, decide_true, if_true, List.getLast?_cons,
      Option.map_some]
    cases (given.filter fun g => g.flag = f).getLast? <;> rfl
  · simp [lastValue?, hg]

theorem lastValue?_eq_none_iff {given : List Given} {f : Flag} :
    lastValue? given f = none ↔ ∀ g ∈ given, g.flag ≠ f := by
  simp [lastValue?]

theorem mem_of_lastValue? {given : List Given} {f : Flag} {v : Value}
    (h : lastValue? given f = some v) : ⟨f, v⟩ ∈ given := by
  simp only [lastValue?, Option.map_eq_some_iff] at h
  obtain ⟨⟨flag, value⟩, hlast, rfl⟩ := h
  obtain ⟨hmem, hflag⟩ := List.mem_filter.mp (List.mem_of_getLast? hlast)
  rw [decide_eq_true_eq] at hflag
  exact hflag ▸ hmem

namespace Arguments

/-- The value that arguments hold for an option that takes one.  Range arguments are kept apart. -/
def valueOf (a : Arguments) : Flag → Option Value
  | .eatonSerial => some a.eatonSerial
  | .thread => some a.thread
  | .timeout => some a.timeout
  | .community => some a.community
  | .secLevel => some a.secLevel
  | .secName => some a.secName
  | .authPassword => some a.authPassword
  | .privPassword => some a.privPassword
  | .authProtocol => some a.authProtocol
  | .privProtocol => some a.privProtocol
  | .username => some a.username
  | .password => some a.password
  | .authType => some a.authType
  | .cipherSuite => some a.cipherSuite
  | .port => some a.port
  | .config => some a.config
  | _ => none

/-- What an option may turn on, and none turns off, is on if it was before or one of the options turns it on. -/
theorem foldl_take_any (isOn : Arguments → Bool) (turnsOn : Given → Bool)
    (htake : ∀ a g, isOn (take a g) = (isOn a || turnsOn g)) (a : Arguments) (given : List Given) :
    isOn (given.foldl take a) = (isOn a || given.any turnsOn) := by
  induction given generalizing a with
  | nil => simp
  | cons g gs ih => rw [List.foldl_cons, ih, htake, List.any_cons, Bool.or_assoc]

private theorem valueOf_take (a : Arguments) (g : Given) (f : Flag) :
    (a.take g).valueOf f = (a.valueOf f).map fun v => if g.flag = f then g.value else v := by
  obtain ⟨flag, value⟩ := g
  cases flag <;> cases f <;> rfl

private theorem valueOf_foldl (a : Arguments) (given : List Given) (f : Flag) :
    (given.foldl take a).valueOf f = (a.valueOf f).map fun v => (lastValue? given f).getD v := by
  induction given generalizing a with
  | nil => simp [lastValue?]
  | cons g gs ih =>
    simp only [List.foldl_cons, ih, valueOf_take, Option.map_map, lastValue?_cons]
    congr 1
    funext v
    cases lastValue? gs f <;> by_cases hg : g.flag = f <;> simp [hg]

theorem valueOf_ofGiven (given : List Given) (f : Flag) :
    (ofGiven given).valueOf f = (({} : Arguments).valueOf f).map fun v => (lastValue? given f).getD v :=
  valueOf_foldl {} given f

theorem exists_given_iff {given : List Given} (hread : ∀ g ∈ given, g.IsRead) (flags : List Flag)
    (hflags : ∀ f ∈ flags, (({} : Arguments).valueOf f).isSome = true ∧ f.operand ≠ .none) :
    ((flags.filterMap (ofGiven given).valueOf).any fun v => !v.isNull) = true ↔
      ∃ g ∈ given, g.flag ∈ flags := by
  have hnull (f : Flag) (v : Value) (hv : ({} : Arguments).valueOf f = some v) : v = .null := by
    cases f <;> cases hv <;> rfl
  rw [List.any_eq_true]
  constructor
  · rintro ⟨v, hv, hgiven⟩
    obtain ⟨f, hf, hvalue⟩ := List.mem_filterMap.mp hv
    rw [valueOf_ofGiven] at hvalue
    obtain ⟨v₀, hv₀, rfl⟩ := Option.map_eq_some_iff.mp hvalue
    cases hlast : lastValue? given f with
    | none =>
      rw [hlast, hnull f v₀ hv₀] at hgiven
      cases hgiven
    | some w => exact ⟨⟨f, w⟩, mem_of_lastValue? hlast, hf⟩
  · rintro ⟨g, hg, hf⟩
    obtain ⟨hsome, hoperand⟩ := hflags g.flag hf
    obtain ⟨v₀, hv₀⟩ := Option.isSome_iff_exists.mp hsome
    cases hlast : lastValue? given g.flag with
    | none => exact absurd rfl (lastValue?_eq_none_iff.mp hlast g hg)
    | some w =>
      refine ⟨w, List.mem_filterMap.mpr ⟨g.flag, hf, ?_⟩, ?_⟩
      · rw [valueOf_ofGiven, hv₀, hlast]
        rfl
      · have hw := (hread _ (mem_of_lastValue? hlast)).isNull hoperand
        rw [hw]
        rfl

end Arguments

end PowerDiscovery.CommandLine
