import PowerDiscovery.Proofs.CommandLine.LastGiven

/-! # Backends that a command line names

Each backend has an option that asks for its scan.  The options of a command line are those of its words, in
their order.  A backend whose option is among them is requested; the one for serial ports only if the last of
its options has a text for them that is not empty. -/

namespace PowerDiscovery

open CommandLine

def Backend.scanFlag : Backend → Flag
  | .usb => .usbScan
  | .snmp => .snmpScan
  | .xml => .xmlScan
  | .nut => .oldnutScan
  | .nutSimulation => .simulationScan
  | .avahi => .avahiScan
  | .ipmi => .ipmiScan
  | .eatonSerial => .eatonSerial

namespace CommandLine

/-! ### The options of words -/

def Cluster.flags (c : Cluster) : List Flag := c.switches ++ [c.last]

/-- The options that a word holds.  A word that is the value of an option holds none, whatever it says. -/
def Word.flags : Word → List Flag
  | .option flag isShort value => match Cluster.read flag isShort value with
    | .ok c => c.flags
    | .error _ => []
  | _ => []

/-- The options of the words that have been taken, also of one that waits for its value. -/
def Parsed.flags (p : Parsed) : List Flag :=
  p.given.map Given.flag ++ (p.waiting.map Cluster.flags).getD []

private theorem addGiven_flags {sofar out : List Given} {g : Given} (h : addGiven sofar g = .ok out) :
    out.map Given.flag = sofar.map Given.flag ++ [g.flag] := by
  rw [addGiven_eq_ok h, List.map_append]
  rfl

private theorem addSwitches_flags {sofar out : List Given} {flags : List Flag}
    (h : addSwitches sofar flags = .ok out) : out.map Given.flag = sofar.map Given.flag ++ flags := by
  induction flags generalizing sofar with
  | nil =>
    cases h
    rw [List.append_nil]
  | cons f fs ih =>
    obtain ⟨next, hnext, hout⟩ := bind_eq_ok.mp h
    rw [ih hout, addGiven_flags hnext, List.append_assoc]
    rfl

private theorem Cluster.addTo_flags {sofar out : List Given} {c : Cluster} {text : String}
    (h : c.addTo sofar text = .ok out) : out.map Given.flag = sofar.map Given.flag ++ c.flags := by
  obtain ⟨given, hgiven, hrest⟩ := bind_eq_ok.mp h
  obtain ⟨v, _, hout⟩ := bind_eq_ok.mp hrest
  rw [addGiven_flags hout, addSwitches_flags hgiven, List.append_assoc, Cluster.flags]

private theorem Parsed.take_flags {p out : Parsed} {word : String × Word} (h : p.take word = .ok out) :
    out.flags = p.flags ++ word.2.flags := by
  obtain ⟨given, extras, waiting⟩ := p
  obtain ⟨text, word⟩ := word
  cases waiting with
  | some c =>
    cases word with
    | plain =>
      obtain ⟨given', hgiven, hout⟩ := bind_eq_ok.mp h
      cases hout
      simp [flags, Word.flags, Cluster.addTo_flags hgiven]
    | _ => cases h
  | none =>
    cases word with
    | option flag isShort value =>
      obtain ⟨c, hcluster, hrest⟩ := bind_eq_ok.mp h
      have hword : (Word.option flag isShort value).flags = c.flags := by
        simp only [Word.flags, hcluster]
      rw [hword]
      split at hrest
      · obtain ⟨given', hgiven, hout⟩ := bind_eq_ok.mp hrest
        cases hout
        simp [flags, addSwitches_flags hgiven, Cluster.flags]
      · split at hrest
        · obtain ⟨given', hgiven, hout⟩ := bind_eq_ok.mp hrest
          cases hout
          simp [flags, Cluster.addTo_flags hgiven]
        · cases hrest
          simp [flags]
    | _ =>
      cases h
      simp [flags, Word.flags]

private theorem Parsed.foldlM_take_flags {words : List (String × Word)} {p out : Parsed}
    (h : words.foldlM Parsed.take p = .ok out) :
    out.flags = p.flags ++ words.flatMap fun w => w.2.flags := by
  induction words generalizing p with
  | nil =>
    cases h
    simp
  | cons word words ih =>
    obtain ⟨next, hnext, hout⟩ := bind_eq_ok.mp h
    rw [ih hout, take_flags hnext, List.flatMap_cons, List.append_assoc]

theorem readOptions_flags {words : List String} {given : List Given} (h : readOptions words = .ok given) :
    ∃ classified, readWords words = .ok classified ∧
      given.map Given.flag = classified.flatMap fun w => w.2.flags := by
  obtain ⟨classified, hclassified, hrest⟩ := bind_eq_ok.mp h
  obtain ⟨parsed, hparsed, hend⟩ := bind_eq_ok.mp hrest
  have hflags := Parsed.foldlM_take_flags hparsed
  split at hend
  · cases hend
  rename_i hwaiting
  split at hend
  · cases hend
    simp only [Parsed.flags, hwaiting] at hflags
    refine ⟨classified, hclassified, ?_⟩
    simpa using hflags
  · cases hend

/-! ### The backends of options -/

/-- Whether options name a backend: its scan option is among them. -/
def Names (given : List Given) (b : Backend) : Prop := ∃ g ∈ given, g.flag = b.scanFlag

instance (given : List Given) (b : Backend) : Decidable (Names given b) :=
  inferInstanceAs (Decidable (∃ g ∈ given, g.flag = b.scanFlag))

namespace Arguments

private theorem requests_take (a : Arguments) (g : Given) {b : Backend} (hb : b ≠ .eatonSerial) :
    (a.take g).requests b = (a.requests b || decide (g.flag = b.scanFlag)) := by
  obtain ⟨flag, value⟩ := g
  cases b with
  | eatonSerial => exact absurd rfl hb
  | _ => cases flag <;> simp [take, requests, Backend.scanFlag]

theorem completeScan_ofGiven {given : List Given} :
    (ofGiven given).completeScan = true ↔ ∃ g ∈ given, g.flag = .completeScan := by
  have htake : ∀ (a : Arguments) (g : Given),
      (a.take g).completeScan = (a.completeScan || decide (g.flag = .completeScan)) := by
    rintro a ⟨flag, value⟩
    cases flag <;> simp [take]
  rw [ofGiven, foldl_take_any completeScan _ htake, Bool.false_or, List.any_eq_true]
  simp only [decide_eq_true_eq]

theorem eatonSerial_ofGiven (given : List Given) :
    (ofGiven given).eatonSerial = (lastValue? given .eatonSerial).getD .null :=
  Option.some.inj (valueOf_ofGiven given .eatonSerial)

private theorem mem_requested {a : Arguments} {b : Backend} : b ∈ a.requested ↔ a.requests b = true := by
  rw [requested, List.mem_filter]
  exact and_iff_right b.mem_all

private theorem mem_requested_of_ne (given : List Given) {b : Backend} (hb : b ≠ .eatonSerial) :
    b ∈ (ofGiven given).requested ↔ Names given b := by
  have hfresh : ({} : Arguments).requests b = false := by cases b <;> rfl
  have hon := foldl_take_any (requests · b) _ (fun a g => requests_take a g hb) {} given
  rw [mem_requested, ofGiven, hon, hfresh, Bool.false_or, List.any_eq_true]
  simp only [decide_eq_true_eq, Names]

theorem eatonSerial_mem_requested {given : List Given} (hread : ∀ g ∈ given, g.IsRead) :
    .eatonSerial ∈ (ofGiven given).requested ↔
      ∃ t, lastValue? given .eatonSerial = some (.text t) ∧ t ≠ "" := by
  rw [mem_requested, requests, eatonSerial_ofGiven]
  cases hlast : lastValue? given .eatonSerial with
  | none => simp [Value.isGiven]
  | some v =>
    rcases (hread _ (mem_of_lastValue? hlast)).value_of_text rfl with rfl | ⟨t, rfl⟩
    · simp [Value.isGiven]
    · simp [Value.isGiven]

theorem names_eatonSerial {given : List Given} :
    Names given .eatonSerial ↔ ∃ v, lastValue? given .eatonSerial = some v := by
  rw [← Option.ne_none_iff_exists', ne_eq, lastValue?_eq_none_iff]
  simp [Names, Backend.scanFlag]

theorem names_of_mem_requested {given : List Given} (hread : ∀ g ∈ given, g.IsRead) {b : Backend}
    (h : b ∈ (ofGiven given).requested) : Names given b := by
  by_cases hb : b = .eatonSerial
  · subst hb
    obtain ⟨t, ht, _⟩ := (eatonSerial_mem_requested hread).mp h
    exact names_eatonSerial.mpr ⟨.text t, ht⟩
  · exact (mem_requested_of_ne given hb).mp h

/-- Every backend that is named is requested, but serial ports that are named by no text are not. -/
theorem not_mem_requested_iff {given : List Given} (hread : ∀ g ∈ given, g.IsRead) {b : Backend}
    (h : Names given b) : b ∉ (ofGiven given).requested ↔ b = .eatonSerial ∧
      (lastValue? given .eatonSerial = some (.text "") ∨
        lastValue? given .eatonSerial = some (.list [])) := by
  by_cases hb : b = .eatonSerial
  · subst hb
    rw [eatonSerial_mem_requested hread]
    obtain ⟨v, hv⟩ := names_eatonSerial.mp h
    rcases (hread _ (mem_of_lastValue? hv)).value_of_text rfl with rfl | ⟨t, rfl⟩
    · simp [hv]
    · simp [hv]
  · rw [mem_requested_of_ne given hb]
    exact iff_of_false (not_not_intro h) fun hserial => hb hserial.1

end Arguments

end CommandLine

end PowerDiscovery
