import PowerDiscovery.Proofs.CommandLine.LastGiven
import PowerDiscovery.Proofs.Program.Course
import PowerDiscovery.Proofs.Settings.Loading

/-! # The slots of a run

The semaphore that stands at the gate during a run has a number of slots that is asked for on the command
line, or else configured, and that is cut down to what the machine has room for.  Whatever is asked for or
configured, the semaphore can be made and has a slot. -/

namespace PowerDiscovery.Program

open CommandLine

/-- The number of slots that is configured: in the settings file if one is named, else in the environment;
null if none is. -/
def configuredSlots (m : Machine) (a : Arguments) : Value :=
  match settingsFile? a with
  | some path =>
    (((Settings.document? m.files path).getD .null).under "scan").under "max_concurrency"
  | none =>
    ((Settings.integerVariable m.environment "POWERSCAN_MAX_CONCURRENCY").value.map Value.int).getD .null

/-- A configured number of slots, or the usual one in place of anything but a positive whole number. -/
def usableSlots : Value → Int
  | .int n => if 0 < n then n else 1024
  | .truth true => 1
  | _ => 1024

/-- Whether options ask for a number of slots that can be granted. -/
def AsksFor (given : List Given) (n : Int) : Prop :=
  ∃ t, lastValue? given .thread = some (.text t) ∧ Numeral.read? (Text.trim t) = some n ∧
    0 < n ∧ n < 0x7FFFFFFFFFFFFFFF

variable {m : Machine} {words : List String} {c : Course} {a : Arguments} {s s' : Settings}

/-! ### What is configured -/

/-- A value that is configured for scanning: in the settings file if one is named, else in the environment;
null if it is in neither. -/
def configured (m : Machine) (a : Arguments) (key name : String) : Value :=
  match settingsFile? a with
  | some path => (((Settings.document? m.files path).getD .null).under "scan").under key
  | none => ((Settings.integerVariable m.environment name).value.map Value.int).getD .null

/-- A setting that is read from a key of the settings file and from a variable of the environment is what is
configured for it, to a reader that takes its initial value for a missing one. -/
theorem baseSettings_configured {α : Type} (setting : Settings → Value) (reader : Value → α)
    {key name : String}
    (hkey : ∀ e document, setting (Settings.described e document) =
      ((document.under "scan").orEmpty.find? key).getD (setting (Settings.initial e)))
    (hname : ∀ e, setting (Settings.ofEnvironment e).value =
      ((Settings.integerVariable e name).value.map Value.int).getD (setting (Settings.initial e)))
    (hinitial : ∀ e, reader (setting (Settings.initial e)) = reader .null)
    (h : (baseSettings m a).value = .ok s) : reader (setting s) = reader (configured m a key name) := by
  have hmissing (e : Environment) (v : Option Value) :
      reader (v.getD (setting (Settings.initial e))) = reader (v.getD .null) := by
    cases v with
    | none => exact hinitial e
    | some v => rfl
  unfold configured
  rcases baseSettings_eq_ok h with ⟨hpath, rfl⟩ | ⟨path, hpath, hfile⟩
  · rw [hpath, hname, hmissing]
  · let document := (Settings.document? m.files path).getD .null
    have hread := hmissing m.environment ((document.under "scan").find? key)
    rw [← Value.under_eq] at hread
    rw [hpath, ((Settings.ofFile_yields _ _ _).of_ok hfile).2, hkey, Value.find?_orEmpty]
    exact hread

private theorem baseSettings_slots (h : (baseSettings m a).value = .ok s) :
    usableSlots s.maxConcurrency = usableSlots (configuredSlots m a) := by
  apply baseSettings_configured Settings.maxConcurrency usableSlots _ _ _ h
  · intro e document
    rfl
  · intro e
    rfl
  · intro e
    obtain ⟨confpath, hinitial⟩ := Settings.initial_eq e
    rw [hinitial]
    rfl

/-! ### What is settled -/

/-- Of the settings that are settled, a part that credentials do not reach is what the arguments made of it
until the check. -/
theorem settle_keeps {α : Type} (part : Settings → α)
    (hsnmp : ∀ (s : Settings) v, part (s.withSnmp v) = part s)
    (hipmi : ∀ (s : Settings) v, part (s.withIpmi v) = part s)
    (h : (settle m a s).run.value = .ok s') :
    ∃ loaded : Settings, s' = loaded.repaired ∧ part loaded = part (s.apply a).value := by
  obtain ⟨done, warnings, hdone, hchecked⟩ := settle_eq_ok h
  exact ⟨_, (Settings.validate_eq_repaired hchecked).1,
    (s.apply a).value.loadCredentials_keeps m.files part hsnmp hipmi⟩

private theorem settle_slots (h : (settle m a s).run.value = .ok s') :
    s'.slots.amount = usableSlots s.maxConcurrency := by
  obtain ⟨loaded, rfl, hloaded⟩ :=
    settle_keeps Settings.maxConcurrency (fun _ _ => rfl) (fun _ _ => rfl) h
  simp only [Settings.slots, Settings.repaired, Replaceable.kept_concurrency, hloaded,
    (Settings.apply_kept s a).1]
  cases s.maxConcurrency with
  | int n =>
    by_cases hn : 0 < n
    · simp [Value.isPositiveWhole, usableSlots, hn, Count.amount]
    · simp [Value.isPositiveWhole, usableSlots, hn, Count.amount, Budget.defaultCount]
  | truth b => cases b <;> rfl
  | _ => rfl

/-! ### What is asked for -/

private theorem thread_ofGiven (given : List Given) :
    (Arguments.ofGiven given).thread = (lastValue? given .thread).getD .null :=
  Option.some.inj (Arguments.valueOf_ofGiven given .thread)

theorem AsksFor.unique {given : List Given} {n k : Int} (hn : AsksFor given n) (hk : AsksFor given k) :
    n = k := by
  obtain ⟨t, ht, hn, _⟩ := hn
  obtain ⟨t', ht', hk, _⟩ := hk
  rw [ht] at ht'
  cases ht'
  exact Option.some.inj (hn.symm.trans hk)

private theorem askedSlots_ofGiven {given : List Given} (hread : ∀ g ∈ given, g.IsRead) (s : Settings) :
    (∃ n, AsksFor given n ∧ askedSlots (.ofGiven given) s = .number n) ∨
      (∀ n, ¬ AsksFor given n) ∧ askedSlots (.ofGiven given) s = s.slots := by
  unfold askedSlots
  rw [thread_ofGiven]
  cases hlast : lastValue? given .thread with
  | none =>
    right
    refine ⟨?_, rfl⟩
    rintro n ⟨t, ht, _⟩
    rw [hlast] at ht
    cases ht
  | some v =>
    have hv := (hread _ (mem_of_lastValue? hlast)).value_of_text rfl
    rcases hv with rfl | ⟨t, rfl⟩
    · right
      refine ⟨?_, rfl⟩
      rintro n ⟨t, ht, _⟩
      rw [hlast] at ht
      cases ht
    · cases hcount : Budget.requestedCount? t with
      | none =>
        right
        refine ⟨?_, ?_⟩
        · rintro n ⟨t', ht', hn⟩
          rw [hlast] at ht'
          cases ht'
          rw [Budget.requestedCount?_eq_some.mpr hn] at hcount
          cases hcount
        · simp only [Option.getD_some, Value.isNull, Value.display, Bool.false_eq_true, if_false, hcount]
      | some n =>
        left
        refine ⟨n, ⟨t, hlast, Budget.requestedCount?_eq_some.mp hcount⟩, ?_⟩
        simp only [Option.getD_some, Value.isNull, Value.display, Bool.false_eq_true, if_false, hcount]

/-! ### What is installed -/

/-- The settings, the options and the machine of a run determine the slots that its budget has. -/
theorem Course.Leads.slots (h : c.Leads m words) :
    c.state.bench.budget.own = none ∧ c.state.bench.gate.installed = none ∧
      ((∃ n, AsksFor c.given n ∧
        (Budget.capped c.state.bench.budget.value).amount = m.fileLimit.within n) ∨
      (∀ n, ¬ AsksFor c.given n) ∧ (Budget.capped c.state.bench.budget.value).amount =
        m.fileLimit.within (usableSlots (configuredSlots m c.arguments))) := by
  obtain ⟨settings, budget, registry, _, hsettings, hbudget, _, _, hstate⟩ := arrange_eq_ok h.arranged
  obtain ⟨limit, hlimit, rfl⟩ := budget_eq_ok hbudget
  rw [hstate]
  refine ⟨rfl, rfl, ?_⟩
  rw [Budget.capped_clamp_amount hlimit]
  rcases askedSlots_ofGiven (readOptions_read h.read) settings with ⟨n, hn, hasked⟩ | ⟨hnone, hasked⟩
  · exact .inl ⟨n, hn, by rw [hasked]; rfl⟩
  · refine .inr ⟨hnone, ?_⟩
    rw [hasked, settle_slots hsettings, baseSettings_slots h.base]

private theorem one_le_usableSlots (v : Value) : 1 ≤ usableSlots v := by
  unfold usableSlots
  split
  · split <;> omega
  · omega
  · omega

theorem Course.Leads.one_le_slots (h : c.Leads m words) :
    1 ≤ (Budget.capped c.state.bench.budget.value).amount := by
  obtain ⟨_, _, ⟨n, ⟨_, _, _, hn, _⟩, hslots⟩ | ⟨_, hslots⟩⟩ := h.slots
  · rw [hslots]
    exact FileLimit.one_le_within m.fileLimit hn
  · rw [hslots]
    exact FileLimit.one_le_within m.fileLimit (one_le_usableSlots _)

/-- No run that the program begins is refused: its libraries are there and its budget can be opened. -/
theorem Course.Leads.prepare_value (h : c.Leads m words) :
    ∃ unavailable enabled, enabled.Nodup ∧ (Run.prepare c.plan c.state).value =
      ({ c.state with
          unavailable := unavailable, enabled := enabled, bench := c.state.bench.opened }, none) := by
  obtain ⟨settings, budget, registry, havailable, _, _, _, hplan, _⟩ := arrange_eq_ok h.arranged
  rcases Run.prepare_cases c.plan c.state with
    ⟨s', e, _, _, ⟨b, hb, hmissing⟩ | ⟨cause, hcause⟩⟩ | ⟨unavailable, enabled, hnodup, _, hprepare⟩
  · -- The arguments were checked against the same libraries.
    rw [hplan] at hb hmissing
    rw [(checkAvailable_eq_ok_iff.mp havailable).2.2 b hb] at hmissing
    cases hmissing
  · have hclosed : c.state.bench.budget.isOpen = false := by
      rw [Budget.isOpen, h.slots.1]
      rfl
    have hslots := h.one_le_slots
    rw [Budget.AtGate.openUp_eq, hclosed, if_neg Bool.false_ne_true, if_neg (by omega)] at hcause
    cases hcause
  · exact ⟨unavailable, enabled, hnodup, hprepare⟩

/-- Every request of the program is made under the semaphore of its run, and with the timeout and the options
of its plan. -/
theorem Course.Leads.request_as_planned (h : c.Leads m words) {installed : Option Semaphore} {r : Request}
    (hr : Event.request installed r ∈ (run m words).events) :
    installed = some c.state.bench.granted ∧ r.timeout = c.plan.settings.timeout ∧
      r.options = c.plan.settings.optionsFor r.backend := by
  obtain ⟨c', hc', hr⟩ := request_in_course hr
  rw [h.course?] at hc'
  cases hc'
  obtain ⟨unavailable, enabled, _, hprepare⟩ := h.prepare_value
  exact Run.execute_request c.plan c.state hprepare hr

theorem Course.Leads.request (h : c.Leads m words) {installed : Option Semaphore} {r : Request}
    (hr : Event.request installed r ∈ (run m words).events) :
    installed = some c.state.bench.granted ∧ r.options = c.plan.settings.optionsFor r.backend := by
  obtain ⟨hinstalled, _, hoptions⟩ := h.request_as_planned hr
  exact ⟨hinstalled, hoptions⟩

/-- While the program scans, one semaphore stands at the gate.  It has one slot at least, and not more than
a semaphore can have or than the machine has room for.  It has as many of them as are asked for on the
command line, or else as are configured, unless that is too many. -/
theorem installed_slots (m : Machine) (words : List String) (c : Course)
    (h : course? m words = some c) :
    ∃ own : Semaphore, (Run.prepare c.plan c.state).value.2 = none ∧
      (Run.prepare c.plan c.state).value.1.bench.gate.installed = some own ∧
      (∀ installed r, Event.request installed r ∈ (run m words).events → installed = some own) ∧
      1 ≤ own.slots.amount ∧ own.slots.amount ≤ 0xFFFFFFFE ∧
      (∀ soft hard, m.fileLimit = .given soft hard → 0 < soft → own.slots.amount ≤ max (soft - 3) 1) ∧
      (∀ n, AsksFor c.given n → own.slots.amount = m.fileLimit.within n) ∧
      ((∀ n, ¬ AsksFor c.given n) →
        own.slots.amount = m.fileLimit.within (usableSlots (configuredSlots m c.arguments))) := by
  have hleads := course?_eq_some h
  obtain ⟨unavailable, enabled, _, hprepare⟩ := hleads.prepare_value
  refine ⟨c.state.bench.granted, ?_, ?_, ?_, hleads.one_le_slots, ?_⟩
  · rw [hprepare]
  · rw [hprepare]
    rfl
  · intro installed r hr
    exact (hleads.request hr).1
  obtain ⟨_, _, hslots⟩ := hleads.slots
  have hwithin : ∃ k, (Budget.capped c.state.bench.budget.value).amount = m.fileLimit.within k := by
    rcases hslots with ⟨n, _, hamount⟩ | ⟨_, hamount⟩
    · exact ⟨n, hamount⟩
    · exact ⟨_, hamount⟩
  obtain ⟨k, hk⟩ := hwithin
  refine ⟨?_, ?_, ?_, ?_⟩
  · exact hk ▸ m.fileLimit.within_le k
  · intro soft hard hlimit hsoft
    rw [hlimit] at hk
    exact hk ▸ FileLimit.within_given_le hard k hsoft
  · intro n hn
    rcases hslots with ⟨n', hn', hamount⟩ | ⟨hnone, _⟩
    · rw [hn.unique hn']
      exact hamount
    · exact absurd hn (hnone n)
  · intro hnone
    rcases hslots with ⟨n, hn, _⟩ | ⟨_, hamount⟩
    · exact absurd hn (hnone n)
    · exact hamount

/-- A machine with room for few open files, where all libraries are there and no device is found. -/
private def fewFiles : Machine :=
  { environment := [("POWERSCAN_MAX_CONCURRENCY", "4")]
    files := fun _ => some (.document (.ok .null))
    fileLimit := .given 8 16
    engines := fun _ => { isAvailable := true, scan := fun _ _ _ _ _ => return none } }

theorem installed_slots_fewFiles :
    (∃ c own r, course? fewFiles ["-T", " 40", "-I"] = some c ∧
      (Run.prepare c.plan c.state).value.1.bench.gate.installed = some own ∧
      Event.request (some own) r ∈ (run fewFiles ["-T", " 40", "-I"]).events ∧ own.slots.amount = 5) ∧
    ∃ c own r, course? fewFiles ["-I"] = some c ∧
      (Run.prepare c.plan c.state).value.1.bench.gate.installed = some own ∧
      Event.request (some own) r ∈ (run fewFiles ["-I"]).events ∧ own.slots.amount = 4 := by
  constructor
  · obtain ⟨c, hc⟩ : ∃ c, course? fewFiles ["-T", " 40", "-I"] = some c := ⟨_, rfl⟩
    obtain ⟨installed, r, hr⟩ : ∃ installed r, Event.request installed r ∈
        (run fewFiles ["-T", " 40", "-I"]).events := ⟨_, _, List.mem_of_getElem? (i := 3) rfl⟩
    obtain ⟨own, _, hown, hunder, _, _, _, hasked, _⟩ := installed_slots fewFiles _ c hc
    have hgiven : c.given = [⟨.thread, .text " 40"⟩, ⟨.ipmiScan, .null⟩] :=
      Except.ok.inj ((course?_eq_some hc).read.symm.trans rfl)
    have hasks : AsksFor c.given 40 := by
      rw [hgiven]
      exact ⟨" 40", rfl, rfl, by decide, by decide⟩
    exact ⟨c, own, r, hc, hown, hunder installed r hr ▸ hr, hasked 40 hasks⟩
  · obtain ⟨c, hc⟩ : ∃ c, course? fewFiles ["-I"] = some c := ⟨_, rfl⟩
    obtain ⟨installed, r, hr⟩ : ∃ installed r, Event.request installed r ∈
        (run fewFiles ["-I"]).events := ⟨_, _, List.mem_of_getElem? (i := 2) rfl⟩
    obtain ⟨own, _, hown, hunder, _, _, _, _, hnone⟩ := installed_slots fewFiles _ c hc
    have hgiven : c.given = [⟨.ipmiScan, .null⟩] :=
      Except.ok.inj ((course?_eq_some hc).read.symm.trans rfl)
    have hasks : ∀ n, ¬ AsksFor c.given n := by
      rintro n ⟨t, ht, _⟩
      rw [hgiven] at ht
      cases ht
    refine ⟨c, own, r, hc, hown, hunder installed r hr ▸ hr, ?_⟩
    rw [hnone hasks, Course.arguments, hgiven]
    rfl

end PowerDiscovery.Program
