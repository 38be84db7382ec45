import PowerDiscovery.Proofs.Program.Slots

/-! # Refusals

A command line that cannot be used is answered by the help text.  That happens before a semaphore is made
or an engine is asked, and it happens whenever something is asked for that is not there or cannot be read,
wherever that stands among the options. -/

namespace PowerDiscovery.Program

open CommandLine Event

def informative : List Flag := [.help, .version, .available]

/-- The options with a credential for SNMP, and below those for IPMI. -/
def snmpFlags : List Flag :=
  [.community, .secLevel, .secName, .authPassword, .privPassword, .authProtocol, .privProtocol]

def ipmiFlags : List Flag := [.username, .password, .authType, .cipherSuite]

/-- Whether options cannot be met on a machine: they need a library that is missing, or name a network
that cannot be read. -/
inductive Unusable (m : Machine) (given : List Given) : Prop where
  | snmp (missing : m.engines.available .snmp = false) (asked : ∃ g ∈ given, g.flag ∈ snmpFlags)
  | ipmi (missing : m.engines.available .ipmi = false) (asked : ∃ g ∈ given, g.flag ∈ ipmiFlags)
  | backend (b : Backend) (missing : m.engines.available b = false)
    (asked : b ∈ (Arguments.ofGiven given).requested)
  | range (r : Folder.Rejection) (rejected :
    (Registry.ofArguments m.interfaces (Arguments.ofGiven given).ranges).value = .error (.rejected r))

variable {m : Machine} {words : List String} {given : List Given} {c : Course}

/-! ### What the options say -/

def isInformative (a : Arguments) : Bool := a.help || a.version || a.available

private theorem information?_eq_none_iff {available : Backend → Bool} {a : Arguments} :
    information? available a = none ↔ isInformative a = false := by
  unfold information? isInformative
  cases a.help <;> cases a.version <;> cases a.available <;> simp

private theorem isInformative_take (a : Arguments) (g : Given) :
    isInformative (a.take g) = (isInformative a || informative.contains g.flag) := by
  obtain ⟨flag, value⟩ := g
  cases flag <;> simp [Arguments.take, isInformative, informative]

theorem information?_ofGiven {available : Backend → Bool} :
    information? available (.ofGiven given) = none ↔ ∀ g ∈ given, g.flag ∉ informative := by
  have hfresh : isInformative {} = false := rfl
  rw [information?_eq_none_iff, Arguments.ofGiven,
    Arguments.foldl_take_any isInformative _ isInformative_take, hfresh]
  simp

private theorem checkAvailable_ofGiven (hread : ∀ g ∈ given, g.IsRead) :
    (Arguments.ofGiven given).checkAvailable m.engines.available = .ok () ↔
      ¬(m.engines.available .snmp = false ∧ ∃ g ∈ given, g.flag ∈ snmpFlags) ∧
      ¬(m.engines.available .ipmi = false ∧ ∃ g ∈ given, g.flag ∈ ipmiFlags) ∧
      ∀ b ∈ (Arguments.ofGiven given).requested, m.engines.available b = true := by
  have hsnmp := Arguments.exists_given_iff hread snmpFlags (by decide)
  have hipmi := Arguments.exists_given_iff hread ipmiFlags (by decide)
  rw [← hsnmp, ← hipmi]
  exact checkAvailable_eq_ok_iff

private theorem not_unusable_iff (hread : ∀ g ∈ given, g.IsRead) :
    ¬ Unusable m given ↔ (Arguments.ofGiven given).checkAvailable m.engines.available = .ok () ∧
      ∀ r, (Registry.ofArguments m.interfaces (Arguments.ofGiven given).ranges).value ≠
        .error (.rejected r) := by
  rw [checkAvailable_ofGiven hread]
  constructor
  · intro h
    refine ⟨⟨?_, ?_, ?_⟩, ?_⟩
    · rintro ⟨hmissing, hasked⟩
      exact h (.snmp hmissing hasked)
    · rintro ⟨hmissing, hasked⟩
      exact h (.ipmi hmissing hasked)
    · intro b hb
      cases hmissing : m.engines.available b with
      | false => exact absurd (.backend b hmissing hb) h
      | true => rfl
    · intro r hr
      exact h (.range r hr)
  · rintro ⟨⟨hsnmp, hipmi, hbackend⟩, hrange⟩ h
    cases h with
    | snmp hmissing hasked => exact hsnmp ⟨hmissing, hasked⟩
    | ipmi hmissing hasked => exact hipmi ⟨hmissing, hasked⟩
    | backend b hmissing hasked =>
      rw [hbackend b hasked] at hmissing
      cases hmissing
    | range r hr => exact hrange r hr

/-! ### What comes of them -/

theorem Course.Leads.status (h : c.Leads m words) {ending : Ending}
    (hend : (run m words).value = .ok ending) : ending.status = 0 := by
  rw [h.run_value] at hend
  obtain ⟨unavailable, enabled, _, hprepare⟩ := h.prepare_value
  have htext : (Run.execute c.plan c.state).value.text = (Run.scan c.plan
      { c.state with unavailable := unavailable, enabled := enabled
                     bench := c.state.bench.opened }).value.text := by
    simp only [Run.execute, Traced.bind_value, hprepare]
  cases houtcome : (Run.execute c.plan c.state).value.text with
  | ok text =>
    rw [houtcome] at hend
    cases hend
    rfl
  | error e =>
    rw [houtcome] at hend
    cases e with
    | usage u =>
      rw [htext] at houtcome
      exact absurd houtcome (Run.scan_unrefused _ _ u)
    | _ => cases hend

private theorem run_scanning {ending : Ending} (hread : readOptions words = .ok given)
    (hscans : information? m.engines.available (.ofGiven given) = none)
    (hend : (run m words).value = .ok ending) :
    (∃ c : Course, c.Leads m words ∧ c.given = given) ∨
      Unusable m given ∧ ∃ u, ending = refuse m.engines.available u := by
  rw [run_of_options hread hscans] at hend
  obtain ⟨base, thresholds, hbase, hthresholds, hend⟩ := runArguments_eq_ok hend
  rw [scan_value] at hend
  cases harranged : (arrange m (.ofGiven given) base).run.value with
  | ok r =>
    let c : Course := ⟨given, base, thresholds, r.1, r.2⟩
    exact .inl ⟨c, ⟨hread, hscans, hbase, hthresholds, harranged⟩, rfl⟩
  | error e =>
    rw [harranged] at hend
    cases e with
    | usage u =>
      cases hend
      refine .inr ⟨?_, u, rfl⟩
      by_contra husable
      obtain ⟨havailable, hranges⟩ := (not_unusable_iff (readOptions_read hread)).mp husable
      rcases arrange_eq_usage harranged with hrefused | ⟨_, r, hr⟩
      · rw [havailable] at hrefused
        cases hrefused
      · exact hranges r hr
    | _ => cases hend

theorem Course.Leads.usable (h : c.Leads m words) : ¬ Unusable m c.given := by
  obtain ⟨settings, budget, registry, havailable, _, _, hregistry, _, _⟩ := arrange_eq_ok h.arranged
  apply (not_unusable_iff (readOptions_read h.read)).mpr
  refine ⟨havailable, ?_⟩
  intro r hr
  rw [registry_value, hr] at hregistry
  cases hregistry

private theorem output_of_badUsage {ending : Ending} (hend : (run m words).value = .ok ending)
    (hstatus : ending.status = badUsage) : ending.output = helpText m.engines.available := by
  cases hread : readOptions words with
  | error e =>
    simp only [run_eq, hread] at hend
    cases hend
    rfl
  | ok given =>
    cases hscans : information? m.engines.available (.ofGiven given) with
    | some text =>
      simp only [run_eq, hread, hscans] at hend
      cases hend
      cases hstatus
    | none =>
      rcases run_scanning hread hscans hend with ⟨c, hleads, _⟩ | ⟨_, u, rfl⟩
      · rw [hleads.status hend] at hstatus
        cases hstatus
      · rfl

/-- A program that ends with the status for bad usage has put no semaphore in force and asked no engine, and
its output is the help text.  With options that do not just ask about the program it ends so exactly if they
cannot be met on this machine; else it ends well. -/
theorem refusal (m : Machine) (words : List String) (ending : Ending)
    (hend : (run m words).value = .ok ending) :
    (ending.status = -1 → semaphoresOf (run m words).events = [] ∧ requestsOf (run m words).events = [] ∧
      ending.output = helpText m.engines.available) ∧
    ∀ given, readOptions words = .ok given → (∀ g ∈ given, g.flag ∉ informative) →
      (ending.status = -1 ↔ Unusable m given) ∧ (¬ Unusable m given → ending.status = 0) := by
  constructor
  · intro hstatus
    have hnone : course? m words = none := by
      cases hcourse : course? m words with
      | none => rfl
      | some c =>
        rw [(course?_eq_some hcourse).status hend] at hstatus
        cases hstatus
    exact ⟨semaphoresOf_run_of_none hnone, requestsOf_run_of_none hnone, output_of_badUsage hend hstatus⟩
  · intro given hread hflags
    rcases run_scanning hread (information?_ofGiven.mpr hflags) hend with ⟨c, hleads, rfl⟩ | ⟨hunusable, u, rfl⟩
    · have hstatus := hleads.status hend
      refine ⟨iff_of_false ?_ hleads.usable, fun _ => hstatus⟩
      rw [hstatus]
      decide
    · exact ⟨iff_of_true rfl hunusable, fun husable => absurd hunusable husable⟩

/-- A machine without the library for SNMP, where no device is found. -/
private def withoutSnmp : Machine :=
  { files := fun _ => some (.document (.ok .null))
    engines := fun b => { isAvailable := b ≠ .snmp, scan := fun _ _ _ _ _ => return none } }

theorem refusal_withoutSnmp :
    (∃ ending, (run withoutSnmp ["-U", "-c", "public", "-P"]).value = .ok ending ∧
      ending.status = -1 ∧ semaphoresOf (run withoutSnmp ["-U", "-c", "public", "-P"]).events = [] ∧
      requestsOf (run withoutSnmp ["-U", "-c", "public", "-P"]).events = []) ∧
    ∃ ending, (run withoutSnmp ["-U", "-P"]).value = .ok ending ∧ ending.status = 0 := by
  constructor
  · obtain ⟨ending, hend⟩ : ∃ ending, (run withoutSnmp ["-U", "-c", "public", "-P"]).value = .ok ending :=
      ⟨_, rfl⟩
    obtain ⟨hrefused, hscans⟩ := refusal withoutSnmp ["-U", "-c", "public", "-P"] ending hend
    have hunusable : Unusable withoutSnmp
        [⟨.usbScan, .null⟩, ⟨.community, .text "public"⟩, ⟨.showLines, .null⟩] :=
      .snmp rfl ⟨⟨.community, .text "public"⟩, by simp, by decide⟩
    have hstatus := (hscans _ rfl (by decide)).1.mpr hunusable
    exact ⟨ending, hend, hstatus, (hrefused hstatus).1, (hrefused hstatus).2.1⟩
  · obtain ⟨ending, hend⟩ : ∃ ending, (run withoutSnmp ["-U", "-P"]).value = .ok ending := ⟨_, rfl⟩
    have hscans := (refusal withoutSnmp ["-U", "-P"] ending hend).2
      [⟨.usbScan, .null⟩, ⟨.showLines, .null⟩] rfl (by decide)
    refine ⟨ending, hend, hscans.2 ?_⟩
    intro hunusable
    cases hunusable with
    | snmp missing asked => exact absurd asked (by decide)
    | ipmi missing asked => exact absurd asked (by decide)
    | backend b missing asked =>
      have hb : b = .usb := List.mem_singleton.mp asked
      rw [hb] at missing
      cases missing
    | range r rejected => cases rejected

end PowerDiscovery.Program
