import PowerDiscovery.Proofs.CommandLine.NamedBackends
import PowerDiscovery.Proofs.Program.Refusal
import PowerDiscovery.Proofs.Run.Calls

/-! # Scans that the command line names

A run asks the engines of the backends that are requested, and all others that are there if it scans everything.
The option for serial ports requests their scan if it says which ones.  With an empty text it requests nothing:
alone it leads to a scan of everything but serial ports. -/

namespace PowerDiscovery

open CommandLine Event

private theorem Action.requestsTo_readAt {α : Type} (b : Backend) (threshold : Nat) (x : Action α) :
    requestsTo b (readAt threshold x).events = requestsTo b x.events := by
  have hmade : requestsOf (readAt threshold x).events = requestsOf x.events := by
    simp only [requestsOf, readAt, List.filterMap_filter]
    congr 1
    funext e
    cases e with
    | request installed r => rfl
    | _ => simp
  rw [requestsTo, hmade, requestsTo]

private theorem takesPart_iff {requested : List Backend} {scanAll : Bool} {available : Backend → Bool}
    {b : Backend} :
    takesPart requested scanAll available b = true ↔
      b ∈ requested ∨
        (scanAll = true ∨ requested = []) ∧ b ≠ .eatonSerial ∧ available b = true := by
  have hexplicit : b.explicitOnly = false ↔ b ≠ .eatonSerial := by
    cases b <;> simp [Backend.explicitOnly]
  simp only [takesPart, scansAll, Bool.or_eq_true, Bool.and_eq_true, List.contains_iff_mem,
    Bool.not_eq_true', List.isEmpty_iff, hexplicit, and_assoc]

private theorem Run.requestsTo_execute (plan : Plan) (s : State)
    (hrequested : ∀ b ∈ plan.requested, plan.engines.available b = true)
    (hclosed : s.bench.budget.own = none) (hslots : 0 ≤ s.bench.budget.value.amount)
    (hstart : ∀ b f, startFault plan b = some f → f.spoilsStart) (b : Backend) :
    requestsTo b (execute plan s).events =
      if plan.calls s b then plan.requestsFor s.registry.ranges b else [] := by
  obtain ⟨s', hprepare, hprepared⟩ := prepare_value plan s hrequested hclosed hslots
  obtain ⟨⟨s'', hwork, -⟩, hrequests⟩ := work_spec hstart hprepared
  simp only [execute, Traced.bind_events, requestsTo_append, requestsTo_prepare, hprepare,
    List.nil_append, scan, hrequests, hwork, requestsTo_closeBudget, requestsTo_finish, List.append_nil]

private theorem Run.requestsFor_of_idle (plan : Plan) {ranges : List AddressRange} {b : Backend}
    (h : (b.needsRange && ranges.isEmpty) = true) : plan.requestsFor ranges b = [] := by
  obtain ⟨hneeds, hempty⟩ := Bool.and_eq_true_iff.mp h
  rw [List.isEmpty_iff.mp hempty]
  cases b with
  | snmp | nut => rfl
  | _ => cases hneeds

namespace Program

variable {m : Machine} {words : List String} {given : List Given} {c : Course}

theorem Course.Leads.requestsTo_run (h : c.Leads m words) (b : Backend) :
    requestsTo b (run m words).events = requestsTo b (Run.execute c.plan c.state).events := by
  have hsilent : requestsTo b (arrange m c.arguments c.base).run.events = [] := by
    rw [requestsTo, (arrange_silent _ _ _).requestsOf]
    rfl
  have hscan : requestsTo b (scan m c.arguments c.base).run.events =
      requestsTo b (Run.execute c.plan c.state).events := by
    simp only [scan, run_bind_events, h.arranged, Step.lift_value, Step.lift_events, requestsTo_append,
      hsilent, List.nil_append]
    cases (Run.execute c.plan c.state).value with
    | mk state text => cases text <;> exact List.append_nil _
  rw [run_of_options h.read h.scans, ← hscan]
  have hbase := readAt_baseSettings m c.arguments Thresholds.initial.effective
  rw [h.base] at hbase
  simp only [runArguments, Traced.bind_events, hbase, h.thresholds, requestsTo_append,
    Action.requestsTo_readAt, Action.requestsTo_ofLogged, List.nil_append, Traced.pure_events,
    List.append_nil]

private theorem Course.Leads.plan_eq (h : c.Leads m words) : c.plan.requested = c.arguments.requested ∧
    c.plan.scanAll = c.arguments.completeScan ∧ c.plan.engines = m.engines ∧ c.plan.hazards = {} ∧
    c.state.slots = {} ∧ ∀ b ∈ c.plan.requested, m.engines.available b = true := by
  obtain ⟨settings, budget, registry, havailable, _, _, _, hplan, hstate⟩ := arrange_eq_ok h.arranged
  rw [hplan, hstate]
  exact ⟨rfl, rfl, rfl, rfl, rfl, (checkAvailable_eq_ok_iff.mp havailable).2.2⟩

private theorem Course.Leads.requests_due (h : c.Leads m words) (b : Backend) :
    requestsTo b (run m words).events =
      if takesPart c.arguments.requested c.arguments.completeScan m.engines.available b then
        c.plan.requestsFor c.state.registry.ranges b
      else [] := by
  obtain ⟨hrequested, hall, hengines, hhazards, hslots, havailable⟩ := h.plan_eq
  have hstart : ∀ x, Run.startFault c.plan x = none := by
    intro x
    rw [Run.startFault, hhazards, ite_self]
  have hnonneg : 0 ≤ c.state.bench.budget.value.amount := by
    have hone := h.one_le_slots
    by_contra hneg
    have hcapped := Budget.capped_neg_iff.mpr (Int.not_le.mp hneg)
    omega
  rw [h.requestsTo_run, Run.requestsTo_execute c.plan c.state (hengines ▸ havailable) h.slots.1 hnonneg
    (fun x f hf => by rw [hstart x] at hf; cases hf)]
  have hstarts : Run.starts c.plan c.state b = true := by
    rw [Run.starts, hstart, hslots]
    rfl
  simp only [Run.Plan.calls, Run.Plan.attends, hstarts, hrequested, hall, hengines, Bool.and_true]
  cases hidle : b.needsRange && c.state.registry.ranges.isEmpty with
  | true => simp only [Run.requestsFor_of_idle c.plan hidle, ite_self]
  | false => rw [Bool.not_false, Bool.and_true]

/-! ### Serial ports -/

theorem Course.Leads.serialPorts (h : c.Leads m words) :
    c.plan.settings.serialPorts = c.arguments.eatonSerial.orSetting c.base.serialPorts := by
  obtain ⟨settings, budget, registry, _, hsettings, _, _, hplan, _⟩ := arrange_eq_ok h.arranged
  obtain ⟨loaded, rfl, hloaded⟩ :=
    settle_keeps Settings.serialPorts (fun _ _ => rfl) (fun _ _ => rfl) hsettings
  obtain ⟨authType, happlied⟩ := Settings.applyAuthType_value c.base c.arguments.authType
  rw [hplan, Settings.repaired, hloaded, Settings.apply]
  split <;> simp only [Traced.bind_value, Traced.pure_value, happlied]

/-- Serial ports that are named are scanned, and nothing that is not named unless everything is to be. -/
private theorem Course.Leads.requests_of_ports (h : c.Leads m words) {t : String}
    (ht : lastValue? c.given .eatonSerial = some (.text t)) (hne : t ≠ "") :
    requestsTo .eatonSerial (run m words).events = [{
      backend := .eatonSerial, start := none, stop := none, timeout := c.plan.settings.timeout
      options := .serial { ports := .text t } }] ∧
    ((∀ g ∈ c.given, g.flag ≠ .completeScan) → ∀ b, ¬ Names c.given b →
      requestsTo b (run m words).events = []) := by
  have hread := readOptions_read h.read
  have hrequested : .eatonSerial ∈ c.arguments.requested :=
    (Arguments.eatonSerial_mem_requested hread).mpr ⟨t, ht, hne⟩
  have hports : c.plan.settings.serialPorts = .text t := by
    rw [h.serialPorts, Arguments.eatonSerial_ofGiven, ht]
    rfl
  constructor
  · rw [h.requests_due, if_pos (takesPart_iff.mpr (.inl hrequested))]
    simp only [Run.Plan.requestsFor, Settings.optionsFor, hports]
  · intro hall b hb
    rw [h.requests_due, if_neg]
    intro htakes
    rcases takesPart_iff.mp htakes with hmem | ⟨hscan | hempty, -⟩
    · exact hb (Arguments.names_of_mem_requested hread hmem)
    · obtain ⟨g, hg, hflag⟩ := Arguments.completeScan_ofGiven.mp hscan
      exact hall g hg hflag
    · rw [hempty] at hrequested
      cases hrequested

/-- Serial ports that no text names are not scanned; if nothing else is named, everything else is. -/
private theorem Course.Leads.requests_of_noPorts (h : c.Leads m words)
    (hnone : .eatonSerial ∉ c.arguments.requested) :
    requestsTo .eatonSerial (run m words).events = [] ∧
    ((∀ b, Names c.given b → b = .eatonSerial) → ∀ b, b ≠ .eatonSerial →
      m.engines.available b = true →
        requestsTo b (run m words).events = c.plan.requestsFor c.state.registry.ranges b) := by
  constructor
  · rw [h.requests_due, if_neg]
    intro htakes
    rcases takesPart_iff.mp htakes with hmem | ⟨-, hne, -⟩
    · exact hnone hmem
    · exact hne rfl
  · intro honly b hb havailable
    have hempty : c.arguments.requested = [] := by
      apply List.eq_nil_iff_forall_not_mem.mpr
      intro x hx
      have hserial := honly x (Arguments.names_of_mem_requested (readOptions_read h.read) hx)
      exact hnone (hserial ▸ hx)
    rw [h.requests_due, if_pos (takesPart_iff.mpr (.inr ⟨.inr hempty, hb, havailable⟩))]

private theorem course?_given (hread : readOptions words = .ok given) (h : course? m words = some c) :
    c.given = given :=
  Except.ok.inj ((course?_eq_some h).read.symm.trans hread)

private theorem course?_of_unusable (hread : readOptions words = .ok given) (h : Unusable m given) :
    course? m words = none := by
  by_contra hcourse
  obtain ⟨c, hc⟩ := Option.ne_none_iff_exists'.mp hcourse
  have husable := (course?_eq_some hc).usable
  rw [course?_given hread hc] at husable
  exact husable h

private theorem run_of_missing (hread : readOptions words = .ok given)
    (hscans : information? m.engines.available (.ofGiven given) = none) {b : Backend}
    (hb : b ∈ (Arguments.ofGiven given).requested) (hmissing : m.engines.available b = false)
    {base : Settings} {thresholds : Thresholds} (hbase : (baseSettings m (.ofGiven given)).value = .ok base)
    (hthresholds : Thresholds.set (Arguments.ofGiven given).debugLevel base.logLevel = .ok thresholds) :
    ∃ u, (run m words).value = .ok (refuse m.engines.available u) := by
  cases hcheck : (Arguments.ofGiven given).checkAvailable m.engines.available with
  | ok _ =>
    rw [(checkAvailable_eq_ok_iff.mp hcheck).2.2 b hb] at hmissing
    cases hmissing
  | error u =>
    have harranged : (arrange m (.ofGiven given) base).run.value = .error (.usage u) := by
      simp only [arrange, run_bind_value, Step.ofUsage_value, hcheck]
      rfl
    refine ⟨u, ?_⟩
    rw [run_of_options hread hscans, runArguments_value hbase hthresholds, scan_value, harranged]
    rfl

/-- What comes of the scan options on a command line.  Every one of them requests its backend, but the one for
serial ports does so only with a text that is not empty: then these ports are scanned, and nothing that is not
named unless a scan of everything is asked for; without the library the program is refused.  With an empty text
no serial port is scanned, and if no other backend is named everything else is. -/
theorem scanOptions_heeded (m : Machine) (words : List String) (given : List Given)
    (hread : readOptions words = .ok given) :
    let requested := (Arguments.ofGiven given).requested
    let ports := lastValue? given .eatonSerial
    (∃ classified, readWords words = .ok classified ∧
      given.map Given.flag = classified.flatMap fun w => w.2.flags) ∧
    (∀ b ∈ requested, Names given b) ∧
    (∀ b, Names given b →
      (b ∉ requested ↔ b = .eatonSerial ∧ (ports = some (.text "") ∨ ports = some (.list [])))) ∧
    (∀ t, ports = some (.text t) → t ≠ "" →
      (m.engines.available .eatonSerial = false → requestsOf (run m words).events = [] ∧
        ((∀ g ∈ given, g.flag ∉ informative) → ∀ base thresholds,
          (baseSettings m (.ofGiven given)).value = .ok base →
          Thresholds.set (Arguments.ofGiven given).debugLevel base.logLevel = .ok thresholds →
          ∃ u, (run m words).value = .ok (refuse m.engines.available u))) ∧
      ∀ c, course? m words = some c →
        requestsTo .eatonSerial (run m words).events = [{
          backend := .eatonSerial, start := none, stop := none, timeout := c.plan.settings.timeout
          options := .serial { ports := .text t } }] ∧
        ((∀ g ∈ given, g.flag ≠ .completeScan) → ∀ b, ¬ Names given b →
          requestsTo b (run m words).events = [])) ∧
    (ports = some (.text "") ∨ ports = some (.list []) → ∀ c, course? m words = some c →
      requestsTo .eatonSerial (run m words).events = [] ∧
      ((∀ b, Names given b → b = .eatonSerial) → ∀ b, b ≠ .eatonSerial →
        m.engines.available b = true →
          requestsTo b (run m words).events = c.plan.requestsFor c.state.registry.ranges b)) := by
  have hgivenRead := readOptions_read hread
  refine ⟨readOptions_flags hread, fun b => Arguments.names_of_mem_requested hgivenRead,
    fun b => Arguments.not_mem_requested_iff hgivenRead, ?_, ?_⟩
  · intro t ht hne
    have hrequested : .eatonSerial ∈ (Arguments.ofGiven given).requested :=
      (Arguments.eatonSerial_mem_requested hgivenRead).mpr ⟨t, ht, hne⟩
    constructor
    · intro hmissing
      have hunusable : Unusable m given := .backend .eatonSerial hmissing hrequested
      refine ⟨requestsOf_run_of_none (course?_of_unusable hread hunusable), ?_⟩
      intro hflags base thresholds hbase hthresholds
      exact run_of_missing hread (information?_ofGiven.mpr hflags) hrequested hmissing hbase hthresholds
    · intro c hc
      obtain rfl := course?_given hread hc
      exact (course?_eq_some hc).requests_of_ports ht hne
  · intro hempty c hc
    obtain rfl := course?_given hread hc
    have hnames : Names c.given .eatonSerial := by
      rcases hempty with h | h
      · exact Arguments.names_eatonSerial.mpr ⟨_, h⟩
      · exact Arguments.names_eatonSerial.mpr ⟨_, h⟩
    have hnone := (Arguments.not_mem_requested_iff hgivenRead hnames).mpr ⟨rfl, hempty⟩
    exact (course?_eq_some hc).requests_of_noPorts hnone

/-- A machine where all libraries are there and no device is found. -/
private def equipped : Machine :=
  { files := fun _ => some (.document (.ok .null))
    engines := fun _ => { isAvailable := true, scan := fun _ _ _ _ _ => return none } }

theorem scanOptions_heeded_emptyPorts :
    (Names [⟨.eatonSerial, .text ""⟩] .eatonSerial ∧
      requestsTo .eatonSerial (run equipped ["-E", ""]).events = [] ∧
      (requestsTo .usb (run equipped ["-E", ""]).events).length = 1) ∧
    (requestsTo .eatonSerial (run equipped ["-UE/dev/ttyS0"]).events).length = 1 ∧
    requestsTo .ipmi (run equipped ["-UE/dev/ttyS0"]).events = [] := by
  constructor
  · obtain ⟨_, _, _, _, hempty⟩ :=
      scanOptions_heeded equipped ["-E", ""] [⟨.eatonSerial, .text ""⟩] rfl
    obtain ⟨c, hc⟩ : ∃ c, course? equipped ["-E", ""] = some c := ⟨_, rfl⟩
    obtain ⟨hserial, hothers⟩ := hempty (.inl rfl) c hc
    refine ⟨by decide, hserial, ?_⟩
    have honly : ∀ b, Names [⟨.eatonSerial, .text ""⟩] b → b = .eatonSerial := by
      intro b
      cases b <;> decide
    rw [hothers honly .usb (by decide) rfl]
    rfl
  · obtain ⟨_, _, _, hnamed, _⟩ := scanOptions_heeded equipped ["-UE/dev/ttyS0"]
      [⟨.usbScan, .null⟩, ⟨.eatonSerial, .text "/dev/ttyS0"⟩] rfl
    obtain ⟨c, hc⟩ : ∃ c, course? equipped ["-UE/dev/ttyS0"] = some c := ⟨_, rfl⟩
    obtain ⟨hserial, hothers⟩ := (hnamed "/dev/ttyS0" rfl (by decide)).2 c hc
    refine ⟨by rw [hserial]; rfl, hothers (by decide) .ipmi (by decide)⟩

end Program

end PowerDiscovery
