import PowerDiscovery.Discovery.Mdns
import PowerDiscovery.Discovery.Serial
import PowerDiscovery.Proofs.Discovery.Errands
import PowerDiscovery.Proofs.Discovery.UnitLists
import PowerDiscovery.Proofs.FirstOccurrence

/-! # What a failing target costs

The announced servers and the serial ports are asked one after the other.  A target that fails for a reason
of the system is passed over; any other failure ends the round, and what was found before is lost with it.  If
the time for announcements cannot be slept, no server is asked. -/

namespace PowerDiscovery

open Text

def passOver : Except Fault (List Device) → Except Fault (List Device)
  | .ok devices => .ok devices
  | .error f => if f.isSystem then .ok [] else .error f

def answered : Except Fault (List Device) → List Device
  | .ok devices => devices
  | .error _ => []

/-- What the answers of all targets of a round come to. -/
def roundOf : List (Except Fault (List Device)) → Except Fault (List Device)
  | [] => .ok []
  | answer :: answers => do return (← passOver answer) ++ (← roundOf answers)

/-- What a scan of targets with such answers comes to: the devices of those that answer, if every failure is
one of the system, and else the first other failure. -/
structure ComesTo (answers : List (Except Fault (List Device)))
    (outcome : Except Fault (Option (List Device))) : Prop where
  kept : outcome = .ok (some (answers.flatMap answered)) ↔ ∀ f, .error f ∈ answers → f.isSystem = true
  lost : ∀ before f after, answers = before ++ .error f :: after →
    (∀ g, .error g ∈ before → g.isSystem = true) → f.isSystem = false → outcome = .error f

private theorem roundOf_of_system {answers : List (Except Fault (List Device))}
    (h : ∀ f, .error f ∈ answers → f.isSystem = true) : roundOf answers = .ok (answers.flatMap answered) := by
  induction answers with
  | nil => rfl
  | cons answer answers ih =>
    have hothers := ih fun f hf => h f (List.mem_cons_of_mem _ hf)
    have hfirst : passOver answer = .ok (answered answer) := by
      cases answer with
      | ok devices => rfl
      | error f => exact if_pos (h f List.mem_cons_self)
    rw [roundOf, hfirst, hothers, List.flatMap_cons]
    rfl

private theorem roundOf_lost {before after : List (Except Fault (List Device))} {f : Fault}
    (h : ∀ g, .error g ∈ before → g.isSystem = true) (hf : f.isSystem = false) :
    roundOf (before ++ .error f :: after) = .error f := by
  induction before with
  | nil =>
    have hfirst : passOver (.error f) = .error f := by simp only [passOver, hf, Bool.false_eq_true, if_false]
    rw [List.nil_append, roundOf, hfirst]
    rfl
  | cons answer before ih =>
    have hothers := ih fun g hg => h g (List.mem_cons_of_mem _ hg)
    rw [List.cons_append, roundOf, hothers]
    cases answer with
    | ok devices => rfl
    | error g =>
      have hfirst : passOver (.error g) = .ok [] := if_pos (h g List.mem_cons_self)
      rw [hfirst]
      rfl

private theorem isSystem_of_roundOf {answers : List (Except Fault (List Device))} {devices : List Device}
    (h : roundOf answers = .ok devices) : ∀ f, .error f ∈ answers → f.isSystem = true := by
  induction answers generalizing devices with
  | nil => exact nofun
  | cons answer answers ih =>
    obtain ⟨first, hfirst, hrest⟩ := bind_eq_ok.1 h
    obtain ⟨others, hothers, -⟩ := bind_eq_ok.1 hrest
    intro f hf
    rcases List.mem_cons.1 hf with rfl | hmem
    · apply Bool.eq_true_of_not_eq_false
      intro hsystem
      simp [passOver, hsystem] at hfirst
    · exact ih hothers f hmem

private theorem comesTo_roundOf (answers : List (Except Fault (List Device))) :
    ComesTo answers ((roundOf answers).map some) where
  kept := by
    constructor
    · intro hkept
      cases hround : roundOf answers with
      | error f =>
        rw [hround] at hkept
        cases hkept
      | ok devices => exact isSystem_of_roundOf hround
    · intro h
      rw [roundOf_of_system h]
      rfl
  lost := by
    intro before f after hanswers hbefore hf
    rw [hanswers, roundOf_lost hbefore hf]
    rfl

namespace Attempt

private theorem passOver_value (f : Fault) (text : String) :
    (do
      if !f.isSystem then throw f
      Action.debug text
      return [] : Attempt (List Device)).run.value = passOver (.error f) := by
  cases hf : f.isSystem with
  | false =>
    simp only [passOver, hf]
    rfl
  | true =>
    simp only [passOver, hf]
    rfl

private theorem inTurn_value {α : Type} {part : α → Attempt (List Device)}
    {answer : α → Except Fault (List Device)} {targets : List α}
    (h : ∀ t ∈ targets, (part t).run.value = passOver (answer t)) :
    (inTurn (targets.map part)).run.value = roundOf (targets.map answer) := by
  induction targets with
  | nil => rfl
  | cons target targets ih =>
    have hfirst := h target List.mem_cons_self
    have hothers := ih fun t ht => h t (List.mem_cons_of_mem _ ht)
    rw [List.map_cons, List.map_cons, inTurn_cons_value, roundOf, hfirst, hothers]

end Attempt

namespace Mdns

/-- The server that the announcement of a service tells of, if it can be resolved. -/
def server? (service : Service) : Option Server :=
  match service.info with
  | .ok info => info.bind Server.ofInfo?
  | .error _ => none

/-- The announcements of services, one after the other. -/
def announcements (services : List Service) : List Service :=
  services.flatMap fun service => List.replicate (service.events.count .added) service

/-- The servers that announcements tell of, each once, in the order of their first announcements. -/
def servers (services : List Service) : List Server :=
  ((announcements services).filterMap server?).eraseDups

/-- What a server answers, as devices.  The usual port is not written. -/
def answer (site : Site) (timeout : Value) (server : Server) : Except Fault (List Device) :=
  let port : Value := if server.port = Upsd.defaultPort then .null else .int server.port
  (Upsd.listUnits site server.host (.int server.port) timeout).run.value.map fun units =>
    units.map (Upsd.deviceOf .avahi server.host port)

def takeNew (sofar : List Server) (server : Server) : List Server :=
  if sofar.contains server then sofar else sofar ++ [server]

private theorem takeNew_eraseDups (known : List Server) (server : Server) :
    takeNew known.eraseDups server = (known ++ [server]).eraseDups := by
  by_cases h : server ∈ known
  · rw [eraseDups_concat_of_mem h]
    simp [takeNew, h]
  · rw [eraseDups_concat_of_not_mem h]
    simp [takeNew, h]

private theorem foldl_takeNew (known found : List Server) :
    found.foldl takeNew known.eraseDups = (known ++ found).eraseDups := by
  induction found generalizing known with
  | nil => rw [List.foldl_nil, List.append_nil]
  | cons server found ih =>
    rw [List.foldl_cons, takeNew_eraseDups, ih, List.append_assoc, List.singleton_append]

private theorem announce_value (sofar : List Server) (service : Service) :
    (announce sofar service).value = (server? service).toList.foldl takeNew sofar := by
  cases hinfo : service.info with
  | error f => simp [announce, server?, hinfo]
  | ok info =>
    cases hserver : info.bind Server.ofInfo? with
    | none => simp [announce, server?, hinfo, hserver]
    | some server =>
      simp only [announce, server?, hinfo, hserver, Option.toList_some, List.foldl_cons, List.foldl_nil,
        takeNew]
      split <;> rfl

private theorem announceTimes_value (service : Service) (n : Nat) (sofar : List Server) :
    (announceTimes service n sofar).value =
      ((List.replicate n service).filterMap server?).foldl takeNew sofar := by
  induction n generalizing sofar with
  | zero => rfl
  | succ n ih =>
    rw [announceTimes, Traced.bind_value, ih, announce_value, List.replicate_succ]
    cases hserver : server? service with
    | none => simp [hserver]
    | some server => simp [hserver]

private theorem announced_value (services : List Service) (sofar : List Server) :
    (announced sofar services).value =
      ((announcements services).filterMap server?).foldl takeNew sofar := by
  induction services generalizing sofar with
  | nil => rfl
  | cons service services ih =>
    have hfirst : announcements (service :: services) =
        List.replicate (service.events.count .added) service ++ announcements services := List.flatMap_cons
    rw [announced, Traced.bind_value, ih, announceTimes_value, hfirst, List.filterMap_append,
      List.foldl_append]

private theorem port_le_of_mem_servers {services : List Service} {server : Server}
    (hports : ∀ service ∈ services, ∀ info, service.info = .ok (some info) → info.port ≤ 65535)
    (h : server ∈ servers services) : server.port ≤ 65535 := by
  rw [servers, List.mem_eraseDups] at h
  obtain ⟨service, hservice, hserver⟩ := List.mem_filterMap.1 h
  obtain ⟨s, hs, hreplicated⟩ := List.mem_flatMap.1 hservice
  rw [List.eq_of_mem_replicate hreplicated] at hserver
  unfold server? at hserver
  cases hinfo : s.info with
  | error f => simp [hinfo] at hserver
  | ok info =>
    cases info with
    | none => simp [hinfo] at hserver
    | some info =>
      have hport := hports s hs info hinfo
      simp only [hinfo, Option.bind_some, Server.ofInfo?, Option.map_eq_some_iff] at hserver
      obtain ⟨host, -, rfl⟩ := hserver
      dsimp only
      split
      · decide
      · exact hport

private theorem devicesAt_value (site : Site) (timeout : Value) {server : Server} (hport : server.port ≤ 65535) :
    (devicesAt site timeout server).run.value = passOver (answer site timeout server) := by
  have hwritable :
      (if server.port = Upsd.defaultPort then Value.null else .int server.port).isWritable = true := by
    split
    · rfl
    · exact Upsd.isWritable_of_isPort hport
  rw [devicesAt, Attempt.outcome_bind_value, answer]
  cases (Upsd.listUnits site server.host (.int server.port) timeout).run.value with
  | ok units =>
    change (Attempt.ofExcept (Upsd.devices .avahi server.host _ units)).run.value = _
    rw [Attempt.ofExcept_value, Upsd.devices_eq_ok _ _ hwritable]
    rfl
  | error f => exact Attempt.passOver_value f _

theorem scan_value (site : Site) (hinstalled : site.installed .avahi = true)
    (hports : ∀ service ∈ site.services, ∀ info, service.info = .ok (some info) → info.port ≤ 65535)
    (gate : Option Semaphore) (start stop : Option Endpoint) {timeout : Value} (hsleep : timeout.sleep = .ok ())
    (options : ScanOptions) :
    ((engine site).scan gate start stop timeout options).run.value =
      (roundOf ((servers site.services).map (answer site timeout))).map some := by
  have hservers : (announced [] site.services).value = servers site.services := by
    rw [announced_value]
    exact foldl_takeNew [] _
  have hround : (devicesOf site timeout (servers site.services)).run.value =
      roundOf ((servers site.services).map (answer site timeout)) :=
    Attempt.inTurn_value fun server hserver =>
      devicesAt_value site timeout (port_le_of_mem_servers hports hserver)
  rw [← hround, ← hservers]
  simp only [engine, hinstalled, hsleep, Bool.not_true, Bool.false_eq_true, if_false, run_bind_value,
    Attempt.ofExcept_value]
  change (devicesOf site timeout (announced [] site.services).value).run.value.map some = _
  rfl

private theorem scan_of_sleep_error (site : Site) (hinstalled : site.installed .avahi = true)
    (gate : Option Semaphore) (start stop : Option Endpoint) {timeout : Value} {f : Fault}
    (hsleep : timeout.sleep = .error f) (options : ScanOptions) :
    ((engine site).scan gate start stop timeout options).run =
      ⟨.error f, [.contact (.mdns serviceType)]⟩ := by
  simp only [engine, hinstalled, hsleep, Bool.not_true, Bool.false_eq_true, if_false]
  rfl

end Mdns

namespace Serial

/-- The ports that a list names, if there is one: all local ones, or those between its commas. -/
def listed (site : Site) : Option String → List String
  | none => site.serialPorts
  | some list =>
    if list.isEmpty || smalls (trim list) == "auto" then site.serialPorts else portNames list

/-- What the port answers, as devices.  A status line begins with a parenthesis. -/
def answer (site : Site) (port : String) : Except Fault (List Device) :=
  (site.serial port).map fun octets =>
    if octets.head? = some 40 then [{ backend := .eatonSerial, driver := "blazer_ser", port := port }] else []

private theorem head?_readReply (octets : List UInt8) : (readReply octets).head? = octets.head? := by
  cases octets with
  | nil => rfl
  | cons first octets => rfl

private theorem deviceAt_value (site : Site) (timeout : Value) (port : String) :
    (deviceAt site timeout port).run.value = passOver (answer site port) := by
  have hanswers : (answers site port timeout).run.value =
      (site.serial port).map fun octets => octets.head? == some 40 := by
    simp only [answers, run_bind_value]
    cases hport : site.serial port with
    | error f => rfl
    | ok octets =>
      simp only [Except.map, ← head?_readReply octets]
      rfl
  rw [deviceAt, Attempt.outcome_bind_value, hanswers, answer]
  cases site.serial port with
  | error f => exact Attempt.passOver_value f _
  | ok octets =>
    by_cases hhead : octets.head? = some 40
    · simp only [Except.map, hhead, beq_self_eq_true, if_true]
      rfl
    · simp only [Except.map, beq_eq_false_iff_ne.2 hhead, if_neg hhead]
      rfl

private theorem portsToProbe_value (site : Site) (list : Option String) :
    (portsToProbe site ((list.map Value.text).getD .null)).run.value = .ok (listed site list) := by
  cases list with
  | none => rfl
  | some list =>
    have hgiven : (Value.text list).isGiven = !list.isEmpty := rfl
    simp only [Option.map_some, Option.getD_some, portsToProbe, hgiven, Bool.not_not, listed]
    cases list.isEmpty with
    | true => rfl
    | false =>
      simp only [Bool.false_or, Bool.false_eq_true, if_false]
      cases hall : smalls (trim list) == "auto" with
      | true =>
        simp only [run_bind_value, if_true]
        rfl
      | false =>
        simp only [run_bind_value, Bool.false_eq_true, if_false]
        rfl

theorem scan_value (site : Site) (hinstalled : site.installed .eatonSerial = true)
    (gate : Option Semaphore) (start stop : Option Endpoint) (timeout : Value) (list : Option String) :
    ((engine site).scan gate start stop timeout (.serial ⟨(list.map Value.text).getD .null⟩)).run.value =
      (roundOf ((listed site list).map (answer site))).map some := by
  have hround : (devicesAt site timeout (listed site list)).run.value =
      roundOf ((listed site list).map (answer site)) :=
    Attempt.inTurn_value fun port _ => deviceAt_value site timeout port
  rw [← hround]
  simp only [engine, hinstalled, Bool.not_true, Bool.false_eq_true, if_false, run_bind_value,
    portsToProbe_value]
  change (devicesAt site timeout (listed site list)).run.value.map some = _
  rfl

end Serial

/-- The engine for announced servers asks each server that was announced once, in the order of the first
announcements, and the engine for serial ports each port of the list.  Neither loses a device to a failure of
the system at another target, and each loses all of them to any other failure.  No server is asked if the time
for the announcements cannot be slept. -/
theorem scans_comeTo (site : Site) (gate : Option Semaphore) (start stop : Option Endpoint) (timeout : Value)
    (options : ScanOptions) (list : Option String) :
    (site.installed .avahi = true →
        (∀ f, timeout.sleep = .error f → ((Mdns.engine site).scan gate start stop timeout options).run =
          ⟨.error f, [.contact (.mdns Mdns.serviceType)]⟩) ∧
        ((∀ service ∈ site.services, ∀ info, service.info = .ok (some info) → info.port ≤ 65535) →
          timeout.sleep = .ok () →
          ComesTo ((Mdns.servers site.services).map (Mdns.answer site timeout))
            ((Mdns.engine site).scan gate start stop timeout options).run.value)) ∧
      (site.installed .eatonSerial = true →
        ComesTo ((Serial.listed site list).map (Serial.answer site))
          ((Serial.engine site).scan gate start stop timeout
            (.serial ⟨(list.map Value.text).getD .null⟩)).run.value) := by
  constructor
  · intro hinstalled
    constructor
    · intro f hsleep
      exact Mdns.scan_of_sleep_error site hinstalled gate start stop hsleep options
    · intro hports hsleep
      rw [Mdns.scan_value site hinstalled hports gate start stop hsleep]
      exact comesTo_roundOf _
  · intro hinstalled
    rw [Serial.scan_value site hinstalled]
    exact comesTo_roundOf _

private def longLine : List UInt8 := List.replicate (Upsd.lineLimit + 1) 120

/-- The first server sends a line that is too long; the first port is busy, and the second one answers. -/
private def faultySite : Site where
  installed _ := true
  usb := .ok []
  snmp _ := .silent
  http _ := .ok {}
  broadcast := {}
  upsd host _ := if host = "10.0.0.1" then { reply := [longLine].flatMap (· ++ [10]) ++ [] } else {}
  services := [⟨"a", .ok (some ⟨["10.0.0.1"], 0⟩), [.added]⟩, ⟨"b", .ok (some ⟨["10.0.0.2"], 0⟩), [.added]⟩]
  bmc _ := .ok []
  serial port := if port = "ttyS0" then .error (.outside (.system "OSError") "busy") else .ok [40, 50]
  serialPorts := ["ttyS0", "ttyS1"]
  files _ := none

private theorem answer_faultySite : Mdns.answer faultySite (.int 5) ⟨"10.0.0.1", 3493⟩ =
    .error (.outside (.value none) "Separator is found, but chunk is longer than limit") := by
  have hdelivers : Upsd.Delivers (faultySite.upsd "10.0.0.1" (.int (3493 : Nat))) [longLine] [] := by
    refine ⟨rfl, rfl, nofun, ?_, List.not_mem_nil, rfl⟩
    rintro line hline hfeed
    rw [List.mem_singleton.1 hline] at hfeed
    exact absurd (List.eq_of_mem_replicate hfeed) (by decide)
  have hover : Upsd.Overruns (Upsd.sent [longLine] []) ⟨longLine, true⟩ := by
    refine ⟨[], [], rfl, ?_, List.forall_mem_nil _⟩
    rw [longLine, List.length_replicate]
    exact Nat.lt_succ_self _
  have hwaits : (Value.int 5).patience = .waits := rfl
  have hread := Upsd.listUnits_value hdelivers (Upsd.isWritable_of_isPort (by decide)) hwaits
  rw [Mdns.answer, hread, Upsd.listed_of_overruns hover]
  rfl

theorem scans_comeTo_faultySite :
    faultySite.installed .avahi = true ∧ faultySite.installed .eatonSerial = true ∧
      (∀ service ∈ faultySite.services, ∀ info, service.info = .ok (some info) → info.port ≤ 65535) ∧
      (Value.int 5).sleep = .ok () ∧
      ((Mdns.engine faultySite).scan none none none (.int 5) .none).run.value =
        .error (.outside (.value none) "Separator is found, but chunk is longer than limit") ∧
      (Value.real .nan).sleep = .error .sleepNotANumber ∧
      ((Mdns.engine faultySite).scan none none none (.real .nan) .none).run.value =
        .error .sleepNotANumber ∧
      ((Serial.engine faultySite).scan none none none (.int 5) (.serial ⟨.null⟩)).run.value =
        .ok (some [{ backend := .eatonSerial, driver := "blazer_ser", port := "ttyS1" }]) := by
  have hports : ∀ service ∈ faultySite.services, ∀ info,
      service.info = .ok (some info) → info.port ≤ 65535 := by
    intro service hservice info hinfo
    simp only [faultySite, List.mem_cons, List.not_mem_nil, or_false] at hservice
    rcases hservice with rfl | rfl
    · cases hinfo
      decide
    · cases hinfo
      decide
  have hsleep : (Value.int 5).sleep = .ok () := rfl
  obtain ⟨hmdns, hserial⟩ := scans_comeTo faultySite none none none (.int 5) .none none
  refine ⟨rfl, rfl, hports, hsleep, ?_, rfl, ?_, ?_⟩
  · apply ((hmdns rfl).2 hports hsleep).lost [] _ [.ok []] ?_ nofun rfl
    rw [← answer_faultySite]
    rfl
  · exact congrArg Traced.value
      (((scans_comeTo faultySite none none none (.real .nan) .none none).1 rfl).1 _ rfl)
  · apply (hserial rfl).kept.2
    intro f hf
    rcases List.mem_cons.1 hf with hbusy | hanswer
    · cases hbusy
      rfl
    · cases List.mem_singleton.1 hanswer

end PowerDiscovery
