import PowerDiscovery.Range.Folder

/-! # What a folder records

A sequence of arguments and flushes is cut from left to right: an address and its counterpart make one
piece if nothing stands between them, and every other event is a piece of its own.  A folder records the
ranges of these pieces in their order, one step behind while an address waits for its counterpart. -/

namespace PowerDiscovery

/-- The ranges of networks in CIDR notation up to the first one that cannot be read, and why that one
cannot. -/
def cidrRanges : List String → List AddressRange × Option Address.Error
  | [] => ([], none)
  | cidr :: cidrs => match Network.cidrRange cidr with
    | .error e => ([], some e)
    | .ok (start, stop) =>
      (⟨.text start, .text stop⟩ :: (cidrRanges cidrs).1, (cidrRanges cidrs).2)

theorem Registry.addCidr_value (r : Registry) (cidr : String) :
    (r.addCidr cidr).value = { registry := { r with ranges := r.ranges ++ (cidrRanges [cidr]).1 }
                               failure := (cidrRanges [cidr]).2 } := by
  simp only [addCidr, Traced.bind_value, cidrRanges]
  cases Network.cidrRange cidr with
  | error e => simp
  | ok ends => simp [record, push]

theorem Registry.addCidrs_value (r : Registry) (cidrs : List String) :
    (r.addCidrs cidrs).value = { registry := { r with ranges := r.ranges ++ (cidrRanges cidrs).1 }
                                 failure := (cidrRanges cidrs).2 } := by
  induction cidrs generalizing r with
  | nil => simp [addCidrs, cidrRanges]
  | cons cidr cidrs ih =>
    simp only [addCidrs, Traced.bind_value, addCidr_value, cidrRanges]
    cases Network.cidrRange cidr with
    | error e => rfl
    | ok ends => simp [ih]

theorem Registry.discoverMode_value {r : Registry} (h : r.discovered = none)
    (interfaces : List Interface) (mode : DiscoveryMode) :
    (r.discoverMode interfaces mode).value =
      ({ r with discovered := some mode }.addCidrs (localSubnets mode interfaces).value).value := by
  simp only [discoverMode, h, Option.isSome_none, Bool.false_eq_true, if_false, Traced.bind_value]
  split <;> rfl

namespace Folder

/-- What may happen to a folder: it takes an argument, or it records the address that waits. -/
inductive Event where
  | argument (argument : RangeArgument)
  | flush
deriving DecidableEq, Repr

def Event.discovers : Event → Bool
  | .argument (.network (.text s)) => (DiscoveryMode.ofName? s).isSome
  | _ => false

def handle (interfaces : List Interface) (f : Folder) : Event → Outcome
  | .argument argument => (f.take interfaces argument).value
  | .flush => { folder := f.flush.value }

/-- What a folder is after several events, and what went wrong at each of them.  An event that fails does
not keep the next one from happening. -/
def handleAll (interfaces : List Interface) (f : Folder) : List Event → Folder × List (Option Failure)
  | [] => (f, [])
  | event :: events =>
    let outcome := f.handle interfaces event
    let rest := outcome.folder.handleAll interfaces events
    (rest.1, outcome.failure :: rest.2)

inductive Piece where
  | firstThenLast (first last : Endpoint)
  | lastThenFirst (last first : Endpoint)
  | firstAlone (first : Endpoint)
  | lastAlone (last : Endpoint)
  | network (name : Endpoint)
  | flush
deriving DecidableEq, Repr

def Piece.events : Piece → List Event
  | .firstThenLast first last => [.argument (.first first), .argument (.last last)]
  | .lastThenFirst last first => [.argument (.last last), .argument (.first first)]
  | .firstAlone first => [.argument (.first first)]
  | .lastAlone last => [.argument (.last last)]
  | .network name => [.argument (.network name)]
  | .flush => [.flush]

def cut : List Event → List Piece
  | [] => []
  | .argument (.first first) :: .argument (.last last) :: events =>
    .firstThenLast first last :: cut events
  | .argument (.last last) :: .argument (.first first) :: events =>
    .lastThenFirst last first :: cut events
  | .argument (.first first) :: events => .firstAlone first :: cut events
  | .argument (.last last) :: events => .lastAlone last :: cut events
  | .argument (.network name) :: events => .network name :: cut events
  | .flush :: events => .flush :: cut events

private theorem cut_events (events : List Event) : (cut events).flatMap Piece.events = events := by
  fun_induction cut events <;> simp_all [Piece.events]

/-- The ranges of a network named in an argument, and what is wrong with the name.  A request for the
local networks counts only if there was none before. -/
def networkRanges (interfaces : List Interface) (discovered : Bool) :
    Endpoint → List AddressRange × Option Failure
  | .wordless => ([], some .wordless)
  | .text s =>
    let found := match DiscoveryMode.ofName? s with
      | none => cidrRanges [s]
      | some mode => if discovered then ([], none) else cidrRanges (localSubnets mode interfaces).value
    (found.1, found.2.map fun cause => .rejected ⟨s, cause⟩)

namespace Piece

variable (interfaces : List Interface)

def ranges (discovered : Bool) : Piece → List AddressRange
  | firstThenLast first last => [⟨first, last⟩]
  | lastThenFirst last first => [⟨first, last⟩]
  | firstAlone first => [⟨first, first⟩]
  | lastAlone last => [⟨last, last⟩]
  | network name => (networkRanges interfaces discovered name).1
  | flush => []

def discovers (piece : Piece) : Bool :=
  piece.events.any Event.discovers

def rangesOf (discovered : Bool) : List Piece → List AddressRange
  | [] => []
  | piece :: pieces =>
    piece.ranges interfaces discovered ++ rangesOf (discovered || piece.discovers) pieces

private theorem rangesOf_append (discovered : Bool) (done rest : List Piece) :
    rangesOf interfaces discovered (done ++ rest) =
      rangesOf interfaces discovered done ++
        rangesOf interfaces (discovered || done.any discovers) rest := by
  induction done generalizing discovered with
  | nil => simp [rangesOf]
  | cons piece done ih => simp [rangesOf, ih, Bool.or_assoc]

end Piece

/-- The events whose address a folder keeps back: none, or one. -/
inductive Waits : Folder → List Event → Prop where
  | nothing (r : Registry) : Waits { registry := r } []
  | first (r : Registry) (first : Endpoint) :
      Waits { registry := r, start := some first } [.argument (.first first)]
  | last (r : Registry) (last : Endpoint) :
      Waits { registry := r, stop := some last } [.argument (.last last)]

private theorem Waits.start_or_stop {f : Folder} {waiting : List Event} (h : Waits f waiting) :
    f.start = none ∨ f.stop = none := by
  cases h with
  | nothing r => exact .inl rfl
  | first r first => exact .inr rfl
  | last r last => exact .inl rfl

variable {interfaces : List Interface}

/-- A registry that has recorded the ranges of some pieces since it was another one. -/
structure Recorded (interfaces : List Interface) (before after : Registry) (pieces : List Piece) :
    Prop where
  ranges : after.ranges = before.ranges ++
    Piece.rangesOf interfaces before.discovered.isSome pieces
  discovered : after.discovered.isSome =
    (before.discovered.isSome || pieces.any Piece.discovers)

theorem Recorded.nothing (r : Registry) : Recorded interfaces r r [] :=
  ⟨(List.append_nil _).symm, (Bool.or_false _).symm⟩

theorem Recorded.trans {r₁ r₂ r₃ : Registry} {done rest : List Piece}
    (h : Recorded interfaces r₁ r₂ done) (h' : Recorded interfaces r₂ r₃ rest) :
    Recorded interfaces r₁ r₃ (done ++ rest) := by
  refine ⟨?_, ?_⟩
  · rw [h'.ranges, h.ranges, h.discovered, Piece.rangesOf_append, List.append_assoc]
  · rw [h'.discovered, h.discovered, List.any_append, Bool.or_assoc]

theorem discoverMode_recorded (r : Registry) {s : String} {mode : DiscoveryMode}
    (hmode : DiscoveryMode.ofName? s = some mode) :
    Recorded interfaces r (r.discoverMode interfaces mode).value.registry [.network (.text s)] ∧
      ((r.discoverMode interfaces mode).value.failure.map fun cause => Failure.rejected ⟨s, cause⟩) =
        (networkRanges interfaces r.discovered.isSome (.text s)).2 := by
  cases hd : r.discovered with
  | none =>
    rw [Registry.discoverMode_value hd, Registry.addCidrs_value]
    refine ⟨⟨?_, ?_⟩, ?_⟩ <;>
      simp [hd, Piece.rangesOf, Piece.ranges, networkRanges, hmode, Piece.discovers, Piece.events,
        Event.discovers]
  | some earlier =>
    have hvalue : (r.discoverMode interfaces mode).value = { registry := r } := by
      simp [Registry.discoverMode, hd]
    rw [hvalue]
    refine ⟨⟨?_, ?_⟩, ?_⟩ <;> simp [hd, Piece.rangesOf, Piece.ranges, networkRanges, hmode]

private theorem addCidr_recorded (r : Registry) {s : String} (hmode : DiscoveryMode.ofName? s = none) :
    Recorded interfaces r (r.addCidr s).value.registry [.network (.text s)] ∧
      ((r.addCidr s).value.failure.map fun cause => Failure.rejected ⟨s, cause⟩) =
        (networkRanges interfaces r.discovered.isSome (.text s)).2 := by
  rw [Registry.addCidr_value]
  refine ⟨⟨?_, ?_⟩, ?_⟩ <;>
    simp [Piece.rangesOf, Piece.ranges, networkRanges, hmode, Piece.discovers, Piece.events, Event.discovers]

theorem Waits.flush {f : Folder} {waiting : List Event} (h : Waits f waiting) :
    ∃ r, f.flush.value = { registry := r } ∧ Recorded interfaces f.registry r (cut waiting) := by
  cases h with
  | nothing r => exact ⟨r, rfl, .nothing r⟩
  | first r first => exact ⟨r.push ⟨first, first⟩, rfl, rfl, (Bool.or_false _).symm⟩
  | last r last => exact ⟨r.push ⟨last, last⟩, rfl, rfl, (Bool.or_false _).symm⟩

theorem takeNetwork_recorded (f : Folder) (name : Endpoint) :
    let flushed := f.flush.value
    ∃ r, (f.takeNetwork interfaces name).value.folder = { flushed with registry := r } ∧
      Recorded interfaces flushed.registry r [.network name] ∧
      (f.takeNetwork interfaces name).value.failure =
        (networkRanges interfaces flushed.registry.discovered.isSome name).2 := by
  intro flushed
  simp only [takeNetwork, Traced.bind_value]
  cases name with
  | wordless =>
    refine ⟨flushed.registry, rfl, ⟨?_, ?_⟩, rfl⟩ <;>
      simp [Piece.rangesOf, Piece.ranges, networkRanges, Piece.discovers, Piece.events, Event.discovers]
  | text s =>
    cases hmode : DiscoveryMode.ofName? s with
    | none =>
      obtain ⟨hrecorded, hfailure⟩ := addCidr_recorded flushed.registry hmode
      simp only [hmode]
      exact ⟨_, rfl, hrecorded, hfailure⟩
    | some mode =>
      obtain ⟨hrecorded, hfailure⟩ := discoverMode_recorded flushed.registry hmode
      simp only [hmode]
      exact ⟨_, rfl, hrecorded, hfailure⟩

private theorem takeNetwork_spec {f : Folder} {waiting : List Event} (h : Waits f waiting) (name : Endpoint) :
    ∃ r, (f.takeNetwork interfaces name).value.folder = { registry := r } ∧
      Recorded interfaces f.registry r (cut waiting ++ [.network name]) ∧
      (f.takeNetwork interfaces name).value.failure =
        (networkRanges interfaces f.registry.discovered.isSome name).2 := by
  obtain ⟨r, hflush, hr⟩ := @Waits.flush interfaces _ _ h
  -- The address that waits requests no local networks, so the name is looked at as it was before.
  have hdiscovered : r.discovered.isSome = f.registry.discovered.isSome := by
    rw [hr.discovered]
    cases h <;> simp [cut, Piece.discovers, Piece.events, Event.discovers]
  obtain ⟨r', hfolder, hrecorded, hfailure⟩ := @takeNetwork_recorded interfaces f name
  rw [hflush] at hfolder hrecorded hfailure
  rw [hdiscovered] at hfailure
  exact ⟨r', hfolder, hr.trans hrecorded, hfailure⟩

def Event.failure? (interfaces : List Interface) (discovered : Bool) : Event → Option Failure
  | .argument (.network name) => (networkRanges interfaces discovered name).2
  | _ => none

/-- One event completes some pieces, which are recorded, and leaves at most one address waiting. -/
theorem Waits.handle {f : Folder} {waiting : List Event} (h : Waits f waiting) (event : Event) :
    ∃ done waiting', Waits (f.handle interfaces event).folder waiting' ∧
      (∀ events, cut (waiting ++ event :: events) = done ++ cut (waiting' ++ events)) ∧
      Recorded interfaces f.registry (f.handle interfaces event).folder.registry done ∧
      done.any Piece.discovers = event.discovers ∧
      (f.handle interfaces event).failure =
        event.failure? interfaces f.registry.discovered.isSome := by
  have hwaiting : (cut waiting).any Piece.discovers = false := by
    cases h <;> simp [cut, Piece.discovers, Piece.events, Event.discovers]
  cases event with
  | flush =>
    obtain ⟨r, hflush, hr⟩ := @Waits.flush interfaces _ _ h
    refine ⟨cut waiting ++ [.flush], [], ?_, ?_, ?_, ?_, rfl⟩
    · simp only [Folder.handle, hflush]
      exact .nothing r
    · intro events
      cases h <;> simp [cut]
    · simp only [Folder.handle, hflush]
      exact hr.trans ⟨by simp [Piece.rangesOf, Piece.ranges], by
        simp [Piece.discovers, Piece.events, Event.discovers]⟩
    · simp [hwaiting, Piece.discovers, Piece.events, Event.discovers]
  | argument argument =>
    cases argument with
    | first first =>
      cases h with
      | nothing r =>
        exact ⟨[], _, .first r first, fun _ => rfl, .nothing r, rfl, rfl⟩
      | first r waiting =>
        exact ⟨[.firstAlone waiting], _, .first (r.push ⟨waiting, waiting⟩) first, fun _ => rfl,
          ⟨rfl, (Bool.or_false _).symm⟩, rfl, rfl⟩
      | last r waiting =>
        exact ⟨[.lastThenFirst waiting first], _, .nothing (r.push ⟨first, waiting⟩), fun _ => rfl,
          ⟨rfl, (Bool.or_false _).symm⟩, rfl, rfl⟩
    | last last =>
      cases h with
      | nothing r =>
        exact ⟨[], _, .last r last, fun _ => rfl, .nothing r, rfl, rfl⟩
      | first r waiting =>
        exact ⟨[.firstThenLast waiting last], _, .nothing (r.push ⟨waiting, last⟩), fun _ => rfl,
          ⟨rfl, (Bool.or_false _).symm⟩, rfl, rfl⟩
      | last r waiting =>
        exact ⟨[.lastAlone waiting], _, .last (r.push ⟨waiting, waiting⟩) last, fun _ => rfl,
          ⟨rfl, (Bool.or_false _).symm⟩, rfl, rfl⟩
    | network name =>
      obtain ⟨r, hfolder, hr, hfailure⟩ := @takeNetwork_spec interfaces _ _ h name
      refine ⟨cut waiting ++ [.network name], [], ?_, ?_, ?_, ?_, hfailure⟩
      · simp only [Folder.handle, take, hfolder]
        exact .nothing r
      · intro events
        cases h <;> simp [cut]
      · simp only [Folder.handle, take, hfolder]
        exact hr
      · rw [List.any_append, hwaiting]
        simp [Piece.discovers, Piece.events]

def failuresOf (interfaces : List Interface) (discovered : Bool) : List Event → List (Option Failure)
  | [] => []
  | event :: events =>
    event.failure? interfaces discovered ::
      failuresOf interfaces (discovered || event.discovers) events

private theorem Waits.handleAll {f : Folder} {waiting : List Event} (h : Waits f waiting)
    (events : List Event) :
    ∃ done waiting', Waits (f.handleAll interfaces events).1 waiting' ∧
      cut (waiting ++ events) = done ++ cut waiting' ∧
      Recorded interfaces f.registry (f.handleAll interfaces events).1.registry done ∧
      (f.handleAll interfaces events).2 =
        failuresOf interfaces f.registry.discovered.isSome events := by
  induction events generalizing f waiting with
  | nil =>
    exact ⟨[], waiting, h, by simp, .nothing f.registry, rfl⟩
  | cons event events ih =>
    obtain ⟨done₁, waiting₁, h₁, hcut₁, hrecorded₁, hdiscovers, hfailure⟩ := h.handle event
    obtain ⟨done, waiting', h', hcut, hrecorded, hfailures⟩ := ih h₁
    refine ⟨done₁ ++ done, waiting', h', ?_, hrecorded₁.trans hrecorded, ?_⟩
    · rw [hcut₁, hcut, List.append_assoc]
    · rw [hrecorded₁.discovered, hdiscovers] at hfailures
      simp only [Folder.handleAll, failuresOf, hfailures, hfailure]

private theorem takeAll_value (f : Folder) (arguments : List RangeArgument) :
    (f.takeAll interfaces arguments).value =
      match (f.handleAll interfaces (arguments.map .argument)).2.findSome? id with
      | some failure => .error failure
      | none => .ok (f.handleAll interfaces (arguments.map .argument)).1 := by
  induction arguments generalizing f with
  | nil => rfl
  | cons argument arguments ih =>
    have hhandle : f.handle interfaces (.argument argument) = (f.take interfaces argument).value := rfl
    simp only [takeAll, Traced.bind_value, List.map_cons, handleAll, hhandle]
    cases hfailure : (f.take interfaces argument).value.failure with
    | some failure => rfl
    | none => exact ih _

def after (interfaces : List Interface) (r : Registry) (events : List Event) : Folder :=
  (handleAll interfaces { registry := r } events).1

private theorem waits_after (r : Registry) (events : List Event) :
    ∃ waiting, Waits (after interfaces r events) waiting ∧
      Recorded interfaces r (after interfaces r events).flush.value.registry (cut events) ∧
      (handleAll interfaces { registry := r } events).2 =
        failuresOf interfaces r.discovered.isSome events := by
  obtain ⟨done, waiting, hwaits, hcut, hdone, hfailures⟩ :=
    @Waits.handleAll interfaces _ _ (.nothing r) events
  obtain ⟨r', hflush, hrest⟩ := @Waits.flush interfaces _ _ hwaits
  rw [List.nil_append] at hcut
  refine ⟨waiting, hwaits, ?_, hfailures⟩
  rw [after, hflush, hcut]
  exact hdone.trans hrest

theorem ofArguments_ranges (interfaces : List Interface) (arguments : List RangeArgument) :
    (Registry.ofArguments interfaces arguments).value.map Registry.ranges =
      match (failuresOf interfaces false (arguments.map .argument)).findSome? id with
      | some failure => .error failure
      | none => .ok (Piece.rangesOf interfaces false (cut (arguments.map .argument))) := by
  obtain ⟨-, -, hrecorded, hfailures⟩ :=
    @waits_after interfaces {} (arguments.map .argument)
  have hranges := hrecorded.ranges
  simp only [Registry.ofArguments, Traced.bind_value, takeAll_value, hfailures]
  simp only [Option.isSome_none, List.nil_append] at hranges ⊢
  cases (failuresOf interfaces false (arguments.map .argument)).findSome? id with
  | some failure => rfl
  | none => exact congrArg Except.ok hranges

/-- Folding a sequence of events is cutting it: what is recorded are the ranges of the pieces, and at most
one address waits for its counterpart.  A malformed network is refused once the address that waits is
recorded, and nothing else changes. -/
theorem recorded_eq_cut (interfaces : List Interface) (r : Registry) (events : List Event) :
    ((after interfaces r events).start = none ∨ (after interfaces r events).stop = none) ∧
    (cut events).flatMap Piece.events = events ∧
    (after interfaces r events).flush.value.registry.ranges =
      r.ranges ++ Piece.rangesOf interfaces r.discovered.isSome (cut events) ∧
    (∀ s start stop, DiscoveryMode.ofName? s = none → Network.cidrRange s = .ok (start, stop) →
      (after interfaces r events).handle interfaces (.argument (.network (.text s))) =
        { folder := { registry :=
            (after interfaces r events).flush.value.registry.push ⟨.text start, .text stop⟩ } }) ∧
    (∀ s e, DiscoveryMode.ofName? s = none → Network.cidrRange s = .error e →
      (after interfaces r events).handle interfaces (.argument (.network (.text s))) =
        { folder := { registry := (after interfaces r events).flush.value.registry }
          failure := some (.rejected ⟨s, e⟩) }) ∧
    ∀ arguments : List RangeArgument,
      (Registry.ofArguments interfaces arguments).value.map Registry.ranges =
        match (failuresOf interfaces false (arguments.map .argument)).findSome? id with
        | some failure => .error failure
        | none => .ok (Piece.rangesOf interfaces false (cut (arguments.map .argument))) := by
  obtain ⟨waiting, hwaits, hrecorded, -⟩ := @waits_after interfaces r events
  obtain ⟨r', hflush, -⟩ := @Waits.flush interfaces _ _ hwaits
  refine ⟨hwaits.start_or_stop, cut_events events, hrecorded.ranges, ?_, ?_,
    ofArguments_ranges interfaces⟩
  · intro s start stop hmode hcidr
    simp [handle, take, takeNetwork, hflush, hmode, Registry.addCidr_value, cidrRanges, hcidr,
      Registry.push]
  · intro s e hmode hcidr
    simp [handle, take, takeNetwork, hflush, hmode, Registry.addCidr_value, cidrRanges, hcidr]

private theorem cidrRange_tooLong :
    Network.cidrRange "10.0.0.0/33" = .error (.notNetwork "10.0.0.0/33") := by
  have htrim : Text.trim "10.0.0.0/33" = "10.0.0.0/33" := rfl
  rw [Network.cidrRange, Network.readCidr, String.contains_char_eq]
  simp only [htrim, Network.read?, Network.readFamily?, Address.readFamily?, String.contains_char_eq]
  rfl

theorem recorded_eq_cut_malformed :
    let events : List Event := [.argument (.last (.text "")), .argument (.first (.text "10.0.0.1")),
      .argument (.first (.text "10.0.0.9"))]
    ∃ r, (after [] {} events).handle [] (.argument (.network (.text "10.0.0.0/33"))) =
        { folder := { registry := r }
          failure := some (.rejected ⟨"10.0.0.0/33", .notNetwork "10.0.0.0/33"⟩) } ∧
      r.ranges = [⟨.text "10.0.0.1", .text ""⟩, ⟨.text "10.0.0.9", .text "10.0.0.9"⟩] := by
  intro events
  obtain ⟨-, -, hranges, -, hmalformed, -⟩ := recorded_eq_cut [] {} events
  exact ⟨_, hmalformed _ _ (by decide) cidrRange_tooLong, hranges⟩

end Folder

end PowerDiscovery
