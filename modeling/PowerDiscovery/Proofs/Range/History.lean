import Mathlib.Data.List.Induction
import PowerDiscovery.Proofs.Range.Folding

/-! # Histories of a registry

A registry is called directly and through folders, in any order.  Every call hands over some pairs of ends,
and the registry holds the ranges that are named by the pairs handed over since it was cleared last. -/

namespace PowerDiscovery

abbrev EndPair := Option Endpoint × Option Endpoint

namespace AddressRange

/-- The range that a pair of ends names.  A missing end is the same as the other one. -/
def named? : EndPair → Option AddressRange
  | (none, none) => none
  | (some a, none) => some ⟨a, a⟩
  | (none, some b) => some ⟨b, b⟩
  | (some a, some b) => some ⟨a, b⟩

def ends (range : AddressRange) : EndPair := (some range.start, some range.stop)

private theorem filterMap_named?_ends (ranges : List AddressRange) :
    (ranges.map ends).filterMap named? = ranges := by
  induction ranges with
  | nil => rfl
  | cons range ranges ih => simp [ends, named?, ih]

private theorem named?_eq_some {pair : EndPair} {range : AddressRange} (h : named? pair = some range) :
    (pair.1.isSome = true ∨ pair.2.isSome = true) ∧ (∀ a, pair.1 = some a → range.start = a) ∧
      (∀ b, pair.2 = some b → range.stop = b) ∧
      (pair.1 = none ∨ pair.2 = none → range.start = range.stop) := by
  obtain ⟨start, stop⟩ := pair
  cases start with
  | none =>
    cases stop with
    | none => cases h
    | some b =>
      cases h
      simp
  | some a =>
    cases stop with
    | none =>
      cases h
      simp
    | some b =>
      cases h
      simp

end AddressRange

open AddressRange (named? ends)

private theorem Registry.add_value (r : Registry) (start stop : Option Endpoint) :
    (r.add start stop).value = { r with ranges := r.ranges ++ (named? (start, stop)).toList } := by
  cases start <;> cases stop <;> simp [add, record, push, named?]

namespace Folder

variable (interfaces : List Interface) (f : Folder)

private theorem flush_value : f.flush.value = { registry := (f.registry.add f.start f.stop).value } := by
  obtain ⟨registry, start, stop⟩ := f
  cases start <;> cases stop <;> rfl

def hands : Event → List EndPair
  | .flush => [(f.start, f.stop)]
  | .argument (.first a) =>
    if f.start.isSome then [(f.start, f.stop)] else if f.stop.isSome then [(some a, f.stop)] else []
  | .argument (.last b) =>
    if f.stop.isSome then [(f.start, f.stop)] else if f.start.isSome then [(f.start, some b)] else []
  | .argument (.network name) =>
    [(f.start, f.stop)] ++ (networkRanges interfaces f.registry.discovered.isSome name).1.map ends

/-- The ends that wait after an event: at most the one that it gives. -/
def waitingAfter : Event → EndPair
  | .argument (.first a) => if f.start.isNone && f.stop.isSome then (none, none) else (some a, none)
  | .argument (.last b) => if f.stop.isNone && f.start.isSome then (none, none) else (none, some b)
  | _ => (none, none)

private theorem flush_ranges : f.flush.value.registry.ranges =
    f.registry.ranges ++ [(f.start, f.stop)].filterMap named? := by
  rw [flush_value, Registry.add_value]
  cases h : named? (f.start, f.stop) <;> simp [h]

private theorem flush_discovered : f.flush.value.registry.discovered = f.registry.discovered := by
  rw [flush_value, Registry.add_value]

private theorem handle_ranges (event : Event) : (f.handle interfaces event).folder.registry.ranges =
    f.registry.ranges ++ (f.hands interfaces event).filterMap named? := by
  cases event with
  | flush => exact f.flush_ranges
  | argument argument =>
    cases argument with
    | first a =>
      obtain ⟨registry, start, stop⟩ := f
      cases start <;> cases stop <;>
        simp [handle, take, takeFirst, hands, flush_value, Registry.add_value, named?]
    | last b =>
      obtain ⟨registry, start, stop⟩ := f
      cases start <;> cases stop <;>
        simp [handle, take, takeLast, hands, flush_value, Registry.add_value, named?]
    | network name =>
      obtain ⟨r, hfolder, hrecorded, _⟩ := @takeNetwork_recorded interfaces f name
      have hranges := hrecorded.ranges
      simp only [Piece.rangesOf, Piece.ranges, List.append_nil, flush_ranges, flush_discovered] at hranges
      simp only [handle, take, hfolder, hands, hranges, List.filterMap_append,
        AddressRange.filterMap_named?_ends, List.append_assoc]

private theorem handle_discovered (event : Event) : (f.handle interfaces event).folder.registry.discovered.isSome =
    (f.registry.discovered.isSome || event.discovers) := by
  cases event with
  | flush => simp [handle, flush_discovered, Event.discovers]
  | argument argument =>
    cases argument with
    | first a =>
      obtain ⟨registry, start, stop⟩ := f
      cases start <;> cases stop <;>
        simp [handle, take, takeFirst, flush_value, Registry.add_value, Event.discovers]
    | last b =>
      obtain ⟨registry, start, stop⟩ := f
      cases start <;> cases stop <;>
        simp [handle, take, takeLast, flush_value, Registry.add_value, Event.discovers]
    | network name =>
      obtain ⟨r, hfolder, hrecorded, _⟩ := @takeNetwork_recorded interfaces f name
      have hdiscovered := hrecorded.discovered
      rw [flush_discovered] at hdiscovered
      simp only [handle, take, hfolder, hdiscovered]
      simp [Piece.discovers, Piece.events]

private theorem handle_waiting (event : Event) :
    ((f.handle interfaces event).folder.start, (f.handle interfaces event).folder.stop) =
      f.waitingAfter event := by
  cases event with
  | flush => simp [handle, flush_value, waitingAfter]
  | argument argument =>
    cases argument with
    | first a =>
      obtain ⟨registry, start, stop⟩ := f
      cases start <;> cases stop <;> simp [handle, take, takeFirst, flush_value, waitingAfter]
    | last b =>
      obtain ⟨registry, start, stop⟩ := f
      cases start <;> cases stop <;> simp [handle, take, takeLast, flush_value, waitingAfter]
    | network name =>
      obtain ⟨r, hfolder, _⟩ := @takeNetwork_recorded interfaces f name
      simp [handle, take, hfolder, flush_value, waitingAfter]

private theorem handle_network_again {name : String} {mode : DiscoveryMode}
    (hmode : DiscoveryMode.ofName? name = some mode) (hagain : f.registry.discovered.isSome = true) :
    f.handle interfaces (.argument (.network (.text name))) = f.handle interfaces .flush := by
  have hflushed : f.flush.value.registry.discovered.isSome = true := by
    rw [flush_discovered]
    exact hagain
  simp [handle, take, takeNetwork, hmode, Registry.discoverMode, hflushed]

end Folder

/-- A registry that several folders share, with the ends that wait in them. -/
structure Registry.Shared where
  registry : Registry := {}
  waiting : Nat → EndPair := fun _ => (none, none)

namespace Registry.Shared

/-- A call of the registry, or an event of one of its folders.  A table of the local interfaces goes with
those that may look at it. -/
inductive Call where
  | add (start stop : Option Endpoint)
  | addCidr (cidr : String)
  | clear
  | discover (interfaces : List Interface) (name : String)
  | fold (folder : Nat) (interfaces : List Interface) (event : Folder.Event)

/-- What a call leads to: an answer of the registry, or the failure of a folder, or nothing. -/
inductive Reply where
  | answer (a : Except Address.Error Nat)
  | rejected (failure : Folder.Failure)
  | nothing

namespace Call

def adds : Call → Bool
  | .add _ _ | .addCidr _ | .discover _ _ => true
  | _ => false

def clears : Call → Bool
  | .clear => true
  | _ => false

def discovers : Call → Bool
  | .discover _ name => (DiscoveryMode.ofName? name).isSome
  | .fold _ _ event => event.discovers
  | _ => false

end Call

def folder (s : Shared) (n : Nat) : Folder :=
  { registry := s.registry, start := (s.waiting n).1, stop := (s.waiting n).2 }

def conclude (s : Shared) (o : Outcome) : Shared × Reply :=
  ({ s with registry := o.registry }, .answer o.answer)

def call (s : Shared) : Call → Shared × Reply
  | .add start stop => s.conclude { registry := (s.registry.add start stop).value }
  | .addCidr cidr => s.conclude (s.registry.addCidr cidr).value
  | .clear => ({ s with registry := s.registry.clear }, .nothing)
  | .discover interfaces name => s.conclude (s.registry.discover interfaces name).value
  | .fold n interfaces event =>
    let o := (s.folder n).handle interfaces event
    ({ registry := o.folder.registry
       waiting := fun m => if m = n then (o.folder.start, o.folder.stop) else s.waiting m },
      (o.failure.map .rejected).getD .nothing)

def after (s : Shared) (calls : List Call) : Shared := calls.foldl (fun s c => (s.call c).1) s

def hands (s : Shared) : Call → List EndPair
  | .add start stop => [(start, stop)]
  | .addCidr cidr => (cidrRanges [cidr]).1.map ends
  | .clear => []
  | .discover interfaces name => match DiscoveryMode.ofName? name with
    | none => []
    | some mode =>
      if s.registry.discovered.isSome then []
      else (cidrRanges (localSubnets mode interfaces).value).1.map ends
  | .fold n interfaces event => (s.folder n).hands interfaces event

/-- The pairs that are handed over in the course of some calls, after others, since the last call that clears
the registry. -/
def handed (s : Shared) (before : List EndPair) : List Call → List EndPair
  | [] => before
  | c :: calls => (s.call c).1.handed ((if c.clears then [] else before) ++ s.hands c) calls

/-- Whether the ends that wait in a folder were given to it by some calls; at most one end waits. -/
def WasGiven (calls : List Call) (n : Nat) : EndPair → Prop
  | (none, none) => True
  | (some a, none) => ∃ interfaces, .fold n interfaces (.argument (.first a)) ∈ calls
  | (none, some b) => ∃ interfaces, .fold n interfaces (.argument (.last b)) ∈ calls
  | (some _, some _) => False

variable (s : Shared)

/-! ### What one call does -/

private theorem call_ranges (c : Call) : (s.call c).1.registry.ranges =
    (if c.clears then [] else s.registry.ranges) ++ (s.hands c).filterMap named? := by
  cases c with
  | add start stop =>
    simp only [call, conclude, Registry.add_value, hands, Call.clears]
    cases h : named? (start, stop) <;> simp [h]
  | addCidr cidr =>
    simp only [call, conclude, Registry.addCidr_value, hands, AddressRange.filterMap_named?_ends]
    rfl
  | clear => rfl
  | discover interfaces name =>
    simp only [call, conclude, Registry.discover, hands]
    cases hmode : DiscoveryMode.ofName? name with
    | none => simp [Call.clears]
    | some mode =>
      cases hd : s.registry.discovered with
      | none =>
        simp only [Registry.discoverMode_value hd, Registry.addCidrs_value, Option.isSome_none,
          Bool.false_eq_true, if_false, AddressRange.filterMap_named?_ends]
        rfl
      | some earlier => simp [Registry.discoverMode, hd, Call.clears]
  | fold n interfaces event => exact (s.folder n).handle_ranges interfaces event

private theorem call_discovered (c : Call) :
    (s.call c).1.registry.discovered.isSome = (s.registry.discovered.isSome || c.discovers) := by
  cases c with
  | add start stop => simp [call, conclude, Registry.add_value, Call.discovers]
  | addCidr cidr => simp [call, conclude, Registry.addCidr_value, Call.discovers]
  | clear => simp [call, Registry.clear, Call.discovers]
  | discover interfaces name =>
    simp only [call, conclude, Registry.discover, Call.discovers]
    cases hmode : DiscoveryMode.ofName? name with
    | none => simp
    | some mode =>
      have hrecorded := (@Folder.discoverMode_recorded interfaces s.registry name mode hmode).1
      simp [hrecorded.discovered, Folder.Piece.discovers, Folder.Piece.events, Folder.Event.discovers, hmode]
  | fold n interfaces event => exact (s.folder n).handle_discovered interfaces event

private theorem call_waiting (c : Call) (n : Nat) : (s.call c).1.waiting n = s.waiting n ∨
    ∃ interfaces event, c = .fold n interfaces event ∧
      (s.call c).1.waiting n = (s.folder n).waitingAfter event := by
  cases c with
  | fold m interfaces event =>
    by_cases hn : n = m
    · subst hn
      refine .inr ⟨interfaces, event, rfl, ?_⟩
      rw [← (s.folder n).handle_waiting interfaces event]
      simp [call]
    · left
      simp [call, hn]
  | add start stop => exact .inl rfl
  | addCidr cidr => exact .inl rfl
  | clear => exact .inl rfl
  | discover interfaces name => exact .inl rfl

private theorem call_adds {c : Call} (h : c.adds = true) :
    (s.call c).2 = .answer (.ok (s.call c).1.registry.size) ∨ ∃ e, (s.call c).2 = .answer (.error e) := by
  have hconclude (o : Outcome) :
      (s.conclude o).2 = .answer (.ok (s.conclude o).1.registry.size) ∨
        ∃ e, (s.conclude o).2 = .answer (.error e) := by
    obtain ⟨registry, failure⟩ := o
    cases failure with
    | none => exact .inl rfl
    | some e => exact .inr ⟨e, rfl⟩
  cases c with
  | add start stop => exact hconclude _
  | addCidr cidr => exact hconclude _
  | discover interfaces name => exact hconclude _
  | clear => cases h
  | fold n interfaces event => cases h

private theorem call_addCidr_malformed {cidr : String} {e : Address.Error} (h : Network.cidrRange cidr = .error e) :
    s.call (.addCidr cidr) = (s, .answer (.error e)) := by
  simp [call, conclude, Registry.addCidr_value, cidrRanges, h, Registry.Outcome.answer]

private theorem call_discover_unknown {name : String} (h : DiscoveryMode.ofName? name = none)
    (interfaces : List Interface) :
    s.call (.discover interfaces name) = (s, .answer (.error (.unknownMode name))) := by
  simp [call, conclude, Registry.discover, h, Registry.Outcome.answer]

private theorem call_discover_again {name : String} {mode : DiscoveryMode}
    (hmode : DiscoveryMode.ofName? name = some mode) (hagain : s.registry.discovered.isSome = true)
    (interfaces : List Interface) :
    s.call (.discover interfaces name) = (s, .answer (.ok s.registry.size)) := by
  simp [call, conclude, Registry.discover, hmode, Registry.discoverMode, hagain, Registry.Outcome.answer]

private theorem call_fold_again {name : String} {mode : DiscoveryMode}
    (hmode : DiscoveryMode.ofName? name = some mode) (hagain : s.registry.discovered.isSome = true)
    (n : Nat) (interfaces : List Interface) :
    s.call (.fold n interfaces (.argument (.network (.text name)))) = s.call (.fold n interfaces .flush) := by
  have hfolder : (s.folder n).registry.discovered.isSome = true := hagain
  simp only [call, (s.folder n).handle_network_again interfaces hmode hfolder]

/-! ### What several calls do -/

variable {s}

private theorem after_ranges {before : List EndPair} (h : s.registry.ranges = before.filterMap named?)
    (calls : List Call) :
    (s.after calls).registry.ranges = (s.handed before calls).filterMap named? := by
  -- The pairs so far are carried along, because a call may clear them away.
  induction calls generalizing s before with
  | nil => exact h
  | cons c calls ih =>
    apply ih
    rw [call_ranges, List.filterMap_append, h]
    cases c.clears <;> rfl

private theorem after_discovered (s : Shared) (calls : List Call) :
    (s.after calls).registry.discovered.isSome =
      (s.registry.discovered.isSome || calls.any Call.discovers) := by
  induction calls generalizing s with
  | nil => simp [after]
  | cons c calls ih =>
    have hcalls := ih (s.call c).1
    rw [call_discovered, Bool.or_assoc] at hcalls
    exact hcalls

theorem after_concat (s : Shared) (calls : List Call) (c : Call) :
    s.after (calls ++ [c]) = ((s.after calls).call c).1 := by
  simp [after]

theorem WasGiven.concat {calls : List Call} {n : Nat} {pair : EndPair} (h : WasGiven calls n pair)
    (c : Call) : WasGiven (calls ++ [c]) n pair := by
  obtain ⟨start, stop⟩ := pair
  cases start with
  | none =>
    cases stop with
    | none => exact h
    | some b =>
      obtain ⟨interfaces, hmem⟩ := h
      exact ⟨interfaces, List.mem_append_left _ hmem⟩
  | some a =>
    cases stop with
    | none =>
      obtain ⟨interfaces, hmem⟩ := h
      exact ⟨interfaces, List.mem_append_left _ hmem⟩
    | some b => cases h

private theorem wasGiven_waitingAfter (calls : List Call) (n : Nat) (interfaces : List Interface)
    (event : Folder.Event) (f : Folder) :
    WasGiven (calls ++ [.fold n interfaces event]) n (f.waitingAfter event) := by
  have hlast : Call.fold n interfaces event ∈ calls ++ [.fold n interfaces event] := by simp
  cases event with
  | flush => trivial
  | argument argument =>
    cases argument with
    | first a =>
      simp only [Folder.waitingAfter]
      split
      · trivial
      · exact ⟨interfaces, hlast⟩
    | last b =>
      simp only [Folder.waitingAfter]
      split
      · trivial
      · exact ⟨interfaces, hlast⟩
    | network name => trivial

private theorem after_waiting (calls : List Call) (n : Nat) :
    WasGiven calls n ((({} : Shared).after calls).waiting n) := by
  induction calls using List.reverseRecOn with
  | nil => trivial
  | append_singleton calls c ih =>
    rw [after_concat]
    rcases (({} : Shared).after calls).call_waiting c n with hkept | ⟨interfaces, event, rfl, hevent⟩
    · rw [hkept]
      exact ih.concat c
    · rw [hevent]
      exact wasGiven_waitingAfter calls n interfaces event _

/-- Whatever has been done to a new registry, it holds the ranges named by the pairs that were handed over
since it was cleared last, in their order: a range has the ends that were given, and two equal ones if one was
missing.  What waits in a folder was given to it, and is one end at most.  A call that adds ranges answers
their number or fails.  No call but clearing takes a range away.  Adding no ends, a malformed network or an
unknown mode changes nothing.  The local networks are looked up at the first request for them and never
again. -/
theorem after_calls (calls : List Call) :
    let s := ({} : Registry.Shared).after calls
    let pairs := ({} : Registry.Shared).handed [] calls
    s.registry.ranges = pairs.filterMap named? ∧
    (∀ range ∈ s.registry.ranges, ∃ pair ∈ pairs, (pair.1.isSome = true ∨ pair.2.isSome = true) ∧
      (∀ a, pair.1 = some a → range.start = a) ∧ (∀ b, pair.2 = some b → range.stop = b) ∧
      (pair.1 = none ∨ pair.2 = none → range.start = range.stop)) ∧
    (∀ n, WasGiven calls n (s.waiting n)) ∧ s.registry.size = s.registry.ranges.length ∧
    (s.registry.isNonempty = true ↔ 0 < s.registry.size) ∧
    (∀ c : Call, c.adds = true → (s.call c).2 = .answer (.ok (s.call c).1.registry.size) ∨
      ∃ e, (s.call c).2 = .answer (.error e)) ∧
    (∀ c : Call, c.clears = false →
      (s.call c).1.registry.ranges = s.registry.ranges ++ (s.hands c).filterMap named?) ∧
    s.call (.add none none) = (s, .answer (.ok s.registry.size)) ∧
    (∀ cidr e, Network.cidrRange cidr = .error e → s.call (.addCidr cidr) = (s, .answer (.error e))) ∧
    (∀ interfaces name, DiscoveryMode.ofName? name = none →
      s.call (.discover interfaces name) = (s, .answer (.error (.unknownMode name)))) ∧
    s.registry.discovered.isSome = calls.any Call.discovers ∧
    (calls.any Call.discovers = true → ∀ interfaces name mode, DiscoveryMode.ofName? name = some mode →
      s.call (.discover interfaces name) = (s, .answer (.ok s.registry.size)) ∧
      ∀ n, s.call (.fold n interfaces (.argument (.network (.text name)))) =
        s.call (.fold n interfaces .flush)) := by
  intro s pairs
  have hranges : s.registry.ranges = pairs.filterMap named? := after_ranges rfl calls
  have hdiscovered : s.registry.discovered.isSome = calls.any Call.discovers := after_discovered {} calls
  refine ⟨hranges, ?_, after_waiting calls, rfl, ?_, fun c => s.call_adds, ?_, rfl,
    fun cidr e => s.call_addCidr_malformed, ?_, hdiscovered, ?_⟩
  · intro range hrange
    rw [hranges] at hrange
    obtain ⟨pair, hpair, hnamed⟩ := List.mem_filterMap.mp hrange
    exact ⟨pair, hpair, AddressRange.named?_eq_some hnamed⟩
  · simp [Registry.isNonempty, Registry.size, List.length_pos_iff]
  · intro c hc
    rw [call_ranges, hc]
    rfl
  · intro interfaces name hname
    exact s.call_discover_unknown hname interfaces
  · intro hagain interfaces name mode hmode
    rw [← hdiscovered] at hagain
    exact ⟨s.call_discover_again hmode hagain interfaces,
      fun n => s.call_fold_again hmode hagain n interfaces⟩

/-- A look-up that found nothing is the only one, also after the registry has been cleared. -/
theorem after_calls_nothingFound :
    let calls : List Call := [.discover [] "auto", .add (some (.text "10.0.0.9")) none, .clear,
      .add none none, .add none (some (.text "10.0.0.1"))]
    let s := ({} : Registry.Shared).after calls
    s.registry.ranges = [⟨.text "10.0.0.1", .text "10.0.0.1"⟩] ∧
      ∀ interfaces, s.call (.discover interfaces "auto4") = (s, .answer (.ok 1)) := by
  intro calls s
  obtain ⟨hranges, _, _, _, _, _, _, _, _, _, _, hagain⟩ := after_calls calls
  refine ⟨hranges, ?_⟩
  intro interfaces
  exact (hagain rfl interfaces "auto4" .inetOnly rfl).1

end Registry.Shared

end PowerDiscovery
