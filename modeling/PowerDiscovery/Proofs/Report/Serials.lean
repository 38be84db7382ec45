import Mathlib.Data.List.Nodup
import Mathlib.Data.Option.Basic
import PowerDiscovery.Proofs.Address.Digits
import PowerDiscovery.Proofs.FirstOccurrence
import PowerDiscovery.Proofs.Report.Fields
import PowerDiscovery.Report.Renderer

/-! # Which devices the check of serial numbers names

The check names the devices of a list that their serial numbers do not tell apart, under the names of their
sections.  What it writes is told here from the list as a whole; the groups that it forms are a way to find
it in one pass. -/

namespace PowerDiscovery.Report

open Text

/-! ## Serial numbers -/

/-- The serial number that a device reports, if it is a text. -/
def serial? (d : Device) : Option String :=
  match Value.lookup? d.options "serial" with
  | some (.text serial) => some serial
  | _ => none

/-- Whether a device reports a serial number that is a text, or none. -/
def HasTextualSerial (d : Device) : Prop :=
  ∀ v, Value.lookup? d.options "serial" = some v → ∃ serial, v = .text serial

/-- The serial numbers of a list, in the order of their devices. -/
def serials (named : List (String × Device)) : List String := named.filterMap fun nd => serial? nd.2

/-- A serial number of zeros only, or of nothing at all, perhaps with white space around it. -/
def IdentifiesNothing (serial : String) : Prop :=
  ∃ before zeros after, serial.toList = before ++ zeros ++ after ∧ (∀ c ∈ before, isBlank c = true) ∧
    (∀ c ∈ zeros, c = '0') ∧ ∀ c ∈ after, isBlank c = true

private theorem isBlankSerial_iff {serial : String} : isBlankSerial serial = true ↔ IdentifiesNothing serial := by
  rw [isBlankSerial, List.all_eq_true]
  constructor
  · intro h
    obtain ⟨before, after, hchars, hbefore, hafter⟩ := exists_trimWhile isBlank serial.toList
    exact ⟨before, _, after, hchars, hbefore, fun c hc => beq_iff_eq.1 (h c hc), hafter⟩
  · rintro ⟨before, zeros, after, hchars, hbefore, hzeros, hafter⟩
    have hsolid : ∀ c ∈ zeros, isBlank c = false := by
      intro c hc
      rw [hzeros c hc]
      decide
    rw [hchars, trimWhile_append hbefore hsolid hafter]
    exact fun c hc => beq_iff_eq.2 (hzeros c hc)

/-- What a warning that names a device is about: the serial number of the device, or no number in particular
if its number identifies nothing. -/
def concern? (d : Device) : Option (Option String) :=
  (serial? d).map fun serial => if isBlankSerial serial then none else some serial

variable {d : Device} {serial : String} {concern : Option String}

private theorem concern?_eq_blank_iff :
    concern? d = some none ↔ ∃ serial, serial? d = some serial ∧ IdentifiesNothing serial := by
  simp [concern?, Option.map_eq_some_iff, isBlankSerial_iff]

private theorem concern?_eq_serial_iff :
    concern? d = some (some serial) ↔ serial? d = some serial ∧ ¬ IdentifiesNothing serial := by
  rw [concern?, Option.map_eq_some_iff]
  constructor
  · rintro ⟨s, hs, hif⟩
    by_cases hblank : isBlankSerial s = true
    · rw [if_pos hblank] at hif
      cases hif
    · rw [if_neg hblank] at hif
      cases hif
      exact ⟨hs, mt isBlankSerial_iff.2 hblank⟩
  · rintro ⟨hs, hblank⟩
    exact ⟨serial, hs, if_neg (mt isBlankSerial_iff.1 hblank)⟩

/-! ## The groups of a list -/

/-- The names of the devices that a warning about something names, in the order of the list. -/
def namesOf (named : List (String × Device)) (concern : Option String) : List String :=
  (named.filter fun nd => concern? nd.2 == some concern).map Prod.fst

/-- The serial numbers of a list that identify something, in the order of their devices. -/
def marks (named : List (String × Device)) : List String := named.filterMap fun nd => (concern? nd.2).join

def groupsOf (named : List (String × Device)) : SerialGroups where
  blank := namesOf named none
  bySerial := (marks named).eraseDups.map fun serial => (serial, namesOf named (some serial))

variable {named : List (String × Device)} {name : String}

private theorem namesOf_concat (nd : String × Device) (concern : Option String) :
    namesOf (named ++ [nd]) concern =
      namesOf named concern ++ if concern? nd.2 = some concern then [nd.1] else [] := by
  rw [namesOf, List.filter_append, List.map_append]
  by_cases h : concern? nd.2 = some concern
  · simp [namesOf, h]
  · simp [namesOf, h]

private theorem marks_concat (nd : String × Device) :
    marks (named ++ [nd]) = marks named ++ (concern? nd.2).join.toList := by
  rw [marks, List.filterMap_append]
  cases hconcern : (concern? nd.2).join <;> simp [marks, hconcern]

private theorem length_namesOf : (namesOf named (some serial)).length = (marks named).count serial := by
  rw [namesOf, List.length_map, marks, List.count_filterMap, ← List.countP_eq_length_filter]
  congr 1
  funext nd
  rw [Bool.eq_iff_iff, beq_iff_eq, beq_iff_eq, Option.join_eq_some_iff]

private theorem marks_eq_filter : marks named = (serials named).filter fun serial => !isBlankSerial serial := by
  rw [marks, serials, List.filter_filterMap]
  congr 1
  funext nd
  rw [concern?]
  cases serial? nd.2 with
  | none => rfl
  | some serial => cases hblank : isBlankSerial serial <;> simp [Option.filter, hblank]

namespace SerialGroups

private theorem put_of_not_mem {serials : List String} (h : serial ∉ serials) (names : String → List String) :
    put (serials.map fun s => (s, names s)) serial name =
      serials.map (fun s => (s, names s)) ++ [(serial, [name])] := by
  induction serials with
  | nil => rfl
  | cons s serials ih =>
    rw [List.mem_cons, not_or] at h
    rw [List.map_cons, put, if_neg (Ne.symm h.1), ih h.2, List.cons_append]

private theorem map_append_of_not_mem {serials : List String} (h : serial ∉ serials)
    (names : String → List String) :
    serials.map (fun s => (s, names s ++ if serial = s then [name] else [])) =
      serials.map fun s => (s, names s) := by
  apply List.map_congr_left
  intro s hs
  have hne : serial ≠ s := fun heq => h (heq ▸ hs)
  rw [if_neg hne, List.append_nil]

private theorem put_of_mem {serials : List String} (hnodup : serials.Nodup) (h : serial ∈ serials)
    (names : String → List String) :
    put (serials.map fun s => (s, names s)) serial name =
      serials.map fun s => (s, names s ++ if serial = s then [name] else []) := by
  induction serials with
  | nil => cases h
  | cons s serials ih =>
    obtain ⟨hnew, hrest⟩ := List.nodup_cons.1 hnodup
    rw [List.map_cons, List.map_cons, put]
    by_cases hs : s = serial
    · subst hs
      rw [if_pos rfl, if_pos rfl, map_append_of_not_mem hnew]
    · have hmem : serial ∈ serials := (List.mem_cons.1 h).resolve_left (Ne.symm hs)
      rw [if_neg hs, if_neg (Ne.symm hs), List.append_nil, ih hrest hmem]

private theorem put_groupsOf {nd : String × Device} (hconcern : concern? nd.2 = some (some serial)) :
    put (groupsOf named).bySerial serial nd.1 = (groupsOf (named ++ [nd])).bySerial := by
  have hmarks : marks (named ++ [nd]) = marks named ++ [serial] := by
    rw [marks_concat, hconcern]
    rfl
  simp only [groupsOf, hmarks, namesOf_concat, hconcern, Option.some.injEq]
  by_cases hmem : serial ∈ marks named
  · rw [eraseDups_concat_of_mem hmem]
    exact put_of_mem (nodup_eraseDups _) (List.mem_eraseDups.2 hmem) _
  · have hnew : serial ∉ (marks named).eraseDups := mt List.mem_eraseDups.1 hmem
    have hnone : namesOf named (some serial) = [] := by
      rw [← List.length_eq_zero_iff, length_namesOf]
      exact List.count_eq_zero.2 hmem
    rw [eraseDups_concat_of_not_mem hmem, put_of_not_mem hnew, List.map_append, map_append_of_not_mem hnew,
      List.map_singleton, hnone, if_pos rfl, List.nil_append]

/-- A device that is added to the groups of the list before it gives the groups of the list with it. -/
private theorem add_groupsOf {nd : String × Device} (h : HasTextualSerial nd.2) :
    (groupsOf named).add nd.1 nd.2 = .ok (groupsOf (named ++ [nd])) := by
  cases hserial : Value.lookup? nd.2.options "serial" with
  | none =>
    have hconcern : concern? nd.2 = none := by simp [concern?, serial?, hserial]
    simp [add, hserial, groupsOf, namesOf_concat, marks_concat, hconcern]
  | some v =>
    obtain ⟨serial, rfl⟩ := h v hserial
    by_cases hblank : isBlankSerial serial = true
    · have hconcern : concern? nd.2 = some none := by simp [concern?, serial?, hserial, hblank]
      simp [add, hserial, hblank, groupsOf, namesOf_concat, marks_concat, hconcern]
    · have hconcern : concern? nd.2 = some (some serial) := by simp [concern?, serial?, hserial, hblank]
      have hnames : (groupsOf (named ++ [nd])).blank = (groupsOf named).blank := by
        simp [groupsOf, namesOf_concat, hconcern]
      simp only [add, hserial, hblank, put_groupsOf hconcern, ← hnames]
      rfl

private theorem addAll_groupsOf {rest : List (String × Device)} (h : ∀ nd ∈ rest, HasTextualSerial nd.2) :
    (groupsOf named).addAll rest = .ok (groupsOf (named ++ rest)) := by
  induction rest generalizing named with
  | nil => rw [List.append_nil, addAll]
  | cons nd rest ih =>
    have hothers : (groupsOf (named ++ [nd])).addAll rest = .ok (groupsOf (named ++ [nd] ++ rest)) :=
      ih fun nd' hnd' => h nd' (List.mem_cons_of_mem _ hnd')
    rw [List.append_assoc, List.singleton_append] at hothers
    rw [addAll, add_groupsOf (h nd List.mem_cons_self), ← hothers]
    rfl

end SerialGroups

/-! ## The warnings of a list -/

/-- A warning of the check: the serial number that the named devices share, if it identifies something. -/
structure Warning where
  serial : Option String
  names : List String
deriving DecidableEq, Repr

def Warning.text : Warning → String
  | ⟨some serial, names⟩ =>
    s!"# WARNING: devices {SerialGroups.listed names} report the same serial number {quoted serial}"
  | ⟨none, names⟩ =>
    s!"# WARNING: devices {SerialGroups.listed names} report blank or all-zero serial numbers"

/-- The serial numbers that several devices of a list share and that identify something. -/
def shared (named : List (String × Device)) : List String :=
  (marks named).eraseDups.filter fun serial => 1 < (marks named).count serial

def concerns (named : List (String × Device)) : List (Option String) :=
  (shared named).map some ++ if (namesOf named none).isEmpty then [] else [none]

/-- The warnings of a list: about shared serial numbers, and then about those that identify nothing. -/
def warnings (named : List (String × Device)) : List Warning :=
  (concerns named).map fun concern => ⟨concern, namesOf named concern⟩

/-- The comment block of some warnings: a line for each, a line of advice, and an empty line. -/
def block (warnings : List Warning) : String :=
  if warnings.isEmpty then ""
  else String.intercalate "\n" (warnings.map Warning.text ++ ["# Devices without a unique serial number may " ++
    "need other matching options (bus, busport, device) to be told apart."]) ++ "\n\n"

private theorem block_eq_empty_iff {warnings : List Warning} : block warnings = "" ↔ warnings = [] := by
  cases warnings with
  | nil => simp [block]
  | cons w warnings => simp [block]

private theorem shared_groupsOf (named : List (String × Device)) :
    (groupsOf named).shared = (shared named).map fun serial => (serial, namesOf named (some serial)) := by
  rw [SerialGroups.shared, groupsOf, List.filter_map, shared]
  congr 1
  apply List.filter_congr
  intro serial _
  rw [Function.comp_apply, length_namesOf]

private theorem comments_groupsOf (named : List (String × Device)) :
    (groupsOf named).comments = block (warnings named) := by
  have htexts : (warnings named).map Warning.text =
      (shared named).map (fun serial => Warning.text ⟨some serial, namesOf named (some serial)⟩) ++
        if (namesOf named none).isEmpty then [] else [Warning.text ⟨none, namesOf named none⟩] := by
    rw [warnings, concerns, List.map_append, List.map_append, List.map_map, List.map_map]
    congr 1
    split <;> rfl
  have hempty : (warnings named).isEmpty = ((warnings named).map Warning.text).isEmpty := by
    rw [List.isEmpty_map]
  rw [block, hempty, htexts, SerialGroups.comments, shared_groupsOf, List.map_map]
  rfl

private theorem serialComments_eq (h : ∀ nd ∈ named, HasTextualSerial nd.2) :
    serialComments named = .ok (block (warnings named)) := by
  have hempty : groupsOf [] = {} := rfl
  have hgroups : (groupsOf []).addAll named = .ok (groupsOf ([] ++ named)) := SerialGroups.addAll_groupsOf h
  rw [serialComments, ← hempty, hgroups, List.nil_append, ← comments_groupsOf]
  rfl

/-! ## What the warnings name -/

/-- A name stands once in all the warnings: in one about this serial number, or in one without a number. -/
def NamedOnce (warnings : List Warning) (serial : Option String) (name : String) : Prop :=
  (warnings.flatMap Warning.names).count name = 1 ∧ ∃ w ∈ warnings, w.serial = serial ∧ name ∈ w.names

/-- The warnings name just the devices of a list that their serial numbers do not tell apart. -/
structure Tells (named : List (String × Device)) (warnings : List Warning) : Prop where
  block_iff : block warnings ≠ "" ↔ (∃ serial ∈ serials named, IdentifiesNothing serial) ∨
    ∃ serial, ¬ IdentifiesNothing serial ∧ 1 < (serials named).count serial
  blank : ∀ nd ∈ named, ∀ serial, serial? nd.2 = some serial → IdentifiesNothing serial →
    NamedOnce warnings none nd.1
  shared : ∀ nd ∈ named, ∀ serial, serial? nd.2 = some serial → ¬ IdentifiesNothing serial →
    1 < (serials named).count serial → NamedOnce warnings (some serial) nd.1
  others : ∀ nd ∈ named, (∀ serial, serial? nd.2 = some serial →
    ¬ IdentifiesNothing serial ∧ (serials named).count serial = 1) → ∀ w ∈ warnings, nd.1 ∉ w.names
  names_sublist : ∀ w ∈ warnings, w.names.Sublist (named.map Prod.fst)
  serials_nodup : (warnings.map Warning.serial).Nodup
  serials_order : (warnings.filterMap Warning.serial).Pairwise fun serial serial' =>
    (serials named).idxOf serial < (serials named).idxOf serial'

private theorem mem_shared :
    serial ∈ shared named ↔ ¬ IdentifiesNothing serial ∧ 1 < (serials named).count serial := by
  rw [shared, List.mem_filter, List.mem_eraseDups, decide_eq_true_eq, marks_eq_filter]
  by_cases hblank : isBlankSerial serial = true
  · simp [hblank, isBlankSerial_iff.1 hblank]
  · have hsolid : (!isBlankSerial serial) = true := by simpa using hblank
    have hsame : ((serials named).filter fun s => !isBlankSerial s).count serial =
        (serials named).count serial := List.count_filter hsolid
    rw [hsame, List.mem_filter]
    constructor
    · rintro ⟨-, hcount⟩
      exact ⟨mt isBlankSerial_iff.2 hblank, hcount⟩
    · rintro ⟨-, hcount⟩
      have hmem : serial ∈ serials named := List.count_pos_iff.1 (Nat.lt_of_succ_lt hcount)
      exact ⟨⟨hmem, hsolid⟩, hcount⟩

private theorem none_mem_concerns : none ∈ concerns named ↔ ∃ serial ∈ serials named, IdentifiesNothing serial := by
  have hmem : none ∈ concerns named ↔ ∃ nd ∈ named, concern? nd.2 = some none := by
    rw [concerns, List.mem_append]
    split
    · rename_i hempty
      simpa [namesOf] using hempty
    · rename_i hempty
      simpa [namesOf] using hempty
  rw [hmem]
  constructor
  · rintro ⟨nd, hnd, hconcern⟩
    obtain ⟨serial, hserial, hnothing⟩ := concern?_eq_blank_iff.1 hconcern
    exact ⟨serial, List.mem_filterMap.2 ⟨nd, hnd, hserial⟩, hnothing⟩
  · rintro ⟨serial, hserial, hnothing⟩
    obtain ⟨nd, hnd, hnumber⟩ := List.mem_filterMap.1 hserial
    exact ⟨nd, hnd, concern?_eq_blank_iff.2 ⟨serial, hnumber, hnothing⟩⟩

private theorem some_mem_concerns : some serial ∈ concerns named ↔ serial ∈ shared named := by
  rw [concerns, List.mem_append]
  split <;> simp

private theorem map_serial_warnings (named : List (String × Device)) :
    (warnings named).map Warning.serial = concerns named := by
  simp [warnings, Function.comp_def]

private theorem nodup_concerns (named : List (String × Device)) : (concerns named).Nodup := by
  have hshared : ((shared named).map some).Nodup :=
    ((nodup_eraseDups _).filter _).map (Option.some_injective _)
  rw [concerns, List.nodup_append]
  split <;> simp [hshared]

theorem mem_namesOf (hnames : (named.map Prod.fst).Nodup) {nd : String × Device} (hnd : nd ∈ named) :
    nd.1 ∈ namesOf named concern ↔ concern? nd.2 = some concern := by
  rw [namesOf, List.mem_map]
  constructor
  · rintro ⟨nd', hnd', hname⟩
    obtain ⟨hmem, hconcern⟩ := List.mem_filter.1 hnd'
    rw [List.inj_on_of_nodup_map hnames hmem hnd hname] at hconcern
    exact beq_iff_eq.1 hconcern
  · intro h
    exact ⟨nd, List.mem_filter.2 ⟨hnd, beq_iff_eq.2 h⟩, rfl⟩

private theorem sublist_namesOf (named : List (String × Device)) (concern : Option String) :
    (namesOf named concern).Sublist (named.map Prod.fst) := List.filter_sublist.map _

private theorem nodup_names_warnings (hnames : (named.map Prod.fst).Nodup) :
    ((warnings named).flatMap Warning.names).Nodup := by
  rw [warnings, List.flatMap_map, List.nodup_flatMap]
  constructor
  · intro concern _
    exact (sublist_namesOf named concern).nodup hnames
  · apply (nodup_concerns named).imp
    intro concern concern' hne name hname hname'
    obtain ⟨nd, hnd, rfl⟩ := List.mem_map.1 ((sublist_namesOf named concern).subset hname)
    have hconcern := (mem_namesOf hnames hnd).1 hname
    rw [(mem_namesOf hnames hnd).1 hname'] at hconcern
    exact hne (Option.some.inj hconcern).symm

private theorem namedOnce_warnings (hnames : (named.map Prod.fst).Nodup) {nd : String × Device} (hnd : nd ∈ named)
    (hconcern : concern? nd.2 = some concern) (hmem : concern ∈ concerns named) :
    NamedOnce (warnings named) concern nd.1 := by
  have hw : (⟨concern, namesOf named concern⟩ : Warning) ∈ warnings named := List.mem_map.2 ⟨_, hmem, rfl⟩
  have hname : nd.1 ∈ namesOf named concern := (mem_namesOf hnames hnd).2 hconcern
  constructor
  · exact List.count_eq_one_of_mem (nodup_names_warnings hnames) (List.mem_flatMap.2 ⟨_, hw, hname⟩)
  · exact ⟨_, hw, rfl, hname⟩

private theorem not_mem_names_warnings (hnames : (named.map Prod.fst).Nodup) {nd : String × Device}
    (hnd : nd ∈ named)
    (h : ∀ concern, concern? nd.2 = some concern → concern ∉ concerns named) :
    ∀ w ∈ warnings named, nd.1 ∉ w.names := by
  intro w hw hname
  obtain ⟨concern, hconcern, rfl⟩ := List.mem_map.1 hw
  exact h concern ((mem_namesOf hnames hnd).1 hname) hconcern

private theorem tells_warnings (hnames : (named.map Prod.fst).Nodup) : Tells named (warnings named) where
  block_iff := by
    have hconcerns : block (warnings named) ≠ "" ↔ ∃ concern, concern ∈ concerns named := by
      rw [Ne, block_eq_empty_iff, warnings, List.map_eq_nil_iff, List.eq_nil_iff_forall_not_mem, not_forall_not]
    rw [hconcerns, Option.exists, none_mem_concerns]
    simp only [some_mem_concerns, mem_shared]
  blank := by
    intro nd hnd serial hserial hnothing
    apply namedOnce_warnings hnames hnd
    · exact concern?_eq_blank_iff.2 ⟨serial, hserial, hnothing⟩
    · exact none_mem_concerns.2 ⟨serial, List.mem_filterMap.2 ⟨nd, hnd, hserial⟩, hnothing⟩
  shared := by
    intro nd hnd serial hserial hnothing hcount
    apply namedOnce_warnings hnames hnd
    · exact concern?_eq_serial_iff.2 ⟨hserial, hnothing⟩
    · exact some_mem_concerns.2 (mem_shared.2 ⟨hnothing, hcount⟩)
  others := by
    intro nd hnd h
    apply not_mem_names_warnings hnames hnd
    intro concern hconcern hmem
    cases concern with
    | none =>
      obtain ⟨serial, hserial, hnothing⟩ := concern?_eq_blank_iff.1 hconcern
      exact (h serial hserial).1 hnothing
    | some serial =>
      obtain ⟨hserial, -⟩ := concern?_eq_serial_iff.1 hconcern
      have hcount := (mem_shared.1 (some_mem_concerns.1 hmem)).2
      rw [(h serial hserial).2] at hcount
      exact Nat.lt_irrefl 1 hcount
  names_sublist := by
    intro w hw
    obtain ⟨concern, -, rfl⟩ := List.mem_map.1 hw
    exact sublist_namesOf named concern
  serials_nodup := by
    rw [map_serial_warnings]
    exact nodup_concerns named
  serials_order := by
    have hserials : (warnings named).filterMap Warning.serial = shared named := by
      have hsome : (warnings named).filterMap Warning.serial = (concerns named).filterMap id := by
        rw [← map_serial_warnings, List.filterMap_map, Function.id_comp]
      rw [hsome, concerns, List.filterMap_append]
      split <;> simp
    rw [hserials, shared, marks_eq_filter]
    exact (pairwise_idxOf_eraseDups _ _).filter _

/-! ## Renderings -/

/-- Lists of devices with the names of their sections; the numbers go on from list to list. -/
def namedLists (count : Nat) : List (List Device) → List (List (String × Device))
  | [] => []
  | devices :: lists => numbered (count + 1) devices :: namedLists (count + devices.length) lists

private theorem sectionName_injective : Function.Injective sectionName := by
  intro n n' h
  have hchars := congrArg String.toList h
  rw [toList_sectionName, toList_sectionName] at hchars
  exact toDigits_inj.mp (List.append_cancel_left hchars)

private theorem nodup_names_numbered (first : Nat) (devices : List Device) :
    ((numbered first devices).map Prod.fst).Nodup := by
  have hnames : (numbered first devices).map Prod.fst =
      (List.range' first devices.length).map sectionName := by
    rw [numbered_eq_zipIdx, List.map_map, ← List.zipIdx_map_snd, List.map_map]
    rfl
  rw [hnames]
  exact List.Nodup.map sectionName_injective List.nodup_range'

private theorem names_nodup_of_mem_namedLists {count : Nat} {lists : List (List Device)}
    (h : named ∈ namedLists count lists) : (named.map Prod.fst).Nodup := by
  induction lists generalizing count with
  | nil => cases h
  | cons devices lists ih =>
    rcases List.mem_cons.1 h with rfl | hmem
    · exact nodup_names_numbered _ _
    · exact ih hmem

private theorem snd_mem_of_mem_numbered {first : Nat} {devices : List Device} {nd : String × Device}
    (h : nd ∈ numbered first devices) : nd.2 ∈ devices := by
  rw [numbered_eq_zipIdx, List.mem_map] at h
  obtain ⟨p, hp, rfl⟩ := h
  exact List.fst_mem_of_mem_zipIdx hp

end PowerDiscovery.Report

namespace PowerDiscovery.Renderer

open Report

variable {lists : List (List Device)} {devices : List Device}

private theorem text_sectionsChecked (h : ∀ d ∈ devices, HasTextualSerial d) (count : Nat) :
    (mk .sectionsChecked count).text devices =
      ((mk .sections count).text devices).map (· ++ block (warnings (numbered (count + 1) devices))) := by
  have hcomments : serialComments (numbered (count + 1) devices) =
      .ok (block (warnings (numbered (count + 1) devices))) :=
    serialComments_eq fun nd hnd => h nd.2 (snd_mem_of_mem_numbered hnd)
  simp only [text, hcomments]
  split <;> rfl

private theorem texts_sectionsChecked (h : ∀ d ∈ lists.flatten, HasTextualSerial d) (count : Nat) :
    (mk .sectionsChecked count).texts lists =
      ((mk .sections count).texts lists).map fun plain =>
        List.zipWith (fun text named => text ++ block (warnings named)) plain (namedLists count lists) := by
  induction lists generalizing count with
  | nil => rfl
  | cons devices lists ih =>
    obtain ⟨hdevices, hlists⟩ := List.forall_mem_append.1 h
    have hothers := ih hlists (count + devices.length)
    have hafter (mode : DisplayMode) : (mk mode count).after devices = mk mode (count + devices.length) := rfl
    rw [texts, texts, text_sectionsChecked hdevices, hafter, hafter, hothers]
    cases (mk .sections count).text devices with
    | error f => rfl
    | ok first => cases (mk .sections (count + devices.length)).texts lists <;> rfl

private theorem texts_sections_named (h : ∀ d ∈ lists.flatten, d.isWritable = true) (count : Nat) :
    (mk .sections count).texts lists = .ok ((namedLists count lists).map sectionsText) := by
  induction lists generalizing count with
  | nil => rfl
  | cons devices lists ih =>
    obtain ⟨hdevices, hlists⟩ := List.forall_mem_append.1 h
    exact texts_cons (text_of_sections hdevices) (ih hlists (count + devices.length))

/-- The checked rendering of some lists is the plain one, with the comment block of each list after it.  The
blocks name, under the names of their sections, just the devices that their serial numbers do not tell apart
within their list. -/
theorem texts_sectionsChecked_tells (lists : List (List Device)) (count : Nat)
    (h : ∀ d ∈ lists.flatten, HasTextualSerial d) :
    (mk .sectionsChecked count).texts lists =
        ((mk .sections count).texts lists).map (fun plain =>
          List.zipWith (fun text named => text ++ block (warnings named)) plain (namedLists count lists)) ∧
      ((∀ d ∈ lists.flatten, d.isWritable = true) →
        (mk .sections count).texts lists = .ok ((namedLists count lists).map sectionsText)) ∧
      ∀ named ∈ namedLists count lists, Tells named (warnings named) := by
  refine ⟨texts_sectionsChecked h count, fun hwritable => texts_sections_named hwritable count, ?_⟩
  intro named hnamed
  exact tells_warnings (names_nodup_of_mem_namedLists hnamed)

theorem texts_sectionsChecked_tells_two_lists :
    let plain : Device := ⟨.usb, "usbhid-ups", "auto", []⟩
    let ups (serial : String) : Device := { plain with options := [("serial", .text serial)] }
    let lists := [[ups "A", plain, ups "00", ups "A", ups "B"], [ups "A", ups " "]]
    (∀ d ∈ lists.flatten, HasTextualSerial d) ∧ (∀ d ∈ lists.flatten, d.isWritable = true) ∧
      (namedLists 0 lists).map warnings =
        [[⟨some "A", ["nutdev1", "nutdev4"]⟩, ⟨none, ["nutdev3"]⟩], [⟨none, ["nutdev7"]⟩]] ∧
      (mk .sectionsChecked 0).texts lists =
        .ok ((namedLists 0 lists).map fun named => sectionsText named ++ block (warnings named)) ∧
      ∀ named ∈ namedLists 0 lists, Tells named (warnings named) := by
  intro plain ups lists
  have hups (serial : String) : HasTextualSerial (ups serial) := by
    intro v hv
    exact ⟨serial, (Option.some.inj hv).symm⟩
  have hplain : HasTextualSerial plain := nofun
  have htextual : ∀ d ∈ lists.flatten, HasTextualSerial d := by simp [lists, hups, hplain]
  have hwritable : ∀ d ∈ lists.flatten, d.isWritable = true := by decide
  obtain ⟨hchecked, hsections, htells⟩ := texts_sectionsChecked_tells lists 0 htextual
  refine ⟨htextual, hwritable, by decide, ?_, htells⟩
  rw [hchecked, hsections hwritable]
  rfl

end PowerDiscovery.Renderer
