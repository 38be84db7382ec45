import Mathlib.Data.List.TakeWhile
import PowerDiscovery.Proofs.Discovery.Targets
import PowerDiscovery.Proofs.Steps

/-! # What the list of a server tells

A server answers with lines.  A line tells of a unit in one way only, if it does at all: its name is the word
after `UPS`, and its description is all that stands between the first quote after that and the last one.  The
list is over at the first line that says so or refuses it, and lost if a line before that, or this one, is too
long. -/

namespace PowerDiscovery.Upsd

open Text

/-! ### Lines -/

/-- Whether a text stands for the white space between two words. -/
def IsGap (s : String) : Prop := s ≠ "" ∧ ∀ c ∈ s.toList, isBlank c = true

def IsWord (s : String) : Prop := s ≠ "" ∧ ∀ c ∈ s.toList, isBlank c = false

def TellsOf (line : String) (u : ListedUnit) : Prop :=
  ∃ gap gap', IsGap gap ∧ IsGap gap' ∧ IsWord u.name ∧ '\n' ∉ u.description.toList ∧
    trim line = "UPS" ++ gap ++ u.name ++ gap' ++ "\"" ++ u.description ++ "\""

/-- Whether a line is the last one of a list: it refuses the list, or says that it is over. -/
def Ends (line : String) : Prop := "ERR".toList <+: line.toList ∨ "END LIST UPS".toList <+: line.toList

instance (line : String) : Decidable (Ends line) := inferInstanceAs (Decidable (_ ∨ _))

private theorem isLast_eq_true {line : String} : isLast line = true ↔ Ends line := by
  simp only [isLast, isRefusal, Bool.or_eq_true, String.startsWith_string_iff, Ends]

private theorem exists_cons_of_ne_empty {s : String} (h : s ≠ "") : ∃ c cs, s.toList = c :: cs :=
  List.exists_cons_of_ne_nil fun hnil => h (String.toList_eq_nil_iff.mp hnil)

theorem TellsOf.unit? {line : String} {u : ListedUnit} (h : TellsOf line u) : unit? line = some u := by
  obtain ⟨gap, gap', ⟨hgap, hblank⟩, ⟨hgap', hblank'⟩, ⟨hname, hword⟩, hdescription, htrim⟩ := h
  obtain ⟨g, gs, hg⟩ := exists_cons_of_ne_empty hgap
  obtain ⟨g', gs', hg'⟩ := exists_cons_of_ne_empty hgap'
  obtain ⟨n, ns, hn⟩ := exists_cons_of_ne_empty hname
  rw [hg] at hblank
  rw [hg'] at hblank'
  rw [hn] at hword
  obtain ⟨quoted, hquoted⟩ : ∃ quoted, quoted = u.description.toList ++ ['"'] := ⟨_, rfl⟩
  have hcs : trimWhile isBlank line.toList =
      'U' :: 'P' :: 'S' :: (g :: gs ++ n :: (ns ++ g' :: (gs' ++ '"' :: quoted))) := by
    have hchars := congrArg String.toList htrim
    simpa [trim, hg, hg', hn, hquoted] using hchars
  have hnot : ∀ c ∈ n :: ns, (!isBlank c) = true := by
    intro c hc
    rw [hword c hc]
    rfl
  have hstop : (!isBlank g') = false := by
    rw [hblank' g' List.mem_cons_self]
    rfl
  have hafterGap : (g :: gs ++ n :: (ns ++ g' :: (gs' ++ '"' :: quoted))).dropWhile isBlank =
      n :: ns ++ g' :: (gs' ++ '"' :: quoted) := dropWhile_run hblank (hword n List.mem_cons_self)
  have hread : (n :: ns ++ g' :: (gs' ++ '"' :: quoted)).takeWhile (!isBlank ·) = n :: ns :=
    takeWhile_run hnot hstop
  have hafterName : (n :: ns ++ g' :: (gs' ++ '"' :: quoted)).dropWhile (!isBlank ·) =
      g' :: (gs' ++ '"' :: quoted) := dropWhile_run hnot hstop
  have hafterGap' : (g' :: (gs' ++ '"' :: quoted)).dropWhile isBlank = '"' :: quoted := by
    rw [← List.cons_append]
    exact dropWhile_run hblank' (by decide)
  simp only [Upsd.unit?, hcs, hafterGap, hread, hafterName, hafterGap']
  simp [hblank g List.mem_cons_self, hblank' g' List.mem_cons_self, hquoted, hdescription, ← hn, hname]

private theorem isGap_takeWhile {cs : List Char} (h : cs.head?.any isBlank = true) :
    IsGap (String.ofList (cs.takeWhile isBlank)) := by
  cases cs with
  | nil => cases h
  | cons c cs =>
    have hc : isBlank c = true := h
    constructor
    · simp [hc]
    · intro x hx
      rw [String.toList_ofList] at hx
      exact List.mem_takeWhile_imp hx

private theorem tellsOf_of_unit? {line : String} {u : ListedUnit} (h : Upsd.unit? line = some u) :
    TellsOf line u := by
  simp only [Upsd.unit?] at h
  split at h
  · rename_i afterWord hcs
    split at h
    · rename_i quoted hquoted
      split at h
      · cases h
      · rename_i hfits
        simp only [Bool.or_eq_true, Bool.not_eq_true', bne_iff_ne, List.isEmpty_iff, not_or, Bool.not_eq_false,
          Decidable.not_not, List.contains_iff_mem] at hfits
        obtain ⟨⟨⟨⟨hgap, hname⟩, hgap'⟩, hlast⟩, hfeed⟩ := hfits
        cases h
        refine ⟨_, _, isGap_takeWhile hgap, isGap_takeWhile hgap', ⟨?_, ?_⟩, ?_, ?_⟩
        · simpa using hname
        · intro c hc
          rw [String.toList_ofList] at hc
          simpa using List.mem_takeWhile_imp hc
        · rwa [String.toList_ofList]
        · have hcut : afterWord = afterWord.takeWhile isBlank ++
              ((afterWord.dropWhile isBlank).takeWhile (!isBlank ·) ++
                (((afterWord.dropWhile isBlank).dropWhile (!isBlank ·)).takeWhile isBlank ++
                  '"' :: (quoted.dropLast ++ ['"']))) := by
            rw [List.dropLast_append_getLast? _ hlast, ← hquoted, List.takeWhile_append_dropWhile,
              List.takeWhile_append_dropWhile, List.takeWhile_append_dropWhile]
          apply String.toList_inj.mp
          simpa [trim, hcs] using hcut
    · cases h
  · cases h

private theorem unit?_eq_some_iff {line : String} {u : ListedUnit} : Upsd.unit? line = some u ↔ TellsOf line u :=
  ⟨tellsOf_of_unit?, TellsOf.unit?⟩

/-! ### Lists -/

/-- The units that lines list: one for each line that tells of a unit, up to the line that ends the list. -/
inductive Lists : List String → List ListedUnit → Prop where
  | nothing : Lists [] []
  | ended {line : String} (h : Ends line) (lines : List String) : Lists (line :: lines) []
  | unit {line : String} {lines : List String} {u : ListedUnit} {units : List ListedUnit} (h : ¬ Ends line)
    (hu : TellsOf line u) (hrest : Lists lines units) : Lists (line :: lines) (u :: units)
  | other {line : String} {lines : List String} {units : List ListedUnit} (h : ¬ Ends line)
    (hnone : ∀ u, ¬ TellsOf line u) (hrest : Lists lines units) : Lists (line :: lines) units

private theorem unit?_eq_none_iff {line : String} : Upsd.unit? line = none ↔ ∀ u, ¬ TellsOf line u := by
  simp only [Option.eq_none_iff_forall_ne_some, ne_eq, unit?_eq_some_iff]

private theorem exists_lists (lines : List String) : ∃ units, Lists lines units := by
  induction lines with
  | nil => exact ⟨[], .nothing⟩
  | cons line lines ih =>
    obtain ⟨units, hunits⟩ := ih
    by_cases h : Ends line
    · exact ⟨[], .ended h lines⟩
    · cases hu : Upsd.unit? line with
      | none => exact ⟨units, .other h (unit?_eq_none_iff.mp hu) hunits⟩
      | some u => exact ⟨u :: units, .unit h (unit?_eq_some_iff.mp hu) hunits⟩

private theorem Lists.unique {lines : List String} {units units' : List ListedUnit} (h : Lists lines units)
    (h' : Lists lines units') : units = units' := by
  induction h generalizing units' with
  | nothing =>
    cases h'
    rfl
  | ended hends lines =>
    cases h' with
    | ended _ _ => rfl
    | unit hnot _ _ => exact absurd hends hnot
    | other hnot _ _ => exact absurd hends hnot
  | unit hnot hu _ ih =>
    cases h' with
    | ended hends _ => exact absurd hends hnot
    | unit _ hu' hrest' => rw [Option.some.inj (hu.unit?.symm.trans hu'.unit?), ih hrest']
    | other _ hnone _ => exact absurd hu (hnone _)
  | other hnot hnone _ ih =>
    cases h' with
    | ended hends _ => exact absurd hends hnot
    | unit _ hu _ => exact absurd hu (hnone _)
    | other _ _ hrest' => exact ih hrest'

/-! ### Reading -/

def listed (lines : List ReplyLine) : Except Fault (List ListedUnit) := do
  let (lines, _) ← readLines lines
  return readUnits lines

/-- Whether a line is too long, and it comes to be read: no line before it is too long or ends the list. -/
def Overruns (lines : List ReplyLine) (line : ReplyLine) : Prop :=
  ∃ before after, lines = before ++ line :: after ∧ lineLimit < line.octets.length ∧
    ∀ other ∈ before, other.octets.length ≤ lineLimit ∧ ¬ Ends (lineText other.octets)

section

variable {lines : List ReplyLine} {line : ReplyLine}

private theorem listed_of_long (h : lineLimit < line.octets.length) (lines : List ReplyLine) :
    listed (line :: lines) = .error line.tooLong := by
  have hread : line.read = .error line.tooLong := if_pos h
  simp only [listed, readLines, hread]
  rfl

private theorem read_of_fits (h : line.octets.length ≤ lineLimit) : line.read = .ok (lineText line.octets) :=
  if_neg (Nat.not_lt.mpr h)

private theorem listed_of_ends (hfits : line.octets.length ≤ lineLimit) (h : Ends (lineText line.octets))
    (lines : List ReplyLine) : listed (line :: lines) = .ok [] := by
  simp only [listed, readLines, read_of_fits hfits, bind, Except.bind, isLast_eq_true.mpr h, if_true]
  rfl

private theorem listed_of_not_ends (hfits : line.octets.length ≤ lineLimit) (h : ¬ Ends (lineText line.octets))
    (lines : List ReplyLine) : listed (line :: lines) =
      (listed lines).map ((Upsd.unit? (lineText line.octets)).toList ++ ·) := by
  have hlast : isLast (lineText line.octets) = false := Bool.eq_false_iff.mpr (mt isLast_eq_true.mp h)
  simp only [listed, readLines, read_of_fits hfits, bind, Except.bind, hlast, Bool.false_eq_true, if_false]
  cases readLines lines with
  | error f => rfl
  | ok read => cases hu : Upsd.unit? (lineText line.octets) <;> simp [Except.map, pure, Except.pure, readUnits, hu]

theorem listed_of_overruns (h : Overruns lines line) : listed lines = .error line.tooLong := by
  obtain ⟨before, after, rfl, hlong, hbefore⟩ := h
  induction before with
  | nil => exact listed_of_long hlong after
  | cons first before ih =>
    obtain ⟨hfits, hends⟩ := hbefore first List.mem_cons_self
    rw [List.cons_append, listed_of_not_ends hfits hends,
      ih fun other hother => hbefore other (List.mem_cons_of_mem _ hother)]
    rfl

private theorem Overruns.cons {first : ReplyLine} (hfits : first.octets.length ≤ lineLimit)
    (hends : ¬ Ends (lineText first.octets)) (h : Overruns lines line) : Overruns (first :: lines) line := by
  obtain ⟨before, after, rfl, hlong, hbefore⟩ := h
  exact ⟨first :: before, after, rfl, hlong, List.forall_mem_cons.mpr ⟨⟨hfits, hends⟩, hbefore⟩⟩

private theorem listed_cases (lines : List ReplyLine) :
    (∃ line, Overruns lines line) ∨
      ∃ units, listed lines = .ok units ∧ Lists (lines.map fun line => lineText line.octets) units := by
  induction lines with
  | nil => exact .inr ⟨[], rfl, .nothing⟩
  | cons line lines ih =>
    by_cases hlong : lineLimit < line.octets.length
    · exact .inl ⟨line, [], lines, rfl, hlong, List.forall_mem_nil _⟩
    · have hfits := Nat.not_lt.mp hlong
      by_cases hends : Ends (lineText line.octets)
      · exact .inr ⟨[], listed_of_ends hfits hends lines, .ended hends _⟩
      · rcases ih with ⟨long, hover⟩ | ⟨units, hread, hlists⟩
        · exact .inl ⟨long, hover.cons hfits hends⟩
        · refine .inr ⟨_, (listed_of_not_ends hfits hends lines).trans (congrArg _ hread), ?_⟩
          cases hu : Upsd.unit? (lineText line.octets) with
          | none => exact .other hends (unit?_eq_none_iff.mp hu) hlists
          | some u => exact .unit hends (unit?_eq_some_iff.mp hu) hlists

private theorem listed_eq_ok_iff {units : List ListedUnit} : listed lines = .ok units ↔
    (∀ line, ¬ Overruns lines line) ∧ Lists (lines.map fun line => lineText line.octets) units := by
  constructor
  · intro hread
    have hnone (line : ReplyLine) : ¬ Overruns lines line := by
      intro hover
      rw [listed_of_overruns hover] at hread
      cases hread
    obtain ⟨line, hover⟩ | ⟨units', hread', hlists⟩ := listed_cases lines
    · exact absurd hover (hnone line)
    · cases hread.symm.trans hread'
      exact ⟨hnone, hlists⟩
  · rintro ⟨hnone, hlists⟩
    obtain ⟨line, hover⟩ | ⟨units', hread', hlists'⟩ := listed_cases lines
    · exact absurd hover (hnone line)
    · rw [hread', hlists'.unique hlists]

private theorem listed_append_congr {lines lines' : List ReplyLine} (before : List ReplyLine)
    (h : listed lines = listed lines') : listed (before ++ lines) = listed (before ++ lines') := by
  induction before with
  | nil => exact h
  | cons first before ih =>
    rw [List.cons_append, List.cons_append]
    by_cases hlong : lineLimit < first.octets.length
    · rw [listed_of_long hlong, listed_of_long hlong]
    · have hfits := Nat.not_lt.mp hlong
      by_cases hends : Ends (lineText first.octets)
      · rw [listed_of_ends hfits hends, listed_of_ends hfits hends]
      · rw [listed_of_not_ends hfits hends, listed_of_not_ends hfits hends, ih]

private theorem listed_of_idle (hfits : line.octets.length ≤ lineLimit) (h : ¬ Ends (lineText line.octets))
    (hnone : ∀ u, ¬ TellsOf (lineText line.octets) u) (lines : List ReplyLine) :
    listed (line :: lines) = listed lines := by
  rw [listed_of_not_ends hfits h, unit?_eq_none_iff.mpr hnone]
  cases listed lines <;> rfl

end

/-! ### Replies -/

/-- Lines that a line feed ends, and what follows the last of them, if there is anything. -/
def sent (lines : List (List UInt8)) (rest : List UInt8) : List ReplyLine :=
  lines.map (⟨·, true⟩) ++ if rest = [] then [] else [⟨rest, false⟩]

def texts (lines : List (List UInt8)) (rest : List UInt8) : List String :=
  (sent lines rest).map fun line => lineText line.octets

/-- Whether a server sends certain lines and a rest without a line feed, and the connection holds meanwhile. -/
structure Delivers (server : UpsdServer) (lines : List (List UInt8)) (rest : List UInt8) : Prop where
  connects : server.connectError = none
  reads : server.readError = none
  closes : ∀ f, server.closeError = some f → f.isSystem = true
  whole : ∀ line ∈ lines, 10 ∉ line
  open_rest : 10 ∉ rest
  reply : server.reply = lines.flatMap (· ++ [10]) ++ rest

private theorem split_lines {lines : List (List UInt8)} {rest : List UInt8}
    (hlines : ∀ line ∈ lines, 10 ∉ line) (hrest : 10 ∉ rest) :
    split 10 (lines.flatMap (· ++ [10]) ++ rest) = lines ++ [rest] := by
  induction lines with
  | nil => exact split_of_not_mem hrest
  | cons line lines ih =>
    have hfirst : (line :: lines).flatMap (· ++ [10]) ++ rest =
        line ++ 10 :: (lines.flatMap (· ++ [10]) ++ rest) := by simp
    rw [hfirst, split_append_cons (hlines line List.mem_cons_self),
      ih fun other hother => hlines other (List.mem_cons_of_mem _ hother), List.cons_append]

variable {site : Site} {host : String} {port timeout : Value} {lines : List (List UInt8)} {rest : List UInt8}

private theorem Delivers.replyLines {server : UpsdServer} (h : Delivers server lines rest) :
    replyLines server.reply = sent lines rest := by
  have hsplit : split 10 server.reply = lines ++ [rest] := by rw [h.reply, split_lines h.whole h.open_rest]
  by_cases hempty : rest = []
  · simp [Upsd.replyLines, sent, hsplit, hempty]
  · simp [Upsd.replyLines, sent, hsplit, hempty]

private theorem readList_value (h : Delivers (site.upsd host port) lines rest)
    (hport : port.isWritable = true) :
    (readList (site.upsd host port) host port).run.value = listed (sent lines rest) := by
  have hshown : port.written = .ok port.display := if_pos hport
  simp only [readList, h.reads, run_bind_value, h.replyLines, listed, hshown, Attempt.ofExcept_value]
  cases readLines (sent lines rest) with
  | error f => rfl
  | ok read => cases hrefusal : read.2 <;> simp only [bind, Except.bind, hrefusal] <;> rfl

theorem listUnits_value (h : Delivers (site.upsd host port) lines rest) (hport : port.isWritable = true)
    (hwaits : timeout.patience = .waits) :
    (listUnits site host port timeout).run.value = listed (sent lines rest) := by
  simp only [listUnits, hwaits, h.connects, run_bind_value, ← readList_value h hport]
  cases hclose : (site.upsd host port).closeError with
  | none => exact Attempt.ofExcept_value _
  | some f =>
    have hsystem := h.closes f hclose
    simp only [hsystem, if_true, Attempt.ofExcept_value]
    rfl

/-- A server whose connection holds lists one unit for each line before the end of its list that tells of one,
in the order of the lines, unless a line that is too long comes to be read: that fails with an error of the
value.  A line tells of one unit only; lines that tell of none and fit could as well be missing, and lines
behind the end could be any others. -/
theorem listUnits_lists (site : Site) (host : String) (port timeout : Value) (lines : List (List UInt8))
    (rest : List UInt8) (h : Delivers (site.upsd host port) lines rest) (hport : port.isWritable = true)
    (hwaits : timeout.patience = .waits) :
    (∃ units, Lists (texts lines rest) units) ∧
    (∀ units, (listUnits site host port timeout).run.value = .ok units ↔
      (∀ line, ¬ Overruns (sent lines rest) line) ∧ Lists (texts lines rest) units) ∧
    (∀ line, Overruns (sent lines rest) line →
      (listUnits site host port timeout).run.value = .error line.tooLong ∧ line.tooLong.isValue = true ∧
        line.tooLong.isSystem = false) ∧
    (∀ line u u', TellsOf line u → TellsOf line u' → u = u') ∧
    ∀ (other : Site) (lines' : List (List UInt8)) (rest' : List UInt8),
      Delivers (other.upsd host port) lines' rest' →
      (∃ before line, line.octets.length ≤ lineLimit ∧
        ((∃ after after', Ends (lineText line.octets) ∧ sent lines rest = before ++ line :: after ∧
            sent lines' rest' = before ++ line :: after') ∨
          ∃ after, ¬ Ends (lineText line.octets) ∧ (∀ u, ¬ TellsOf (lineText line.octets) u) ∧
            sent lines rest = before ++ line :: after ∧ sent lines' rest' = before ++ after)) →
      (listUnits other host port timeout).run.value = (listUnits site host port timeout).run.value := by
  have hvalue := listUnits_value h hport hwaits
  refine ⟨exists_lists _, ?_, ?_, ?_, ?_⟩
  · intro units
    rw [hvalue]
    exact listed_eq_ok_iff
  · intro line hover
    exact ⟨hvalue.trans (listed_of_overruns hover), rfl, rfl⟩
  · intro line u u' hu hu'
    exact Option.some.inj (hu.unit?.symm.trans hu'.unit?)
  · rintro other lines' rest' h' ⟨before, line, hfits, hsame⟩
    rw [hvalue, listUnits_value h' hport hwaits]
    rcases hsame with ⟨after, after', hends, hsent, hsent'⟩ | ⟨after, hends, hnone, hsent, hsent'⟩
    · rw [hsent, hsent']
      apply listed_append_congr
      rw [listed_of_ends hfits hends, listed_of_ends hfits hends]
    · rw [hsent, hsent']
      exact listed_append_congr before (listed_of_idle hfits hends hnone after).symm

private def octets (s : String) : List UInt8 := s.toList.map fun c => UInt8.ofNat c.toNat

/-- Lines with quotes in a name and in a description, a line of another kind, and a unit behind the end. -/
private def quotedLines : List (List UInt8) :=
  ["UPS \"a\" \t\"b \"c\"\"\r", "VAR a x \"1\"", "UPS ups \"\"", "UPS ups \"\"", "END LIST UPS"].map octets

/-- A line of one octet more than a line may have, before a unit. -/
private def longLines : List (List UInt8) :=
  [List.replicate (lineLimit + 1) 120, octets "UPS ups \"one\"", octets "END LIST UPS"]

private def siteWith (lines : List (List UInt8)) (rest : List UInt8) : Site where
  installed _ := true
  usb := .ok []
  snmp _ := .silent
  http _ := .ok {}
  broadcast := {}
  upsd _ _ := { reply := lines.flatMap (· ++ [10]) ++ rest }
  services := []
  bmc _ := .ok []
  serial _ := .ok []
  serialPorts := []
  files _ := none

private theorem delivers_siteWith (lines : List (List UInt8)) (rest : List UInt8)
    (hlines : ∀ line ∈ lines, 10 ∉ line) (hrest : 10 ∉ rest) :
    Delivers ((siteWith lines rest).upsd "10.0.0.1" (.int 3493)) lines rest :=
  ⟨rfl, rfl, nofun, hlines, hrest, rfl⟩

theorem listUnits_lists_quoting :
    (Value.int 3493).isWritable = true ∧ (Value.int 5).patience = .waits ∧
      Delivers ((siteWith quotedLines (octets "UPS late \"d\"")).upsd "10.0.0.1" (.int 3493)) quotedLines
        (octets "UPS late \"d\"") ∧
      (listUnits (siteWith quotedLines (octets "UPS late \"d\"")) "10.0.0.1" (.int 3493) (.int 5)).run.value =
        .ok [⟨"\"a\"", "b \"c\""⟩, ⟨"ups", ""⟩, ⟨"ups", ""⟩] ∧
      Delivers ((siteWith longLines []).upsd "10.0.0.1" (.int 3493)) longLines [] ∧
      (listUnits (siteWith longLines []) "10.0.0.1" (.int 3493) (.int 5)).run.value =
        .error (.outside (.value none) "Separator is found, but chunk is longer than limit") := by
  have hport : (Value.int 3493).isWritable = true := isWritable_of_isPort (by decide)
  have hwaits : (Value.int 5).patience = .waits := rfl
  have hquoted := delivers_siteWith quotedLines (octets "UPS late \"d\"") (by decide) (by decide)
  have hlong : Delivers ((siteWith longLines []).upsd "10.0.0.1" (.int 3493)) longLines [] := by
    refine delivers_siteWith longLines [] ?_ List.not_mem_nil
    simp only [longLines, List.forall_mem_cons, List.mem_replicate]
    exact ⟨by decide, by decide, by decide, nofun⟩
  refine ⟨hport, hwaits, hquoted, ?_, hlong, ?_⟩
  · apply ((listUnits_lists _ "10.0.0.1" _ _ _ _ hquoted hport hwaits).2.1 _).mpr
    constructor
    · rintro line ⟨before, after, hsent, hover, -⟩
      have hfits : ∀ line ∈ sent quotedLines (octets "UPS late \"d\""), line.octets.length ≤ lineLimit := by decide
      have hmem : line ∈ sent quotedLines (octets "UPS late \"d\"") := by
        rw [hsent]
        exact List.mem_append_right _ List.mem_cons_self
      exact absurd hover (Nat.not_lt.mpr (hfits line hmem))
    · have htold : TellsOf (lineText (octets "UPS \"a\" \t\"b \"c\"\"\r")) ⟨"\"a\"", "b \"c\""⟩ :=
        unit?_eq_some_iff.mp (by decide)
      have hother : ∀ u, ¬ TellsOf (lineText (octets "VAR a x \"1\"")) u := unit?_eq_none_iff.mp (by decide)
      have hplain : TellsOf (lineText (octets "UPS ups \"\"")) ⟨"ups", ""⟩ := unit?_eq_some_iff.mp (by decide)
      have hends : Ends (lineText (octets "END LIST UPS")) := by decide
      exact .unit (by decide) htold (.other (by decide) hother
        (.unit (by decide) hplain (.unit (by decide) hplain (.ended hends _))))
  · refine ((listUnits_lists _ "10.0.0.1" _ _ _ _ hlong hport hwaits).2.2.1
      ⟨List.replicate (lineLimit + 1) 120, true⟩ ⟨[], _, rfl, ?_, List.forall_mem_nil _⟩).1
    rw [List.length_replicate]
    exact Nat.lt_succ_self lineLimit

end PowerDiscovery.Upsd
