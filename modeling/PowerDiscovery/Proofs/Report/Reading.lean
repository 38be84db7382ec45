import PowerDiscovery.Proofs.Report.Fields
import PowerDiscovery.Report.Renderer

/-! # Reading reports

A report can be read again: the quotes around a value tell where it ends, whatever it holds, so the
devices and their order are found in the text.  The names of options must not hold the characters that
end them in the text. -/

namespace PowerDiscovery.Report

open Text

/-- Takes an item off the front of a text; what follows it is left. -/
abbrev Reader (α : Type) := List Char → Option (α × List Char)

namespace Reader

variable {α β : Type}

/-- Reads items one after the other up to a closing character; at most as many as a bound tells. -/
def items (item : Reader α) (close : Char) : Nat → Reader (List α)
  | 0, _ => none
  | _ + 1, [] => none
  | bound + 1, c :: cs =>
    if c = close then some ([], cs)
    else do
      let (first, rest) ← item (c :: cs)
      let (others, rest) ← items item close bound rest
      return (first :: others, rest)

/-- Reads items one after the other up to the end of the text; at most as many as a bound tells. -/
def toEnd (item : Reader α) : Nat → List Char → Option (List α)
  | _, [] => some []
  | 0, _ => none
  | bound + 1, cs => do
    let (first, rest) ← item cs
    let others ← toEnd item bound rest
    return first :: others

private theorem length_le_length_flatMap {print : β → List Char} {bs : List β}
    (hprint : ∀ b ∈ bs, print b ≠ []) : bs.length ≤ (bs.flatMap print).length := by
  induction bs with
  | nil => exact Nat.le_refl 0
  | cons b bs ih =>
    obtain ⟨hfirst, hprint⟩ := List.forall_mem_cons.1 hprint
    have := List.length_pos_iff.2 hfirst
    have := ih hprint
    simp only [List.flatMap_cons, List.length_append, List.length_cons]
    omega

private theorem items_of_lt {item : Reader α} {close : Char} {print : α → List Char} {as : List α}
    (hprint : ∀ a ∈ as, ∃ c cs, print a = c :: cs ∧ c ≠ close)
    (hitem : ∀ a ∈ as, ∀ rest, item (print a ++ rest) = some (a, rest)) {bound : Nat}
    (hbound : as.length < bound) (rest : List Char) :
    items item close bound (as.flatMap print ++ close :: rest) = some (as, rest) := by
  induction as generalizing bound with
  | nil =>
    obtain ⟨bound, rfl⟩ := Nat.exists_eq_succ_of_ne_zero (Nat.ne_of_gt hbound)
    simp [items]
  | cons a as ih =>
    obtain ⟨bound, rfl⟩ := Nat.exists_eq_succ_of_ne_zero (Nat.ne_zero_of_lt hbound)
    obtain ⟨hfirst, hprint⟩ := List.forall_mem_cons.1 hprint
    obtain ⟨hread, hitem⟩ := List.forall_mem_cons.1 hitem
    obtain ⟨c, cs, ha, hc⟩ := hfirst
    have hrest := ih hprint hitem (by simpa using hbound)
    have hfirst := hread (as.flatMap print ++ close :: rest)
    rw [ha, List.cons_append] at hfirst
    simp [items, ha, hc, hfirst, hrest]

private theorem items_flatMap {item : Reader α} {close : Char} {print : α → List Char} {as : List α}
    (hprint : ∀ a ∈ as, ∃ c cs, print a = c :: cs ∧ c ≠ close)
    (hitem : ∀ a ∈ as, ∀ rest, item (print a ++ rest) = some (a, rest)) (rest : List Char) :
    items item close ((as.flatMap print ++ close :: rest).length + 1)
      (as.flatMap print ++ close :: rest) = some (as, rest) := by
  refine items_of_lt hprint hitem ?_ rest
  have hne : ∀ a ∈ as, print a ≠ [] := by
    intro a ha
    obtain ⟨c, cs, hcs, -⟩ := hprint a ha
    exact hcs ▸ List.cons_ne_nil c cs
  have := length_le_length_flatMap hne
  rw [List.length_append]
  omega

private theorem toEnd_of_le {item : Reader α} {print : β → List Char} {value : β → α} {bs : List β}
    (hprint : ∀ b ∈ bs, print b ≠ [])
    (hitem : ∀ b ∈ bs, ∀ rest, item (print b ++ rest) = some (value b, rest)) {bound : Nat}
    (hbound : bs.length ≤ bound) : toEnd item bound (bs.flatMap print) = some (bs.map value) := by
  induction bs generalizing bound with
  | nil => cases bound <;> rfl
  | cons b bs ih =>
    obtain ⟨bound, rfl⟩ := Nat.exists_eq_succ_of_ne_zero (Nat.ne_zero_of_lt hbound)
    obtain ⟨hfirst, hprint⟩ := List.forall_mem_cons.1 hprint
    obtain ⟨hread, hitem⟩ := List.forall_mem_cons.1 hitem
    have hrest := ih hprint hitem (by simpa using hbound)
    obtain ⟨c, cs, hb⟩ := List.exists_cons_of_ne_nil hfirst
    have hfirst := hread (bs.flatMap print)
    rw [hb, List.cons_append] at hfirst
    simp [toEnd, hb, hfirst, hrest]

private theorem toEnd_flatMap {item : Reader α} {print : β → List Char} {value : β → α} {bs : List β}
    (hprint : ∀ b ∈ bs, print b ≠ [])
    (hitem : ∀ b ∈ bs, ∀ rest, item (print b ++ rest) = some (value b, rest)) :
    toEnd item (bs.flatMap print).length (bs.flatMap print) = some (bs.map value) :=
  toEnd_of_le hprint hitem (length_le_length_flatMap hprint)

end Reader

structure Entry where
  label : String
  driver : String
  port : String
  options : List (String × String)
deriving DecidableEq, Repr

def Entry.ofDevice (label : String) (d : Device) : Entry :=
  { label := label
    driver := d.driver
    port := d.port
    options := d.options.map fun (name, value) => (name, value.display) }

def Entry.ofFields? (label : List Char) : List (String × String) → Option Entry
  | (_, driver) :: (_, port) :: options => some ⟨String.ofList label, driver, port, options⟩
  | _ => none

private theorem Entry.ofFields?_fields (label : String) (d : Device) :
    Entry.ofFields? label.toList (fields d) = some (Entry.ofDevice label d) := by
  simp [Entry.ofFields?, fields, Entry.ofDevice]

/-- A device with textual options, whose names hold neither a blank nor an equals sign. -/
structure IsReadable (d : Device) : Prop where
  textual : ∀ option ∈ d.options, ∃ s, option.2 = .text s
  named : ∀ option ∈ d.options, ' ' ∉ option.1.toList ∧ '=' ∉ option.1.toList

private theorem IsReadable.fields_named {d : Device} (h : IsReadable d) :
    ∀ f ∈ fields d, ' ' ∉ f.1.toList ∧ '=' ∉ f.1.toList := by
  simp only [fields, List.mem_cons, List.mem_map]
  rintro f (rfl | rfl | ⟨option, hoption, rfl⟩)
  · exact (by decide : ' ' ∉ "driver".toList ∧ '=' ∉ "driver".toList)
  · exact (by decide : ' ' ∉ "port".toList ∧ '=' ∉ "port".toList)
  · exact h.named option hoption

/-! ## Lines -/

def readField : Reader (String × String) := fun cs =>
  match cut '=' cs with
  | (_, none) => none
  | (name, some rest) => (unquote rest).map fun (value, rest) =>
    ((String.ofList name, String.ofList value), rest)

def readNext : Reader (String × String)
  | ',' :: cs => readField cs
  | _ => none

def readLine : Reader Entry := fun cs =>
  match cut ':' cs with
  | (_, none) => none
  | (label, some rest) => do
    let (first, rest) ← readField rest
    let (others, rest) ← Reader.items readNext '\n' (rest.length + 1) rest
    let entry ← Entry.ofFields? label (first :: others)
    return (entry, rest)

def readLines (s : String) : Option (List Entry) :=
  Reader.toEnd readLine s.toList.length s.toList

private theorem readField_fieldChars {f : String × String} (h : '=' ∉ f.1.toList) (rest : List Char) :
    readField (fieldChars f ++ rest) = some (f, rest) := by
  simp [readField, fieldChars, cut_append_cons h, unquote_quote]

private theorem readLine_line {d : Device} (h : IsReadable d) (rest : List Char) :
    readLine ((line d).toList ++ rest) = some (Entry.ofDevice d.backend.displayName d, rest) := by
  obtain ⟨first, others, hfields⟩ : ∃ first others, fields d = first :: others := ⟨_, _, rfl⟩
  have hnamed := h.fields_named
  have hentry := Entry.ofFields?_fields d.backend.displayName d
  rw [hfields] at hnamed hentry
  obtain ⟨hfirst, hothers⟩ := List.forall_mem_cons.1 hnamed
  let printed (f : String × String) := ',' :: fieldChars f
  let tail := others.flatMap printed ++ '\n' :: rest
  have hline : (line d).toList ++ rest =
      d.backend.displayName.toList ++ ':' :: (fieldChars first ++ tail) := by
    rw [toList_line, lineChars, hfields, List.map_cons, join_cons]
    simp [tail, printed, List.flatMap_map]
  have hread : Reader.items readNext '\n' (tail.length + 1) tail = some (others, rest) :=
    Reader.items_flatMap (fun f _ => ⟨',', fieldChars f, rfl, by decide⟩)
      (fun f hf => readField_fieldChars (hothers f hf).2) rest
  rw [hline, readLine, cut_append_cons (displayName_plain d.backend).1]
  simp only [readField_fieldChars hfirst.2, hread, hentry, Option.bind_eq_bind, Option.bind_some,
    Option.pure_def]

/-! ## Sections -/

def readAssignment : Reader (String × String)
  | '\t' :: cs =>
    match cut ' ' cs with
    | (name, some ('=' :: ' ' :: rest)) =>
      match unquote rest with
      | some (value, '\n' :: rest) => some ((String.ofList name, String.ofList value), rest)
      | _ => none
    | _ => none
  | _ => none

def readSection : Reader Entry
  | '[' :: cs =>
    match cut ']' cs with
    | (label, some ('\n' :: rest)) => do
      let (fields, rest) ← Reader.items readAssignment '\n' (rest.length + 1) rest
      let entry ← Entry.ofFields? label fields
      return (entry, rest)
    | _ => none
  | _ => none

def readSections (s : String) : Option (List Entry) :=
  Reader.toEnd readSection s.toList.length s.toList

private theorem readAssignment_assignmentChars {f : String × String} (h : ' ' ∉ f.1.toList) (rest : List Char) :
    readAssignment (assignmentChars f ++ rest) = some (f, rest) := by
  simp [readAssignment, assignmentChars, cut_append_cons h, unquote_quote]

private theorem readSection_sectionText {name : String} {d : Device} (hname : ']' ∉ name.toList)
    (h : IsReadable d) (rest : List Char) :
    readSection ((sectionText name d).toList ++ rest) = some (Entry.ofDevice name d, rest) := by
  let tail := (fields d).flatMap assignmentChars ++ '\n' :: rest
  have hsection : (sectionText name d).toList ++ rest = '[' :: (name.toList ++ ']' :: '\n' :: tail) := by
    rw [toList_sectionText]
    simp [tail]
  have hread : Reader.items readAssignment '\n' (tail.length + 1) tail = some (fields d, rest) :=
    Reader.items_flatMap (fun f _ => ⟨'\t', _, rfl, by decide⟩)
      (fun f hf => readAssignment_assignmentChars (h.fields_named f hf).1) rest
  rw [hsection, readSection, cut_append_cons hname]
  simp only [hread, Entry.ofFields?_fields, Option.bind_eq_bind, Option.bind_some, Option.pure_def]

/-! ## Reports of several lists -/

theorem IsReadable.isWritable {d : Device} (h : IsReadable d) : d.isWritable = true := by
  refine List.all_eq_true.2 fun option hoption => ?_
  obtain ⟨s, hs⟩ := h.textual option hoption
  rw [hs]
  rfl

variable {lists : List (List Device)}

private theorem texts_lines (h : ∀ d ∈ lists.flatten, IsReadable d) (count : Nat) :
    ∃ texts, (Renderer.mk .lines count).texts lists = .ok texts ∧
      (String.join texts).toList = lists.flatten.flatMap fun d => (line d).toList := by
  induction lists generalizing count with
  | nil => exact ⟨[], rfl, rfl⟩
  | cons ds lists ih =>
    obtain ⟨hds, hlists⟩ := List.forall_mem_append.1 h
    obtain ⟨texts, htexts, hjoin⟩ := ih hlists (count + ds.length)
    have hwritable : ∀ d ∈ ds, d.isWritable := fun d hd => (hds d hd).isWritable
    refine ⟨_, Renderer.texts_cons (Renderer.text_of_lines hwritable) htexts, ?_⟩
    simp only [String.toList_join] at hjoin
    simp [String.toList_join, hjoin, List.flatMap_map]

private theorem texts_sections (h : ∀ d ∈ lists.flatten, IsReadable d) (count : Nat) :
    ∃ texts, (Renderer.mk .sections count).texts lists = .ok texts ∧
      (String.join texts).toList =
        (numbered (count + 1) lists.flatten).flatMap fun (name, d) => (sectionText name d).toList := by
  induction lists generalizing count with
  | nil => exact ⟨[], rfl, rfl⟩
  | cons ds lists ih =>
    obtain ⟨hds, hlists⟩ := List.forall_mem_append.1 h
    obtain ⟨texts, htexts, hjoin⟩ := ih hlists (count + ds.length)
    have hwritable : ∀ d ∈ ds, d.isWritable := fun d hd => (hds d hd).isWritable
    refine ⟨_, Renderer.texts_cons (Renderer.text_of_sections hwritable) htexts, ?_⟩
    have hnext : count + 1 + ds.length = count + ds.length + 1 := Nat.add_right_comm _ _ _
    simp only [String.toList_join] at hjoin
    simp [String.toList_join, Renderer.sectionsText, hjoin, numbered_append, hnext, List.flatMap_map]

/-- What a report of lines tells about the devices of a list. -/
def lineEntries (ds : List Device) : List Entry :=
  ds.map fun d => Entry.ofDevice d.backend.displayName d

/-- What a report of sections tells about the devices of a list; the sections are numbered from one on. -/
def sectionEntries (ds : List Device) : List Entry :=
  (ds.zipIdx 1).map fun (d, n) => Entry.ofDevice s!"nutdev{n}" d

private theorem readLines_texts (h : ∀ d ∈ lists.flatten, IsReadable d) :
    ∃ texts, (Renderer.mk .lines 0).texts lists = .ok texts ∧
      readLines (String.join texts) = some (lineEntries lists.flatten) := by
  obtain ⟨texts, htexts, hjoin⟩ := texts_lines h 0
  refine ⟨texts, htexts, ?_⟩
  have hne (d : Device) : (line d).toList ≠ [] := by simp [toList_line]
  rw [readLines, hjoin]
  exact Reader.toEnd_flatMap (fun d _ => hne d) fun d hd => readLine_line (h d hd)

private theorem readSections_texts (h : ∀ d ∈ lists.flatten, IsReadable d) :
    ∃ texts, (Renderer.mk .sections 0).texts lists = .ok texts ∧
      readSections (String.join texts) = some (sectionEntries lists.flatten) := by
  obtain ⟨texts, htexts, hjoin⟩ := texts_sections h 0
  refine ⟨texts, htexts, ?_⟩
  rw [numbered_eq_zipIdx, List.flatMap_map] at hjoin
  have hne (d : Device) (n : Nat) : (sectionText (sectionName n) d).toList ≠ [] := by
    simp [toList_sectionText]
  rw [readSections, hjoin]
  refine Reader.toEnd_flatMap (fun p _ => hne p.1 p.2) fun p hp rest => ?_
  have hd : p.1 ∈ lists.flatten := List.fst_mem_of_mem_zipIdx hp
  exact readSection_sectionText (bracket_not_mem_sectionName p.2) (h p.1 hd) rest

/-- The driver, the port and the options that an entry tells of. -/
def Entry.contents (e : Entry) : String × String × DeviceOptions :=
  (e.driver, e.port, e.options.map fun (name, s) => (name, .text s))

def contentsOf (d : Device) : String × String × DeviceOptions :=
  (d.driver, d.port, d.options)

private theorem Entry.contents_ofDevice {d : Device} (h : IsReadable d) (label : String) :
    (Entry.ofDevice label d).contents = contentsOf d := by
  have hoptions : d.options.map (fun (name, value) => (name, Value.text value.display)) = d.options := by
    refine (List.map_congr_left fun option hoption => ?_).trans (List.map_id _)
    obtain ⟨s, hs⟩ := h.textual option hoption
    have hvalue : Value.text option.2.display = option.2 := by
      rw [hs]
      rfl
    exact Prod.ext rfl hvalue
  simp only [contents, ofDevice, contentsOf, List.map_map, Function.comp_def, hoptions]

private theorem map_contents_sectionEntries {ds : List Device} (h : ∀ d ∈ ds, IsReadable d) :
    (sectionEntries ds).map Entry.contents = ds.map contentsOf := by
  calc (sectionEntries ds).map Entry.contents
    _ = (ds.zipIdx 1).map fun p => (Entry.ofDevice s!"nutdev{p.2}" p.1).contents := List.map_map
    _ = (ds.zipIdx 1).map fun p => contentsOf p.1 :=
      List.map_congr_left fun p hp => Entry.contents_ofDevice (h p.1 (List.fst_mem_of_mem_zipIdx hp)) _
    _ = ((ds.zipIdx 1).map Prod.fst).map contentsOf := by
      rw [List.map_map]
      rfl
    _ = ds.map contentsOf := by rw [List.zipIdx_map_fst]

private theorem map_label_sectionEntries (ds : List Device) :
    (sectionEntries ds).map Entry.label = (List.range ds.length).map fun i => s!"nutdev{i + 1}" := by
  have hnumbers : (ds.zipIdx 1).map Prod.snd = (List.range ds.length).map (1 + ·) := by
    rw [List.zipIdx_map_snd, List.range'_eq_map_range]
  calc (sectionEntries ds).map Entry.label
    _ = ((ds.zipIdx 1).map Prod.snd).map fun n => s!"nutdev{n}" := by
      rw [sectionEntries, List.map_map, List.map_map]
      rfl
    _ = (List.range ds.length).map fun i => s!"nutdev{i + 1}" := by
      rw [hnumbers, List.map_map]
      exact List.map_congr_left fun i _ => by rw [Function.comp_apply, Nat.add_comm]

private theorem lineEntries_injective {ds ds' : List Device} (h : ∀ d ∈ ds, IsReadable d)
    (h' : ∀ d ∈ ds', IsReadable d) (heq : lineEntries ds = lineEntries ds') : ds = ds' := by
  have hname : ∀ b b' : Backend, b.displayName = b'.displayName → b = b' := by
    intro b b'
    cases b <;> cases b' <;> decide
  have hinjective : ∀ d d' : Device,
      (d.backend.displayName, contentsOf d) = (d'.backend.displayName, contentsOf d') → d = d' := by
    rintro ⟨b, driver, port, options⟩ ⟨b', driver', port', options'⟩ hd
    simp only [contentsOf, Prod.mk.injEq] at hd
    obtain ⟨hb, rfl, rfl, rfl⟩ := hd
    rw [hname b b' hb]
  have htells {ds : List Device} (h : ∀ d ∈ ds, IsReadable d) :
      (lineEntries ds).map (fun e => (e.label, e.contents)) =
        ds.map fun d => (d.backend.displayName, contentsOf d) := by
    rw [lineEntries, List.map_map]
    exact List.map_congr_left fun d hd => Prod.ext rfl (Entry.contents_ofDevice (h d hd) _)
  refine (List.map_inj_right hinjective).1 ?_
  rw [← htells h, ← htells h', heq]

/-- A report can be read back: each entry tells the label, the driver, the port and the options of its
device, in the order of the devices over all lists, and the sections are numbered from one on without a
gap.  So reports that agree are reports of the same devices. -/
theorem texts_readable (lists : List (List Device)) (h : ∀ d ∈ lists.flatten, IsReadable d) :
    (∃ texts, ({ mode := .lines } : Renderer).texts lists = .ok texts ∧
      readLines (String.join texts) = some (lineEntries lists.flatten)) ∧
    (∃ texts, ({ mode := .sections } : Renderer).texts lists = .ok texts ∧
      readSections (String.join texts) = some (sectionEntries lists.flatten)) ∧
    (sectionEntries lists.flatten).map Entry.label =
      (List.range lists.flatten.length).map (fun i => s!"nutdev{i + 1}") ∧
    ∀ lists' : List (List Device), (∀ d ∈ lists'.flatten, IsReadable d) →
      ∀ texts texts', String.join texts = String.join texts' →
      (({ mode := .lines } : Renderer).texts lists = .ok texts →
        ({ mode := .lines } : Renderer).texts lists' = .ok texts' →
        lists.flatten = lists'.flatten) ∧
      (({ mode := .sections } : Renderer).texts lists = .ok texts →
        ({ mode := .sections } : Renderer).texts lists' = .ok texts' →
        lists.flatten.map contentsOf = lists'.flatten.map contentsOf) := by
  obtain ⟨lines, hlines, hreadLines⟩ := readLines_texts h
  obtain ⟨sections, hsections, hreadSections⟩ := readSections_texts h
  refine ⟨⟨lines, hlines, hreadLines⟩, ⟨sections, hsections, hreadSections⟩, ?_, ?_⟩
  · exact map_label_sectionEntries lists.flatten
  · intro lists' h' texts texts' htexts
    obtain ⟨lines', hlines', hreadLines'⟩ := readLines_texts h'
    obtain ⟨sections', hsections', hreadSections'⟩ := readSections_texts h'
    constructor
    · intro hl hl'
      cases hlines.symm.trans hl
      cases hlines'.symm.trans hl'
      rw [htexts, hreadLines', Option.some_inj] at hreadLines
      exact (lineEntries_injective h' h hreadLines).symm
    · intro hs hs'
      cases hsections.symm.trans hs
      cases hsections'.symm.trans hs'
      rw [htexts, hreadSections', Option.some_inj] at hreadSections
      rw [← map_contents_sectionEntries h, ← map_contents_sectionEntries h', hreadSections]

theorem texts_readable_quotes :
    let found : Device := ⟨.snmp, "snmp-ups", "10.0.0.1", [("desc", .text "\"\n\\"), ("mibs", .text "")]⟩
    let typed : Device := ⟨.nut, "dummy-ups", "ups@host,b=\"", []⟩
    (∀ d ∈ [[found], [], [typed]].flatten, IsReadable d) ∧
    (∃ texts, ({ mode := .lines } : Renderer).texts [[found], [], [typed]] = .ok texts ∧
      readLines (String.join texts) =
        some [⟨"SNMP", "snmp-ups", "10.0.0.1", [("desc", "\"\n\\"), ("mibs", "")]⟩,
          ⟨"NUT", "dummy-ups", "ups@host,b=\"", []⟩]) ∧
    ∃ texts, ({ mode := .sections } : Renderer).texts [[found], [], [typed]] = .ok texts ∧
      readSections (String.join texts) =
        some [⟨"nutdev1", "snmp-ups", "10.0.0.1", [("desc", "\"\n\\"), ("mibs", "")]⟩,
          ⟨"nutdev2", "dummy-ups", "ups@host,b=\"", []⟩] := by
  intro found typed
  have hfound : IsReadable found := ⟨by simp [found], by simp [found]⟩
  have htyped : IsReadable typed := ⟨by simp [typed], by simp [typed]⟩
  have h : ∀ d ∈ [[found], [], [typed]].flatten, IsReadable d := by simp [hfound, htyped]
  obtain ⟨hlines, hsections, -⟩ := texts_readable [[found], [], [typed]] h
  exact ⟨h, hlines, hsections⟩

end PowerDiscovery.Report
