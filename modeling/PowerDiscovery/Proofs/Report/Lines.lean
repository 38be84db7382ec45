import PowerDiscovery.Proofs.Report.Fields
import PowerDiscovery.Report.Renderer

/-! # The lines of a report

A report of lines starts a line for each device.  Quoting leaves line feeds as they are, so a device has
one more line for each line feed in its texts, and such a line may look like that of another device. -/

namespace PowerDiscovery.Report

open Text

/-- The names and the values of the fields of a device. -/
def shownChars (d : Device) : List Char :=
  (fields d).flatMap fun f => f.1.toList ++ f.2.toList

def lineStart (d : Device) : List Char :=
  (d.backend.displayName ++ ":driver=").toList

private theorem count_fieldChars (f : String × String) :
    (fieldChars f).count '\n' = (f.1.toList ++ f.2.toList).count '\n' := by
  simp [fieldChars, quote, count_escape]

private theorem count_lineChars (d : Device) : (lineChars d).count '\n' = (shownChars d).count '\n' := by
  have hname : d.backend.displayName.toList.count '\n' = 0 :=
    List.count_eq_zero.2 (displayName_plain d.backend).2
  calc (lineChars d).count '\n'
    _ = (((fields d).map fieldChars).flatten).count '\n' := by
      simp [lineChars, hname, count_join]
    _ = (shownChars d).count '\n' := by
      simp only [List.count_flatten, shownChars, List.flatMap_def, List.map_map]
      congr 1
      exact List.map_congr_left fun f _ => count_fieldChars f

private theorem split_lineChars (d : Device) :
    ∃ rest others, split '\n' (lineChars d) = (lineStart d ++ rest) :: others ∧
      others.length = (shownChars d).count '\n' := by
  obtain ⟨rest, hline⟩ : ∃ rest, lineChars d = lineStart d ++ rest := by
    simp [lineChars, fields, join_cons, fieldChars, lineStart]
  have hstart : '\n' ∉ lineStart d := by
    simp [lineStart, (displayName_plain d.backend).2]
  obtain ⟨piece, others, hs⟩ := split_append_left hstart rest
  refine ⟨piece, others, hline ▸ hs, ?_⟩
  have hlength := length_split '\n' (lineChars d)
  rw [count_lineChars, hline, hs] at hlength
  simpa using hlength

private theorem split_join_line (ds : List Device) :
    split '\n' (String.join (ds.map line)).toList = ds.flatMap (split '\n' ∘ lineChars) ++ [[]] := by
  rw [String.toList_join]
  induction ds with
  | nil => rfl
  | cons d ds ih =>
    simp only [List.map_cons, List.flatMap_cons, toList_line, List.append_assoc, List.singleton_append,
      split_append, ih, Function.comp_apply]

private theorem count_join_line (ds : List Device) :
    (String.join (ds.map line)).toList.count '\n' =
      ds.length + (ds.flatMap shownChars).count '\n' := by
  rw [String.toList_join]
  induction ds with
  | nil => rfl
  | cons d ds ih =>
    have hline : (line d).toList.count '\n' = (shownChars d).count '\n' + 1 := by
      rw [toList_line, List.count_append, count_lineChars]
      rfl
    simp only [List.map_cons, List.flatMap_cons, List.count_append, List.length_cons, hline, ih]
    omega

/-- The lines of a report are those of its devices, one after the other, and an empty rest.  There is one
line for each device exactly if no text of a device holds a line feed. -/
theorem lines_per_device (count : Nat) {ds : List Device} (h : ∀ d ∈ ds, d.isWritable) :
    ∃ text, (Renderer.mk .lines count).text ds = .ok text ∧
      split '\n' text.toList = ds.flatMap (split '\n' ∘ lineChars) ++ [[]] ∧
      (∀ d ∈ ds, ∃ rest others, split '\n' (lineChars d) = (lineStart d ++ rest) :: others ∧
        others.length = (shownChars d).count '\n') ∧
      ((split '\n' text.toList).length = ds.length + 1 ↔ ∀ d ∈ ds, '\n' ∉ shownChars d) := by
  refine ⟨String.join (ds.map line), Renderer.text_of_lines h, split_join_line ds,
    fun d _ => split_lineChars d, ?_⟩
  rw [length_split, count_join_line, Nat.add_right_comm, Nat.add_eq_left, List.count_eq_zero,
    List.mem_flatMap]
  simp

/-- A description sent by an agent adds a line that tells of a device nobody found. -/
theorem lines_per_device_forged :
    let found : Device := ⟨.snmp, "snmp-ups", "10.0.0.1", [("desc", .text "UPS\nUSB:driver=usbhid-ups")]⟩
    (∀ d ∈ [found], d.isWritable) ∧
    ∃ text, (Renderer.mk .lines 0).text [found] = .ok text ∧
      (split '\n' text.toList).length ≠ [found].length + 1 ∧
      (split '\n' text.toList)[1]? = some "USB:driver=usbhid-ups\"".toList := by
  intro found
  have h : ∀ d ∈ [found], d.isWritable := by decide
  obtain ⟨text, htext, hsplit, -, hcount⟩ := lines_per_device 0 h
  have hfeed : '\n' ∈ shownChars found := by decide
  refine ⟨h, text, htext, fun hlength => ?_, by rw [hsplit]; decide⟩
  exact hcount.1 hlength found List.mem_cons_self hfeed

end PowerDiscovery.Report
