import PowerDiscovery.Report.Layout
import PowerDiscovery.Text.Split

/-! # The characters of a report

A line and a section are laid out from the same fields; each field is a name and a quoted value. -/

namespace PowerDiscovery.Report

open Text

/-- The fields of a device; the driver and the port come first. -/
def fields (d : Device) : List (String × String) :=
  ("driver", d.driver) :: ("port", d.port) :: d.options.map fun (name, value) => (name, value.display)

/-! ## Lines -/

def fieldChars (f : String × String) : List Char := f.1.toList ++ '=' :: quote f.2.toList

def lineChars (d : Device) : List Char :=
  d.backend.displayName.toList ++ ':' :: join ',' ((fields d).map fieldChars)

theorem toList_line (d : Device) : (line d).toList = lineChars d ++ ['\n'] := by
  simp [line, lineChars, String.toList_intercalate, join_eq_intercalate, fields, fieldChars, quoted,
    field, toString, Function.comp_def]

theorem displayName_plain (b : Backend) :
    ':' ∉ b.displayName.toList ∧ '\n' ∉ b.displayName.toList := by
  cases b <;> decide

/-! ## Sections -/

def assignmentChars (f : String × String) : List Char :=
  '\t' :: (f.1.toList ++ ' ' :: '=' :: ' ' :: (quote f.2.toList ++ ['\n']))

theorem toList_sectionText (name : String) (d : Device) :
    (sectionText name d).toList =
      '[' :: (name.toList ++ ']' :: '\n' :: ((fields d).flatMap assignmentChars ++ ['\n'])) := by
  let assignment (f : String × String) : List Char :=
    '\t' :: (f.1.toList ++ ' ' :: '=' :: ' ' :: quote f.2.toList)
  have hlines : (sectionText name d).toList =
      join '\n' (('[' :: (name.toList ++ [']'])) :: (fields d).map assignment) ++ ['\n'] ++ ['\n'] := by
    simp [sectionText, String.toList_intercalate, join_eq_intercalate, fields, assignment, quoted, field,
      toString, Function.comp_def]
  have hassignment (f : String × String) : assignment f ++ ['\n'] = assignmentChars f := by
    simp [assignment, assignmentChars]
  rw [hlines, join_concat _ (List.cons_ne_nil _ _)]
  simp [List.flatMap_map, hassignment]

theorem toList_sectionName (n : Nat) : (sectionName n).toList = "nutdev".toList ++ Nat.toDigits 10 n := by
  simp [sectionName, toString]

theorem bracket_not_mem_sectionName (n : Nat) : ']' ∉ (sectionName n).toList := by
  rw [toList_sectionName, List.mem_append, not_or]
  refine ⟨by decide, fun h => ?_⟩
  exact absurd (Nat.isDigit_of_mem_toDigits (by decide) (by decide) h) (by decide)

theorem numbered_append (first : Nat) (ds ds' : List Device) :
    numbered first (ds ++ ds') = numbered first ds ++ numbered (first + ds.length) ds' := by
  induction ds generalizing first with
  | nil => simp [numbered]
  | cons d ds ih => simp [numbered, ih, Nat.add_assoc, Nat.add_comm 1]

theorem numbered_eq_zipIdx (first : Nat) (ds : List Device) :
    numbered first ds = (ds.zipIdx first).map fun (d, n) => (sectionName n, d) := by
  induction ds generalizing first with
  | nil => rfl
  | cons d ds ih => simp [numbered, ih]

end PowerDiscovery.Report
