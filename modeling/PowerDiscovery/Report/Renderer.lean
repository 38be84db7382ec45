import PowerDiscovery.Report.Mode
import PowerDiscovery.Report.Serials

/-! # Rendering lists of devices

A renderer writes one list of devices after the other.  The numbers of its sections go on from list to
list, so one renderer serves a whole run. -/

namespace PowerDiscovery

structure Renderer where
  mode : DisplayMode
  count : Nat := 0

namespace Renderer

open Report

def sectionsText (devices : List (String × Device)) : String :=
  String.join (devices.map fun (name, d) => sectionText name d)

def text (r : Renderer) (devices : List Device) : Except Fault String :=
  let named := numbered (r.count + 1) devices
  if !devices.all Device.isWritable then .error .unwritable
  else match r.mode with
    | .lines => .ok (String.join (devices.map line))
    | .sections => .ok (sectionsText named)
    | .sectionsChecked => return sectionsText named ++ (← serialComments named)

def after (r : Renderer) (devices : List Device) : Renderer :=
  { r with count := r.count + devices.length }

def texts (r : Renderer) : List (List Device) → Except Fault (List String)
  | [] => .ok []
  | devices :: lists => do
    let first ← r.text devices
    let others ← (r.after devices).texts lists
    return first :: others

variable {devices : List Device} {count : Nat}

theorem text_of_lines (h : ∀ d ∈ devices, d.isWritable) :
    (mk .lines count).text devices = .ok (String.join (devices.map line)) := by
  have hall : devices.all Device.isWritable = true := List.all_eq_true.2 h
  simp [text, hall]

theorem text_of_sections (h : ∀ d ∈ devices, d.isWritable) :
    (mk .sections count).text devices = .ok (sectionsText (numbered (count + 1) devices)) := by
  have hall : devices.all Device.isWritable = true := List.all_eq_true.2 h
  simp [text, hall]

theorem texts_cons {r : Renderer} {lists : List (List Device)} {first : String} {others : List String}
    (hfirst : r.text devices = .ok first) (hothers : (r.after devices).texts lists = .ok others) :
    r.texts (devices :: lists) = .ok (first :: others) := by
  simp only [texts, hfirst, hothers]
  rfl

end Renderer

end PowerDiscovery
