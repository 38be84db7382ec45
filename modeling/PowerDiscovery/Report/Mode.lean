import PowerDiscovery.Text.Literal

/-! # Display modes

How found devices are displayed: as sections of a driver configuration, with or without a check of
their serial numbers, or as one line for each device. -/

namespace PowerDiscovery

inductive DisplayMode where
  | sectionsChecked
  | sections
  | lines
deriving DecidableEq, Repr

namespace DisplayMode

def all : List DisplayMode := [sectionsChecked, sections, lines]

def name : DisplayMode → String
  | sectionsChecked => "ups_conf_sanity"
  | sections => "ups_conf"
  | lines => "parsable"

def ofName? (s : String) : Option DisplayMode :=
  all.find? fun m => m.name == s

def unknownMessage (shown : String) : String :=
  shown ++ " is not a valid DisplayMode"

theorem ofName?_name (m : DisplayMode) : ofName? m.name = some m := by
  cases m <;> decide

theorem ofName?_eq_some {s : String} {m : DisplayMode} : ofName? s = some m ↔ s = m.name := by
  constructor
  · intro h
    have hname := List.find?_some h
    exact (beq_iff_eq.mp hname).symm
  · rintro rfl
    exact ofName?_name m

end DisplayMode

end PowerDiscovery
