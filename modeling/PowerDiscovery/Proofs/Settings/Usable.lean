import PowerDiscovery.Proofs.Settings.Stages

/-! # Documents that can be used

Entries are read from a mapping and from nothing else.  A list or a text can at most be searched for a key
that it does not hold.  So it depends on the kinds of a few values whether a section can be taken. -/

namespace PowerDiscovery

namespace Value

def isMapping : Value → Bool
  | .mapping _ => true
  | _ => false

def isAnyText : Value → Bool
  | .text _ => true
  | _ => false

/-- The entry of a mapping under a key, if there is one. -/
def find? (v : Value) (key : String) : Option Value :=
  match v with
  | .mapping entries => lookup? entries key
  | _ => none

def isSearchable (v : Value) (key : String) : Bool :=
  match v with
  | .mapping _ => true
  | .list items => !items.any (·.isText key)
  | .text s => !Text.occursIn key.toList s.toList
  | _ => false

/-- Whether a document can be searched for a section, and has one only if it can be used. -/
structure Offers (document : Value) (name : String) (usable : Value → Prop) : Prop where
  searchable : document.isSearchable name = true
  usable : ∀ v, document.find? name = some v → usable v.orEmpty

theorem under_eq (v : Value) (key : String) : v.under key = (v.find? key).getD .null := by
  cases v <;> rfl

private theorem orEmpty_of_not_given {v : Value} (h : v.isGiven = false) : v.orEmpty = .mapping [] := by
  rw [orEmpty, h]
  rfl

private theorem orEmpty_of_given {v : Value} (h : v.isGiven = true) : v.orEmpty = v :=
  if_pos h

theorem find?_orEmpty (v : Value) (key : String) : v.orEmpty.find? key = v.find? key := by
  cases hgiven : v.isGiven with
  | true => rw [orEmpty_of_given hgiven]
  | false =>
    rw [orEmpty_of_not_given hgiven]
    cases v with
    | mapping entries =>
      cases entries with
      | nil => rfl
      | cons entry entries => cases hgiven
    | _ => rfl

theorem under_orEmpty (v : Value) (key : String) : v.orEmpty.under key = v.under key := by
  rw [under_eq, under_eq, find?_orEmpty]

theorem isSearchable_of_isMapping {v : Value} (h : v.isMapping = true) (key : String) :
    v.isSearchable key = true := by
  cases v <;> first | rfl | cases h

theorem section?_yields (v : Value) (key : String) :
    Yields (v.section? key) (v.isSearchable key = true) (v.find? key) := by
  cases v with
  | mapping entries => exact ⟨fun _ => rfl, fun h => absurd rfl h⟩
  | list items => exact .reject _ none _
  | text s => exact .reject _ none _
  | _ => exact ⟨nofun, fun _ => ⟨_, rfl⟩⟩

theorem entry?_yields (v : Value) (key : String) :
    Yields (v.entry? key) (v.isMapping = true) (v.find? key) := by
  cases v with
  | mapping entries => exact ⟨fun _ => rfl, fun h => absurd rfl h⟩
  | _ => exact ⟨nofun, fun _ => ⟨_, rfl⟩⟩

theorem entryOr_yields (v : Value) (key : String) (default : Value) :
    Yields (v.entryOr key default) (v.isMapping = true) ((v.find? key).getD default) :=
  (v.entry?_yields key).map fun found => found.getD default

private theorem orEntry_yields (v mapping : Value) (key : String) :
    Yields (v.orEntry mapping key) (v.isGiven = true ∨ mapping.isMapping = true)
      (v.orElse (mapping.under key)) := by
  unfold orEntry orElse
  split
  · rename_i hgiven
    exact ⟨fun _ => rfl, fun h => absurd (.inl hgiven) h⟩
  · rename_i hgiven
    rw [under_eq]
    exact (mapping.entryOr_yields key .null).congr (by rw [or_iff_right hgiven])

theorem written_yields (v : Value) : Yields v.written (v.isWritable = true) v.display :=
  .accept _ _ _

end Value

namespace Settings

variable (s : Settings) (v : Value)

structure HasSnmp : Prop where
  community : s.snmpCommunity.isGiven = true
  secLevel : s.snmpSecLevel.isGiven = true
  secName : s.snmpSecName.isGiven = true
  authPassword : s.snmpAuthPassword.isGiven = true
  privPassword : s.snmpPrivPassword.isGiven = true
  authProtocol : s.snmpAuthProtocol.isGiven = true
  privProtocol : s.snmpPrivProtocol.isGiven = true

structure HasIpmi : Prop where
  username : s.ipmiUsername.isGiven = true
  password : s.ipmiPassword.isGiven = true

theorem fillSnmp_yields : Yields (s.fillSnmp v) (s.HasSnmp ∨ v.isMapping = true) (s.withSnmp v) := by
  have hfilled := fun (w : Value) (key : String) => w.orEntry_yields v key
  refine .congr (.bind (hfilled _ _) (.bind (hfilled _ _) (.bind (hfilled _ _) (.bind (hfilled _ _)
    (.bind (hfilled _ _) (.bind (hfilled _ _) (.map (hfilled _ _) _))))))) ?_
  constructor
  · grind [HasSnmp]
  · grind [HasSnmp]

theorem fillIpmi_yields : Yields (s.fillIpmi v) (s.HasIpmi ∨ v.isMapping = true) (s.withIpmi v) := by
  refine .congr (.bind (Value.orEntry_yields _ v _) (.map (Value.orEntry_yields _ v _) _)) ?_
  grind [HasIpmi]

/-- The settings after a section was taken, if a document has it. -/
def taking (document : Value) (name : String) (taken : Value → Settings) : Settings :=
  ((document.find? name).map fun v => taken v.orEmpty).getD s

theorem taking_eq (document : Value) (name : String) {taken : Value → Settings}
    (hempty : taken (.mapping []) = s) :
    s.taking document.orEmpty name taken = taken (document.under name).orEmpty := by
  rw [taking, Value.find?_orEmpty, Value.under_eq]
  cases document.find? name with
  | none => exact hempty.symm
  | some v => rfl

theorem taking_keeps {α : Type} (part : Settings → α) (document : Value) (name : String)
    {taken : Value → Settings} (htaken : ∀ v, part (taken v) = part s) :
    part (s.taking document name taken) = part s := by
  unfold taking
  cases document.find? name with
  | none => rfl
  | some v => exact htaken v.orEmpty

theorem takeSection_yields (document : Value) (name : String)
    {take : Settings → Value → Except Fault Settings} {usable : Value → Prop} {taken : Value → Settings}
    (htake : ∀ v, Yields (take s v) (usable v) (taken v)) :
    Yields (s.takeSection document name take) (document.Offers name usable)
      (s.taking document name taken) := by
  have hoffers : document.Offers name usable ↔ document.isSearchable name = true ∧
      ∀ v, document.find? name = some v → usable v.orEmpty :=
    ⟨fun h => ⟨h.searchable, h.usable⟩, fun h => ⟨h.1, h.2⟩⟩
  refine .congr (.bind (document.section?_yields name) ?_) hoffers.symm
  rw [taking]
  cases document.find? name with
  | none => exact (Yields.pure s).congr (iff_of_true trivial nofun)
  | some v =>
    refine (htake v.orEmpty).congr ⟨?_, ?_⟩
    · rintro husable v' ⟨⟩
      exact husable
    · intro h
      exact h v rfl

end Settings

end PowerDiscovery
