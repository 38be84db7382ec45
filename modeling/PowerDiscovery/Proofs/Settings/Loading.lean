import PowerDiscovery.Proofs.Settings.Credentials
import PowerDiscovery.Proofs.Settings.Usable

/-! # Loading credentials

A file of credentials that is missing or no document is passed over.  A document completes the settings if
both of its sections can be used.  Otherwise loading fails, and if only the second section is to blame, what
the first one has filled in stays. -/

namespace PowerDiscovery

namespace Settings

variable (s : Settings) (document : Value) (files : Files)

def OffersSnmp : Prop := document.orEmpty.Offers "snmp" fun v => s.HasSnmp ∨ v.isMapping = true

def OffersIpmi : Prop := document.orEmpty.Offers "ipmi" fun v => s.HasIpmi ∨ v.isMapping = true

/-- Settings with their credentials for SNMP completed from a document, and below those for IPMI too. -/
def completedSnmp : Settings := s.taking document.orEmpty "snmp" s.withSnmp

def completed : Settings :=
  (s.completedSnmp document).taking document.orEmpty "ipmi" (s.completedSnmp document).withIpmi

/-- Whether loading comes to its end: the place of the file can be looked at, and what is there is no
document at all or one that can be taken. -/
def IsLoadable : Prop :=
  match files.find? s.credentialsPath with
  | .error _ | .ok (some (.document (.error (.badNumeral _)))) => False
  | .ok (some (.document (.ok document))) => s.OffersSnmp document ∧ s.OffersIpmi document
  | _ => True

inductive Takes : Loaded → Prop where
  | refused (f : Fault) (h : ¬ s.OffersSnmp document) : Takes ⟨s, .error f⟩
  | brokenOff (f : Fault) (hsnmp : s.OffersSnmp document) (h : ¬ s.OffersIpmi document) :
    Takes ⟨s.completedSnmp document, .error f⟩
  | whole (hsnmp : s.OffersSnmp document) (hipmi : s.OffersIpmi document) :
    Takes ⟨s.completed document, .ok true⟩

inductive Loads : Loaded → Prop where
  | passedOver (hnone : document? files s.credentialsPath = none) (h : s.IsLoadable files) :
    Loads ⟨s, .ok false⟩
  | failed (f : Fault) (hnone : document? files s.credentialsPath = none) (h : ¬ s.IsLoadable files) :
    Loads ⟨s, .error f⟩
  | read (document : Value) (hsome : document? files s.credentialsPath = some document)
    (h : s.IsLoadable files ↔ s.OffersSnmp document ∧ s.OffersIpmi document) {loaded : Loaded}
    (htaken : s.Takes document loaded) : Loads loaded

private theorem completedSnmp_keeps {α : Type} (part : Settings → α) (hpart : ∀ v, part (s.withSnmp v) = part s) :
    part (s.completedSnmp document) = part s :=
  s.taking_keeps part document.orEmpty "snmp" hpart

private theorem completed_keeps {α : Type} (part : Settings → α)
    (hsnmp : ∀ (s : Settings) v, part (s.withSnmp v) = part s)
    (hipmi : ∀ (s : Settings) v, part (s.withIpmi v) = part s) :
    part (s.completed document) = part s :=
  ((s.completedSnmp document).taking_keeps part document.orEmpty "ipmi" (hipmi _)).trans
    (s.completedSnmp_keeps document part (hsnmp s))

private theorem hasIpmi_completedSnmp : (s.completedSnmp document).HasIpmi ↔ s.HasIpmi := by
  have husername := s.completedSnmp_keeps document ipmiUsername fun _ => rfl
  have hpassword := s.completedSnmp_keeps document ipmiPassword fun _ => rfl
  constructor
  · rintro ⟨hname, hword⟩
    exact ⟨husername ▸ hname, hpassword ▸ hword⟩
  · rintro ⟨hname, hword⟩
    exact ⟨husername.symm ▸ hname, hpassword.symm ▸ hword⟩

private theorem takeCredentials_takes : s.Takes document (s.takeCredentials document) := by
  have hsnmp := s.takeSection_yields document.orEmpty "snmp" s.fillSnmp_yields
  have hipmi := (s.completedSnmp document).takeSection_yields document.orEmpty "ipmi"
    (s.completedSnmp document).fillIpmi_yields
  rw [hasIpmi_completedSnmp] at hipmi
  simp only [takeCredentials]
  by_cases hoffered : s.OffersSnmp document
  · have htaken : s.takeSection document.orEmpty "snmp" fillSnmp = .ok (s.completedSnmp document) :=
      hsnmp.ok hoffered
    by_cases hwhole : s.OffersIpmi document
    · simp only [htaken, hipmi.ok hwhole]
      exact .whole hoffered hwhole
    · obtain ⟨f, hf⟩ := hipmi.error hwhole
      simp only [htaken, hf]
      exact .brokenOff f hoffered hwhole
  · obtain ⟨f, hf⟩ := hsnmp.error hoffered
    simp only [hf]
    exact .refused f hoffered

private theorem loadCredentials_loads : s.Loads files (s.loadCredentials files).value := by
  unfold loadCredentials
  cases hfind : files.find? s.credentialsPath with
  | error f =>
    have hnone : document? files s.credentialsPath = none := by simp only [document?, hfind]
    exact .failed f hnone (by simp only [IsLoadable, hfind, not_false_eq_true])
  | ok entry =>
    rcases entry with _ | ⟨_ | ⟨cause | document⟩⟩
    · have hnone : document? files s.credentialsPath = none := by simp only [document?, hfind]
      exact .passedOver hnone (by simp only [IsLoadable, hfind])
    · have hnone : document? files s.credentialsPath = none := by simp only [document?, hfind]
      exact .passedOver hnone (by simp only [IsLoadable, hfind])
    · have hnone : document? files s.credentialsPath = none := by simp only [document?, hfind]
      cases cause with
      | badNumeral cause => exact .failed _ hnone (by simp only [IsLoadable, hfind, not_false_eq_true])
      | _ => exact .passedOver hnone (by simp only [IsLoadable, hfind])
    · have hsome : document? files s.credentialsPath = some document := by simp only [document?, hfind]
      refine .read document hsome (by simp only [IsLoadable, hfind]) ?_
      simp only
      split <;> exact s.takeCredentials_takes document

/-- However loading goes, a part of the settings that has nothing to do with credentials stays as it is. -/
theorem loadCredentials_keeps {α : Type} (part : Settings → α)
    (hsnmp : ∀ (s : Settings) v, part (s.withSnmp v) = part s)
    (hipmi : ∀ (s : Settings) v, part (s.withIpmi v) = part s) :
    part (s.loadCredentials files).value.settings = part s := by
  have hloads := s.loadCredentials_loads files
  generalize (s.loadCredentials files).value = loaded at hloads ⊢
  cases hloads with
  | passedOver | failed => rfl
  | read document _ _ htaken =>
    cases htaken with
    | refused => rfl
    | brokenOff => exact s.completedSnmp_keeps document part (hsnmp s)
    | whole => exact s.completed_keeps document part hsnmp hipmi

/-- Loading credentials comes to its end exactly if the place of the file can be looked at and both
sections of the document there can be used.  A file that is passed over changes nothing, and one that is
loaded completes the settings.  A failure changes nothing either, unless it comes from the second section:
then the settings for SNMP have been completed already.

A document here holds values of the kinds that `Value` has, or is refused for one of the reasons of
`Document.Error`; what comes of dates, octets or sets, or of scalars with a tag that they do not fit, is not
told. -/
theorem loading_ends_iff (s : Settings) (files : Files) :
    let loaded := (s.loadCredentials files).value
    ((∃ done, loaded.outcome = .ok done) ↔ s.IsLoadable files) ∧
    (loaded.outcome = .ok false → loaded.settings = s) ∧
    (loaded.outcome = .ok true → ∃ document, document? files s.credentialsPath = some document ∧
      loaded.settings = s.completed document) ∧
    (∀ f, loaded.outcome = .error f →
      (∀ document, document? files s.credentialsPath = some document → ¬ s.OffersSnmp document) →
      loaded.settings = s) ∧
    (∀ document, document? files s.credentialsPath = some document → s.OffersSnmp document →
      ¬ s.OffersIpmi document → loaded.settings = s.completedSnmp document) := by
  have hloads := s.loadCredentials_loads files
  generalize (s.loadCredentials files).value = loaded at hloads ⊢
  intro loaded
  cases hloads with
  | passedOver hnone h =>
    refine ⟨iff_of_true ⟨false, rfl⟩ h, fun _ => rfl, nofun, nofun, ?_⟩
    intro document hsome
    rw [hnone] at hsome
    cases hsome
  | failed f hnone h =>
    refine ⟨iff_of_false nofun h, nofun, nofun, fun _ _ _ => rfl, ?_⟩
    intro document hsome
    rw [hnone] at hsome
    cases hsome
  | read document hsome h htaken =>
    have hunique : ∀ d, document? files s.credentialsPath = some d → d = document := by
      intro d hd
      exact Option.some.inj (hd.symm.trans hsome)
    cases htaken with
    | refused f hrefused =>
      refine ⟨iff_of_false nofun fun hs => hrefused (h.mp hs).1, nofun, nofun, fun _ _ _ => rfl, ?_⟩
      intro d hd hsnmp
      exact absurd (hunique d hd ▸ hsnmp) hrefused
    | brokenOff f hsnmp hbroken =>
      refine ⟨iff_of_false nofun fun hs => hbroken (h.mp hs).2, nofun, nofun, ?_, ?_⟩
      · intro f hf hnone
        exact absurd hsnmp (hnone document hsome)
      · intro d hd _ _
        rw [hunique d hd]
    | whole hsnmp hipmi =>
      refine ⟨iff_of_true ⟨true, rfl⟩ (h.mpr ⟨hsnmp, hipmi⟩), nofun, ?_, nofun, ?_⟩
      · intro _
        exact ⟨document, hsome, rfl⟩
      · intro d hd _ hbroken
        exact absurd (hunique d hd ▸ hipmi) hbroken

/-- A document with a section for SNMP, where the other section is no mapping. -/
private def halfKeys : Value := .mapping [
  ("snmp", .mapping [("community", .text "private")]), ("ipmi", .text "secret")]

theorem loading_ends_iff_brokenOff :
    let loaded := (({} : Settings).loadCredentials fun _ => some (.document (.ok halfKeys))).value
    (¬ ∃ done, loaded.outcome = .ok done) ∧ loaded.settings.snmpCommunity = .text "private" ∧
      ({} : Settings).snmpCommunity = .null := by
  have hsnmp : ({} : Settings).OffersSnmp halfKeys := by
    refine ⟨rfl, ?_⟩
    rintro v ⟨⟩
    exact .inr rfl
  have hipmi : ¬ ({} : Settings).OffersIpmi halfKeys := by
    intro h
    rcases h.usable _ rfl with hset | hmapping
    · exact absurd hset.username Bool.false_ne_true
    · exact absurd hmapping Bool.false_ne_true
  obtain ⟨hends, _, _, _, hbroken⟩ :=
    loading_ends_iff ({} : Settings) fun _ => some (.document (.ok halfKeys))
  refine ⟨fun h => hipmi (hends.mp h).2, ?_, rfl⟩
  rw [hbroken halfKeys rfl hsnmp hipmi]
  rfl

end Settings

namespace Credential

variable (k : Credential) {s : Settings} (document : Value)

/-- The entry of a credential in a document that has a section for its backend; null if the section does
not have this entry. -/
def offered? : Option Value :=
  (document.find? k.sectionName).map fun v => v.under k.key

/-- A credential as a document completes it: a value that counts as nothing gives way to what the document
offers, be it null. -/
def completed (s : Settings) : Value :=
  if (k.setting s).isGiven then k.setting s else (k.offered? document).getD (k.setting s)

private theorem setting_taking_own {taken : Value → Settings}
    (htaken : ∀ v, k.setting (taken v) = (k.setting s).orElse (v.under k.key)) :
    k.setting (s.taking document.orEmpty k.sectionName taken) = k.completed document s := by
  rw [Settings.taking, Value.find?_orEmpty, completed, offered?]
  cases document.find? k.sectionName with
  | none => exact (ite_self _).symm
  | some v => exact (htaken v.orEmpty).trans (by rw [Value.under_orEmpty]; rfl)

private theorem setting_completedSnmp : k.setting (s.completedSnmp document) =
    if k.backend = .ipmi then k.setting s else k.completed document s := by
  split
  · rename_i hbackend
    exact s.completedSnmp_keeps document k.setting fun v => by rw [setting_withSnmp, if_pos hbackend]
  · rename_i hbackend
    have hsection : "snmp" = k.sectionName := by rw [sectionName, if_neg hbackend]
    rw [Settings.completedSnmp, hsection]
    exact k.setting_taking_own document fun v => by rw [setting_withSnmp, if_neg hbackend]

private theorem setting_completed : k.setting (s.completed document) = k.completed document s := by
  have hsnmp := k.setting_completedSnmp (s := s) document
  unfold Settings.completed
  by_cases hbackend : k.backend = .ipmi
  · rw [if_pos hbackend] at hsnmp
    have hsection : "ipmi" = k.sectionName := by rw [sectionName, if_pos hbackend]
    rw [hsection, completed, ← hsnmp]
    exact k.setting_taking_own document fun v => by rw [setting_withIpmi, if_pos hbackend]
  · rw [if_neg hbackend] at hsnmp
    rw [← hsnmp]
    exact Settings.taking_keeps _ k.setting document.orEmpty "ipmi" fun v => by
      rw [setting_withIpmi, if_neg hbackend]

def offeredBy? (files : Files) (path : String) : Option Value :=
  (Settings.document? files path).bind k.offered?

/-- However loading goes, a credential stays as it is unless its value counts as nothing and the file has
another one to offer. -/
theorem setting_loaded (s : Settings) (files : Files) :
    let v := k.setting (s.loadCredentials files).value.settings
    v = k.setting s ∨
      (k.setting s).isGiven = false ∧ k.offeredBy? files s.credentialsPath = some v := by
  have hcompleted : ∀ document, Settings.document? files s.credentialsPath = some document →
      k.completed document s = k.setting s ∨ (k.setting s).isGiven = false ∧
        k.offeredBy? files s.credentialsPath = some (k.completed document s) := by
    intro document hsome
    rw [offeredBy?, hsome, Option.bind_some, completed]
    cases (k.setting s).isGiven with
    | true => exact .inl rfl
    | false =>
      cases k.offered? document with
      | none => exact .inl rfl
      | some v => exact .inr ⟨rfl, rfl⟩
  have hloads := s.loadCredentials_loads files
  generalize (s.loadCredentials files).value = loaded at hloads ⊢
  cases hloads with
  | passedOver | failed => exact .inl rfl
  | read document hsome h htaken =>
    cases htaken with
    | refused => exact .inl rfl
    | brokenOff f hsnmp hbroken =>
      simp only [setting_completedSnmp]
      split
      · exact .inl rfl
      · exact hcompleted document hsome
    | whole hsnmp hipmi =>
      simp only [setting_completed]
      exact hcompleted document hsome

/-- A file that is loaded or passed over makes a credential what the file offers, unless its value counts
as given. -/
theorem setting_loaded_ok {files : Files} {done : Bool}
    (h : (s.loadCredentials files).value.outcome = .ok done) :
    k.setting (s.loadCredentials files).value.settings =
      if (k.setting s).isGiven then k.setting s
      else (k.offeredBy? files s.credentialsPath).getD (k.setting s) := by
  have hloads := s.loadCredentials_loads files
  generalize (s.loadCredentials files).value = loaded at hloads h ⊢
  cases hloads with
  | passedOver hnone hloadable =>
    rw [offeredBy?, hnone]
    exact (ite_self _).symm
  | failed => cases h
  | read document hsome hloadable htaken =>
    cases htaken with
    | refused | brokenOff => cases h
    | whole hsnmp hipmi =>
      rw [offeredBy?, hsome]
      exact k.setting_completed document

private theorem inDocument_eq : k.inDocument document = (k.offered? document).getD .null := by
  rw [inDocument, offered?, Value.under_eq document]
  cases document.find? k.sectionName <;> rfl

theorem setting_loadCredentials {files : Files} {done : Bool}
    (h : (s.loadCredentials files).value.outcome = .ok done) :
    let loaded := k.inDocument ((Settings.document? files s.credentialsPath).getD .null)
    let v := k.setting (s.loadCredentials files).value.settings
    v = k.setting s ∧ loaded.isGiven = false ∨ v = (k.setting s).orElse loaded := by
  intro loaded v
  have hv : v = if (k.setting s).isGiven then k.setting s
      else (k.offeredBy? files s.credentialsPath).getD (k.setting s) := k.setting_loaded_ok h
  have hloaded : loaded = (k.offeredBy? files s.credentialsPath).getD .null := by
    simp only [loaded, offeredBy?, inDocument_eq]
    cases Settings.document? files s.credentialsPath <;> rfl
  rw [hv, hloaded]
  cases k.offeredBy? files s.credentialsPath with
  | none => exact .inl ⟨ite_self _, rfl⟩
  | some w => exact .inr rfl

end Credential

end PowerDiscovery
