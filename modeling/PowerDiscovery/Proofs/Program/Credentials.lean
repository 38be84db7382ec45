import PowerDiscovery.Proofs.Program.Slots
import PowerDiscovery.Proofs.Settings.Loading

/-! # Credentials of a run

A credential that an engine is handed comes from the command line, or else from the settings file, or else
from the file of credentials; the first of these that gives it counts. -/

namespace PowerDiscovery.Program

open CommandLine

/-- A credential in the settings file; null if there is no such file. -/
def inSettingsFile (m : Machine) (a : Arguments) (k : Credential) : Value :=
  match settingsFile? a with
  | some path => k.inDocument ((Settings.document? m.files path).getD .null)
  | none => .null

/-- A credential in the file of credentials that the settings name; null if it cannot be loaded. -/
def inCredentialsFile (m : Machine) (base : Settings) (k : Credential) : Value :=
  k.inDocument ((Settings.document? m.files base.credentialsPath).getD .null)

variable {m : Machine} (k : Credential)

private theorem baseSettings_credential {a : Arguments} {base : Settings}
    (h : (baseSettings m a).value = .ok base) : k.setting base = inSettingsFile m a k := by
  rcases baseSettings_eq_ok h with ⟨hpath, rfl⟩ | ⟨path, hpath, hfile⟩
  · have henvironment : k.setting (Settings.ofEnvironment m.environment).value =
        k.setting (Settings.initial m.environment) := by
      cases k <;> rfl
    simp only [inSettingsFile, hpath, henvironment, k.setting_initial]
  simp only [inSettingsFile, hpath]
  rw [((Settings.ofFile_yields _ _ _).of_ok hfile).2, k.setting_described]

/-- Credentials that are settled come from the command line or are set, and are completed from the file of
credentials. -/
private theorem settle_credential {given : List Given} {base settings : Settings}
    (h : (settle m (.ofGiven given) base).run.value = .ok settings) :
    let set := ((lastValue? given k.flag).getD .null).orSetting (k.setting base)
    k.setting settings = set ∧ (inCredentialsFile m base k).isGiven = false ∨
      k.setting settings = set.orElse (inCredentialsFile m base k) := by
  obtain ⟨done, warnings, hdone, hchecked⟩ := settle_eq_ok h
  have hloaded := k.setting_loadCredentials hdone
  rw [(Settings.apply_kept base (.ofGiven given)).2, k.setting_apply_ofGiven] at hloaded
  rw [k.setting_validate hchecked]
  exact hloaded

/-- A value that is set stays if it counts as given; else the one that was loaded takes its place. -/
private theorem completed_cases {v set loaded : Value}
    (h : v = set ∧ loaded.isGiven = false ∨ v = set.orElse loaded) :
    (set.isGiven = true → v = set) ∧
      (set.isGiven = false → loaded.isGiven = true → v = loaded) ∧
      (set.isGiven = false → loaded.isGiven = false → v.isGiven = false ∧ (v = set ∨ v = loaded)) := by
  refine ⟨?_, ?_, ?_⟩
  · intro hset
    rcases h with ⟨hv, _⟩ | hv
    · exact hv
    · exact hv.trans (if_pos hset)
  · intro hset hloaded
    rcases h with ⟨_, hnone⟩ | hv
    · rw [hnone] at hloaded
      cases hloaded
    · rw [hv, Value.orElse, hset]
      rfl
  · intro hset hloaded
    rcases h with ⟨hv, _⟩ | hv
    · exact ⟨hv ▸ hset, .inl hv⟩
    · rw [Value.orElse, hset, if_neg Bool.false_ne_true] at hv
      exact ⟨hv ▸ hloaded, .inr hv⟩

/-- A credential that an engine is handed is the one that was given last on the command line, if it was
given there; else the one in the settings file, if this is a value that counts as given; else the one in
the file of credentials.  If none of them is there, nothing else stands in for it. -/
theorem credential_handed (m : Machine) (words : List String) (c : Course)
    (h : course? m words = some c) (k : Credential)
    (hwords : ∀ v, lastValue? c.given k.flag = some v → ∃ t, v = .text t ∧ t ≠ "") :
    let v := k.handed (c.plan.settings.optionsFor k.backend)
    let inSettings := inSettingsFile m c.arguments k
    let inCredentials := inCredentialsFile m c.base k
    (∀ installed r, Event.request installed r ∈ (run m words).events → r.backend = k.backend →
      k.handed r.options = v) ∧
    match lastValue? c.given k.flag with
    | some w => v = w
    | none =>
      (inSettings.isGiven = true → v = inSettings) ∧
      (inSettings.isGiven = false → inCredentials.isGiven = true → v = inCredentials) ∧
      (inSettings.isGiven = false → inCredentials.isGiven = false →
        v.isGiven = false ∧ (v = inSettings ∨ v = inCredentials)) := by
  have hleads := course?_eq_some h
  obtain ⟨settings, budget, registry, _, hsettings, _, _, hplan, _⟩ := arrange_eq_ok hleads.arranged
  have hvalue : k.handed (c.plan.settings.optionsFor k.backend) = k.setting settings := by
    rw [hplan, k.handed_optionsFor]
  have hset := settle_credential k hsettings
  rw [baseSettings_credential k hleads.base] at hset
  refine ⟨?_, ?_⟩
  · intro installed r hr hbackend
    rw [(hleads.request hr).2, hbackend]
  rw [hvalue]
  cases hlast : lastValue? c.given k.flag with
  | some w =>
    obtain ⟨t, rfl, ht⟩ := hwords w hlast
    have hgiven : (Value.text t).isGiven = true := by simp [Value.isGiven, ht]
    rw [hlast, Option.getD_some] at hset
    exact (completed_cases hset).1 hgiven
  | none =>
    rw [hlast, Option.getD_none] at hset
    exact completed_cases hset

private def settingsDocument : Value := .mapping [
  ("snmp", .mapping [("community", .text "private")]),
  ("paths", .mapping [("credentials", .text "/keys")])]

private def credentialsDocument : Value := .mapping [
  ("snmp", .mapping [("community", .text "public")]),
  ("ipmi", .mapping [("username", .text "root"), ("password", .text "secret")])]

/-- A machine with a settings file and a file of credentials. -/
private def withKeys : Machine :=
  { files := fun path =>
      some (.document (.ok (if path = "/keys" then credentialsDocument else settingsDocument)))
    engines := fun _ => { isAvailable := true, scan := fun _ _ _ _ _ => return none } }

/-- Words that ask for two backends at one address, with one of their credentials. -/
private def askedWithName : List String :=
  ["--config", "/settings", "-b", "admin", "-I", "-S", "-s", "10.0.0.1"]

theorem credential_handed_withKeys :
    (∃ installed r, Event.request installed r ∈ (run withKeys askedWithName).events ∧ r.backend = .ipmi ∧
      Credential.username.handed r.options = .text "admin" ∧
      Credential.password.handed r.options = .text "secret") ∧
    ∃ installed r, Event.request installed r ∈ (run withKeys askedWithName).events ∧ r.backend = .snmp ∧
      Credential.community.handed r.options = .text "private" := by
  obtain ⟨c, hc, hgiven, hpath⟩ : ∃ c, course? withKeys askedWithName = some c ∧
      c.given = [⟨.config, .text "/settings"⟩, ⟨.username, .text "admin"⟩, ⟨.ipmiScan, .null⟩,
        ⟨.snmpScan, .null⟩, ⟨.startIp, .text "10.0.0.1"⟩] ∧
      c.base.credentialsPath = "/keys" := ⟨_, rfl, rfl, rfl⟩
  obtain ⟨i, atIpmi, hipmi, hbackend⟩ : ∃ installed r,
      Event.request installed r ∈ (run withKeys askedWithName).events ∧ r.backend = .ipmi :=
    ⟨_, _, List.mem_of_getElem? (i := 4) rfl, rfl⟩
  obtain ⟨j, atSnmp, hsnmp, hbackend'⟩ : ∃ installed r,
      Event.request installed r ∈ (run withKeys askedWithName).events ∧ r.backend = .snmp :=
    ⟨_, _, List.mem_of_getElem? (i := 3) rfl, rfl⟩
  have hargument : ∀ k v, lastValue? c.given (Credential.flag k) = some v → ∃ t, v = .text t ∧ t ≠ "" := by
    intro k v hv
    rw [hgiven] at hv
    cases k <;> cases hv
    exact ⟨"admin", rfl, by decide⟩
  have hhanded := fun k => credential_handed withKeys _ c hc k (hargument k)
  refine ⟨⟨i, atIpmi, hipmi, hbackend, ?_, ?_⟩, j, atSnmp, hsnmp, hbackend', ?_⟩
  · obtain ⟨hasked, husername⟩ := hhanded .username
    rw [hgiven] at husername
    exact (hasked i atIpmi hipmi hbackend).trans husername
  · obtain ⟨hasked, hpassword⟩ := hhanded .password
    rw [hgiven] at hpassword
    simp only [Course.arguments, hgiven, inCredentialsFile, hpath] at hpassword
    exact (hasked i atIpmi hipmi hbackend).trans (hpassword.2.1 rfl rfl)
  · obtain ⟨hasked, hcommunity⟩ := hhanded .community
    rw [hgiven] at hcommunity
    simp only [Course.arguments, hgiven] at hcommunity
    exact (hasked j atSnmp hsnmp hbackend').trans (hcommunity.1 rfl)

/-- A credential from the command line is settled as it is if it counts as given; else it becomes what the
file of credentials offers, if that offers any. -/
private theorem settle_set_credential {given : List Given} {base settings : Settings} {w : Value}
    (h : (settle m (.ofGiven given) base).run.value = .ok settings)
    (hread : ∀ g ∈ given, g.IsRead) (hw : lastValue? given k.flag = some w) :
    k.setting settings =
      if w.isGiven then w else (k.offeredBy? m.files base.credentialsPath).getD w := by
  obtain ⟨done, warnings, hdone, hchecked⟩ := settle_eq_ok h
  have hoperand : k.flag.operand ≠ .none := by cases k <;> decide
  have hset : k.setting (base.apply (.ofGiven given)).value = w := by
    have hnull := (hread _ (mem_of_lastValue? hw)).isNull hoperand
    rw [k.setting_apply_ofGiven, hw, Option.getD_some, Value.orSetting, hnull]
    rfl
  rw [k.setting_validate hchecked, k.setting_loaded_ok hdone, (Settings.apply_kept base _).2, hset]

/-- A credential that is set survives the file of credentials if its value counts as given.  One that does
not, such as an empty text, gives way to what the file offers in its place, and be it null, as soon as the
file has a section for its backend.  So an engine is handed a credential of the command line in the first
case, and in the second one only if there is no such section. -/
theorem set_credential_kept (m : Machine) (k : Credential) :
    (∀ s : Settings,
      let v := k.setting s
      let loaded := (s.loadCredentials m.files).value
      let v' := k.setting loaded.settings
      (v.isGiven = true → v' = v) ∧
      (v' = v ∨ k.offeredBy? m.files s.credentialsPath = some v') ∧
      ∀ done, loaded.outcome = .ok done →
        v' = if v.isGiven then v else (k.offeredBy? m.files s.credentialsPath).getD v) ∧
    ∀ words c w, course? m words = some c → lastValue? c.given k.flag = some w →
      let v := k.handed (c.plan.settings.optionsFor k.backend)
      (∀ installed r, Event.request installed r ∈ (run m words).events → r.backend = k.backend →
        k.handed r.options = v) ∧
      v = if w.isGiven then w else (k.offeredBy? m.files c.base.credentialsPath).getD w := by
  constructor
  · intro s v loaded v'
    have hloaded : v' = v ∨ v.isGiven = false ∧ k.offeredBy? m.files s.credentialsPath = some v' :=
      k.setting_loaded s m.files
    refine ⟨?_, ?_, fun done hdone => k.setting_loaded_ok hdone⟩
    · intro hgiven
      rcases hloaded with hkept | ⟨hnothing, _⟩
      · exact hkept
      · rw [hgiven] at hnothing
        cases hnothing
    · exact hloaded.imp_right And.right
  · intro words c w hc hw v
    have hleads := course?_eq_some hc
    obtain ⟨settings, budget, registry, _, hsettings, _, _, hplan, _⟩ := arrange_eq_ok hleads.arranged
    refine ⟨?_, ?_⟩
    · intro installed r hr hbackend
      rw [(hleads.request hr).2, hbackend]
    · have hvalue : v = k.setting settings := by
        simp only [v, hplan, k.handed_optionsFor]
      rw [hvalue]
      exact settle_set_credential k hsettings (readOptions_read hleads.read) hw

/-- An empty word for the password of a controller gives way to the password in the file. -/
theorem set_credential_kept_emptyWord :
    ∃ c, course? withKeys ["--config", "/settings", "-B", ""] = some c ∧
      lastValue? c.given .password = some (.text "") ∧
      Credential.password.handed (c.plan.settings.optionsFor .ipmi) = .text "secret" := by
  obtain ⟨c, hc, hgiven, hpath⟩ : ∃ c,
      course? withKeys ["--config", "/settings", "-B", ""] = some c ∧
      c.given = [⟨.config, .text "/settings"⟩, ⟨.password, .text ""⟩] ∧
      c.base.credentialsPath = "/keys" := ⟨_, rfl, rfl, rfl⟩
  have hlast : lastValue? c.given .password = some (.text "") := by
    rw [hgiven]
    rfl
  have hhanded := ((set_credential_kept withKeys .password).2 _ c _ hc hlast).2
  rw [hpath] at hhanded
  exact ⟨c, hc, hlast, hhanded⟩

end PowerDiscovery.Program
