import PowerDiscovery.Proofs.Settings.Usable

/-! # Settings from documents

A settings file gives the initial settings with what its document says of them.  It can be used if it is
missing, or if its document is a mapping of mappings whose few particular entries are of the kind that they
have to be; any other one gives no settings at all. -/

namespace PowerDiscovery

namespace Value

private theorem offers_orEmpty_iff {document : Value} (h : document.orEmpty.isMapping = true) (name : String)
    (usable : Value → Prop) : document.orEmpty.Offers name usable ↔
      ∀ v, document.find? name = some v → usable v.orEmpty := by
  rw [← find?_orEmpty]
  exact ⟨Offers.usable, fun husable => ⟨isSearchable_of_isMapping h name, husable⟩⟩

end Value

namespace Settings

variable (s : Settings) (v : Value)

/-! ### What sections say -/

def withScan : Settings :=
  { s with
    timeout := (v.find? "timeout").getD s.timeout
    maxConcurrency := (v.find? "max_concurrency").getD s.maxConcurrency
    parallel := .truth ((v.find? "parallel").getD s.parallel).isGiven }

def withNut : Settings :=
  { s with
    nutPort := (v.find? "port").getD .null
    nutConfpath := (v.find? "confpath").getD s.nutConfpath }

def withXml : Settings :=
  { s with
    xmlHttpPort := (v.find? "http_port").getD s.xmlHttpPort
    xmlUdpPort := (v.find? "udp_port").getD s.xmlUdpPort }

/-- Settings with all entries of a section for IPMI, where credentials only complete what is set. -/
def withSession : Settings :=
  { s.withIpmi v with
    ipmiAuthType := (v.find? "auth_type").getD s.ipmiAuthType
    ipmiCipherSuite := (v.find? "cipher_suite_id").getD s.ipmiCipherSuite
    ipmiVersion := .text ((v.find? "version").getD s.ipmiVersion).display }

def withDisplay : Settings :=
  { s with displayMode := ((v.find? "mode").map .given).getD s.displayMode }

def withPaths : Settings :=
  { s with credentialsPath := match v.find? "credentials" with
    | some (.text path) => Location.normal path
    | _ => s.credentialsPath }

/-- Whether a section for IPMI can be used: its version is the one entry that is turned into text. -/
structure IsIpmiSection : Prop where
  mapping : v.isMapping = true
  version : ∀ w, v.find? "version" = some w → w.isWritable = true

structure IsPathSection : Prop where
  searchable : v.isSearchable "credentials" = true
  credentials : ∀ w, v.find? "credentials" = some w → w.isAnyText = true

private theorem takeScan_yields : Yields (s.takeScan v) (v.isMapping = true) (s.withScan v) := by
  refine .congr (.bind (v.entryOr_yields _ _) (.bind (v.entryOr_yields _ _)
    (.map (v.entryOr_yields _ _) _))) ?_
  simp only [and_self]

private theorem takeNut_yields : Yields (s.takeNut v) (v.isMapping = true) (s.withNut v) := by
  refine .congr (.bind (v.entryOr_yields _ _) (.map (v.entryOr_yields _ _) _)) ?_
  simp only [and_self]

private theorem takeXml_yields : Yields (s.takeXml v) (v.isMapping = true) (s.withXml v) := by
  refine .congr (.bind (v.entryOr_yields _ _) (.map (v.entryOr_yields _ _) _)) ?_
  simp only [and_self]

private theorem takeIpmi_yields (hversion : s.ipmiVersion.isWritable = true) :
    Yields (s.takeIpmi v) (IsIpmiSection v) (s.withSession v) := by
  refine .congr (.bind (s.fillIpmi_yields v) (.bind (v.entryOr_yields _ _) (.bind (v.entryOr_yields _ _)
    (.bind (v.entryOr_yields _ _) (.map (Value.written_yields _) _))))) ?_
  constructor
  · rintro ⟨_, hmapping, _, _, hwritable⟩
    refine ⟨hmapping, ?_⟩
    intro w hw
    rw [hw] at hwritable
    exact hwritable
  · rintro ⟨hmapping, hwritable⟩
    refine ⟨.inr hmapping, hmapping, hmapping, hmapping, ?_⟩
    cases hfound : v.find? "version" with
    | none => exact hversion
    | some w => exact hwritable w hfound

private theorem takeDisplay_yields : Yields (s.takeDisplay v) (v.isMapping = true) (s.withDisplay v) :=
  (v.entry?_yields "mode").map _

private theorem takePaths_yields : Yields (s.takePaths v) (IsPathSection v) (s.withPaths v) := by
  have hsection : IsPathSection v ↔ v.isSearchable "credentials" = true ∧
      ∀ w, v.find? "credentials" = some w → w.isAnyText = true :=
    ⟨fun h => ⟨h.searchable, h.credentials⟩, fun h => ⟨h.1, h.2⟩⟩
  refine .congr (.bind (v.section?_yields "credentials") ?_) hsection.symm
  rw [withPaths]
  cases v.find? "credentials" with
  | none => exact (Yields.pure s).congr (iff_of_true trivial nofun)
  | some w =>
    cases w with
    | text path =>
      refine (Yields.pure _).congr (iff_of_true trivial ?_)
      rintro w ⟨⟩
      rfl
    | _ => exact ⟨fun h => absurd (h _ rfl) Bool.false_ne_true, fun _ => ⟨_, rfl⟩⟩

private theorem not_hasSnmp (h : s.snmpCommunity = .null) : ¬ s.HasSnmp := by
  rintro ⟨hcommunity⟩
  rw [h] at hcommunity
  cases hcommunity

/-! ### What documents and files say -/

/-- The initial settings with what a document says of them, section by section. -/
def described (e : Environment) (document : Value) : Settings :=
  let said (name : String) : Value := (document.under name).orEmpty
  let s := (((initial e).withScan (said "scan")).withNut (said "nut")).withXml (said "xml")
  let s := ((s.withSnmp (said "snmp")).withSession (said "ipmi")).withDisplay (said "display")
  { s.withPaths (said "paths") with logLevel := (document.find? "log_level").getD (.text "INFO") }

/-- Whether a document can be used for settings: it is a mapping, and so are its sections, but for that of
paths, where it is enough that the one entry is a text or not to be found. -/
structure IsUsableDocument (document : Value) : Prop where
  mapping : document.orEmpty.isMapping = true
  sections : ∀ name ∈ ["scan", "nut", "xml", "snmp", "display"], ∀ v, document.find? name = some v →
    v.orEmpty.isMapping = true
  ipmi : ∀ v, document.find? "ipmi" = some v → IsIpmiSection v.orEmpty
  paths : ∀ v, document.find? "paths" = some v → IsPathSection v.orEmpty

/-- Whether a settings file can be used: there is none, or one with a document that can be used. -/
def IsUsableFile (files : Files) (path : String) : Prop :=
  match files.find? path with
  | .ok none => True
  | .ok (some (.document (.ok document))) => IsUsableDocument document
  | _ => False

variable (e : Environment) (document : Value)

theorem initial_eq : ∃ confpath, initial e = { nutConfpath := confpath } := by
  unfold initial
  split
  · exact ⟨_, rfl⟩
  · exact ⟨_, rfl⟩

private theorem described_null : described e .null = initial e := by
  obtain ⟨confpath, hinitial⟩ := initial_eq e
  rw [described, hinitial]
  rfl

private theorem isUsableDocument_iff {document : Value} : IsUsableDocument document ↔
    document.orEmpty.Offers "scan" (fun v => v.isMapping = true) ∧
    document.orEmpty.Offers "nut" (fun v => v.isMapping = true) ∧
    document.orEmpty.Offers "xml" (fun v => v.isMapping = true) ∧
    document.orEmpty.Offers "snmp" (fun v => v.isMapping = true) ∧
    document.orEmpty.Offers "ipmi" IsIpmiSection ∧
    document.orEmpty.Offers "display" (fun v => v.isMapping = true) ∧
    document.orEmpty.Offers "paths" IsPathSection ∧ document.orEmpty.isMapping = true := by
  have hplain : document.orEmpty.isMapping = true → ((∀ name ∈ ["scan", "nut", "xml", "snmp", "display"],
      ∀ v, document.find? name = some v → v.orEmpty.isMapping = true) ↔
      ∀ name ∈ ["scan", "nut", "xml", "snmp", "display"],
        document.orEmpty.Offers name fun v => v.isMapping = true) := by
    intro hmapping
    refine forall₂_congr fun name _ => ?_
    exact (Value.offers_orEmpty_iff hmapping name fun v => v.isMapping = true).symm
  simp only [List.forall_mem_cons] at hplain
  constructor
  · rintro ⟨hmapping, hsections, hipmi, hpaths⟩
    simp only [List.forall_mem_cons] at hsections
    obtain ⟨hscan, hnut, hxml, hsnmp, hdisplay, _⟩ := (hplain hmapping).mp hsections
    exact ⟨hscan, hnut, hxml, hsnmp, (Value.offers_orEmpty_iff hmapping _ _).mpr hipmi, hdisplay,
      (Value.offers_orEmpty_iff hmapping _ _).mpr hpaths, hmapping⟩
  · rintro ⟨hscan, hnut, hxml, hsnmp, hipmi, hdisplay, hpaths, hmapping⟩
    refine ⟨hmapping, ?_, (Value.offers_orEmpty_iff hmapping _ _).mp hipmi,
      (Value.offers_orEmpty_iff hmapping _ _).mp hpaths⟩
    simp only [List.forall_mem_cons]
    exact (hplain hmapping).mpr ⟨hscan, hnut, hxml, hsnmp, hdisplay, nofun⟩

private theorem takeSection_yields_said (name : String) {take : Settings → Value → Except Fault Settings}
    {usable : Value → Prop} {taken : Value → Settings} (hempty : taken (.mapping []) = s)
    (htake : ∀ v, Yields (take s v) (usable v) (taken v)) :
    Yields (s.takeSection document.orEmpty name take) (document.orEmpty.Offers name usable)
      (taken (document.under name).orEmpty) := by
  rw [← s.taking_eq document name hempty]
  exact s.takeSection_yields document.orEmpty name htake

private theorem takeLogLevel_yields :
    Yields (do return { s with logLevel := ← document.orEmpty.entryOr "log_level" (.text "INFO") })
      (document.orEmpty.isMapping = true)
      { s with logLevel := (document.find? "log_level").getD (.text "INFO") } := by
  rw [← Value.find?_orEmpty]
  exact (document.orEmpty.entryOr_yields "log_level" (.text "INFO")).map fun level =>
    { s with logLevel := level }

private theorem takeDocument_yields :
    Yields ((initial e).takeDocument document) (IsUsableDocument document) (described e document) := by
  obtain ⟨confpath, hinitial⟩ := initial_eq e
  rw [described, hinitial]
  -- No credential is set before the sections for SNMP and IPMI, so that both are looked at, if they are there.
  exact .congr (.bind (takeSection_yields_said _ document "scan" rfl (takeScan_yields _))
    (.bind (takeSection_yields_said _ document "nut" rfl (takeNut_yields _))
    (.bind (takeSection_yields_said _ document "xml" rfl (takeXml_yields _))
    (.bind (takeSection_yields_said _ document "snmp" rfl fun v =>
      (fillSnmp_yields _ v).congr (or_iff_right (not_hasSnmp _ rfl)))
    (.bind (takeSection_yields_said _ document "ipmi" rfl fun v => takeIpmi_yields _ v rfl)
    (.bind (takeSection_yields_said _ document "display" rfl (takeDisplay_yields _))
    (.bind (takeSection_yields_said _ document "paths" rfl (takePaths_yields _))
    (takeLogLevel_yields _ document)))))))) isUsableDocument_iff.symm

theorem ofFile_yields (files : Files) (path : String) :
    Yields (ofFile e files path).value (IsUsableFile files path)
      (described e ((document? files path).getD .null)) := by
  unfold ofFile IsUsableFile document?
  cases files.find? path with
  | error f => exact ⟨nofun, fun _ => ⟨_, rfl⟩⟩
  | ok entry =>
    rcases entry with _ | ⟨_ | ⟨cause | document⟩⟩
    · rw [Option.getD_none, described_null]
      exact ⟨fun _ => rfl, fun h => absurd trivial h⟩
    · exact ⟨nofun, fun _ => ⟨_, rfl⟩⟩
    · refine ⟨nofun, fun _ => ?_⟩
      cases cause <;> exact ⟨_, rfl⟩
    · exact (takeDocument_yields e document).mapError FileError.badValue

end Settings

end PowerDiscovery
