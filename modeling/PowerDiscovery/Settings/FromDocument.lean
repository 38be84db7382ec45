import PowerDiscovery.Settings.FromEnvironment

/-! # Settings from documents

A settings document is a mapping of sections, and so is a document of credentials, which fills in only
what is not set yet.  Missing sections and entries leave everything as it is.  A document or a section
that counts as nothing is an empty mapping; one of any other kind cannot be used. -/

namespace PowerDiscovery

namespace Value

def orEmpty (v : Value) : Value :=
  if v.isGiven then v else .mapping []

/-- An entry that is asked for by its key, if the value has one.  A list that has the key as an item and
a text that has it as a part seem to have the entry but cannot give it. -/
def section? (v : Value) (key : String) : Except Fault (Option Value) :=
  match v with
  | .mapping entries => .ok (lookup? entries key)
  | .list items => if items.any (·.isText key) then .error (.notIndexable v.kindName) else .ok none
  | .text s =>
    if Text.occursIn key.toList s.toList then .error (.notIndexable v.kindName) else .ok none
  | _ => .error (.notSearchable v.kindName)

def entry? (v : Value) (key : String) : Except Fault (Option Value) :=
  match v with
  | .mapping entries => .ok (lookup? entries key)
  | _ => .error (.lacks v "get")

def entryOr (v : Value) (key : String) (default : Value) : Except Fault Value := do
  return (← v.entry? key).getD default

/-- A value if it is given, or else an entry of a mapping, which is only then looked at. -/
def orEntry (v : Value) (mapping : Value) (key : String) : Except Fault Value :=
  if v.isGiven then .ok v else mapping.entryOr key .null

end Value

namespace Settings

def fillSnmp (s : Settings) (v : Value) : Except Fault Settings := do
  return { s with
    snmpCommunity := ← s.snmpCommunity.orEntry v "community"
    snmpSecLevel := ← s.snmpSecLevel.orEntry v "sec_level"
    snmpSecName := ← s.snmpSecName.orEntry v "sec_name"
    snmpAuthPassword := ← s.snmpAuthPassword.orEntry v "auth_password"
    snmpPrivPassword := ← s.snmpPrivPassword.orEntry v "priv_password"
    snmpAuthProtocol := ← s.snmpAuthProtocol.orEntry v "auth_protocol"
    snmpPrivProtocol := ← s.snmpPrivProtocol.orEntry v "priv_protocol" }

def fillIpmi (s : Settings) (v : Value) : Except Fault Settings := do
  return { s with
    ipmiUsername := ← s.ipmiUsername.orEntry v "username"
    ipmiPassword := ← s.ipmiPassword.orEntry v "password" }

def takeScan (s : Settings) (v : Value) : Except Fault Settings := do
  return { s with
    timeout := ← v.entryOr "timeout" s.timeout
    maxConcurrency := ← v.entryOr "max_concurrency" s.maxConcurrency
    parallel := .truth (← v.entryOr "parallel" s.parallel).isGiven }

def takeNut (s : Settings) (v : Value) : Except Fault Settings := do
  return { s with
    nutPort := ← v.entryOr "port" .null
    nutConfpath := ← v.entryOr "confpath" s.nutConfpath }

def takeXml (s : Settings) (v : Value) : Except Fault Settings := do
  return { s with
    xmlHttpPort := ← v.entryOr "http_port" s.xmlHttpPort
    xmlUdpPort := ← v.entryOr "udp_port" s.xmlUdpPort }

def takeIpmi (s : Settings) (v : Value) : Except Fault Settings := do
  let s ← s.fillIpmi v
  return { s with
    ipmiAuthType := ← v.entryOr "auth_type" s.ipmiAuthType
    ipmiCipherSuite := ← v.entryOr "cipher_suite_id" s.ipmiCipherSuite
    ipmiVersion := .text (← (← v.entryOr "version" s.ipmiVersion).written) }

def takeDisplay (s : Settings) (v : Value) : Except Fault Settings := do
  return { s with displayMode := ((← v.entry? "mode").map .given).getD s.displayMode }

def takePaths (s : Settings) (v : Value) : Except Fault Settings := do
  match ← v.section? "credentials" with
  | none => return s
  | some (.text path) => return { s with credentialsPath := Location.normal path }
  | some other => throw (.notLocation other.kindName)

def takeSection (s : Settings) (document : Value) (name : String)
    (take : Settings → Value → Except Fault Settings) : Except Fault Settings := do
  match ← document.section? name with
  | none => return s
  | some v => take s v.orEmpty

def takeDocument (s : Settings) (document : Value) : Except Fault Settings := do
  let document := document.orEmpty
  let s ← s.takeSection document "scan" takeScan
  let s ← s.takeSection document "nut" takeNut
  let s ← s.takeSection document "xml" takeXml
  let s ← s.takeSection document "snmp" fillSnmp
  let s ← s.takeSection document "ipmi" takeIpmi
  let s ← s.takeSection document "display" takeDisplay
  let s ← s.takeSection document "paths" takePaths
  return { s with logLevel := ← document.entryOr "log_level" (.text "INFO") }

/-- Why a settings file cannot be used: it cannot be opened, it is no document, or a value in it is of a
kind that cannot be used. -/
inductive FileError where
  | notFile (cause : Fault)
  | badDocument (cause : Document.Error)
  | badValue (cause : Fault)

def FileError.message : FileError → String
  | .notFile cause | .badValue cause => cause.message
  | .badDocument cause => cause.message

def ofFile (e : Environment) (files : Files) (path : String) : Logged (Except FileError Settings) :=
  match files.find? path with
  | .error f => return .error (.notFile f)
  | .ok none => do
    Traced.emit (.warning s!"Config file not found: {path}, using defaults")
    return .ok (initial e)
  | .ok (some (.directory _)) => return .error (.notFile (.isDirectory path))
  | .ok (some (.document contents)) => return match contents with
    | .error (.badNumeral cause) => .error (.badValue (.badNumeral cause))
    | .error cause => .error (.badDocument cause)
    | .ok document => ((initial e).takeDocument document).mapError .badValue

/-- The settings after credentials were loaded, and whether they were; or the failure that came up, with
what had been filled in before it. -/
structure Loaded where
  settings : Settings
  outcome : Except Fault Bool

def takeCredentials (s : Settings) (document : Value) : Loaded :=
  let document := document.orEmpty
  match s.takeSection document "snmp" fillSnmp with
  | .error f => ⟨s, .error f⟩
  | .ok filled => match filled.takeSection document "ipmi" fillIpmi with
    | .error f => ⟨filled, .error f⟩
    | .ok full => ⟨full, .ok true⟩

def passOver (s : Settings) (reason : String) : Logged Loaded := do
  Traced.emit (.error s!"Failed to load credentials: {reason}")
  return ⟨s, .ok false⟩

def loadCredentials (s : Settings) (files : Files) : Logged Loaded :=
  match files.find? s.credentialsPath with
  | .error f => return ⟨s, .error f⟩
  | .ok none => do
    Traced.emit (.debug s!"Credentials file not found: {s.credentialsPath}")
    return ⟨s, .ok false⟩
  | .ok (some (.directory _)) => s.passOver (Fault.isDirectory s.credentialsPath).message
  | .ok (some (.document (.error (.badNumeral cause)))) => return ⟨s, .error (.badNumeral cause)⟩
  | .ok (some (.document (.error cause))) => s.passOver cause.message
  | .ok (some (.document (.ok document))) => do
    let loaded := s.takeCredentials document
    if loaded.outcome matches .ok _ then
      Traced.emit (.debug "Scanner credentials loaded successfully")
    return loaded

end Settings

end PowerDiscovery
