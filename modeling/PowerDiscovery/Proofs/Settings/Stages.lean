import PowerDiscovery.Proofs.Steps
import PowerDiscovery.Settings.FromArguments
import PowerDiscovery.Settings.FromDocument

/-! # What settings go through

Settings are overridden by the command line and completed from the file of credentials.  Each of these stages
touches certain settings only. -/

namespace PowerDiscovery

namespace Value

/-- The entry of a mapping under a key; null if there is none. -/
def under (v : Value) (key : String) : Value :=
  match v with
  | .mapping entries => (lookup? entries key).getD .null
  | _ => .null

end Value

namespace Settings

/-- Settings with the security settings of SNMP completed from a section. -/
def withSnmp (s : Settings) (v : Value) : Settings :=
  { s with
    snmpCommunity := s.snmpCommunity.orElse (v.under "community")
    snmpSecLevel := s.snmpSecLevel.orElse (v.under "sec_level")
    snmpSecName := s.snmpSecName.orElse (v.under "sec_name")
    snmpAuthPassword := s.snmpAuthPassword.orElse (v.under "auth_password")
    snmpPrivPassword := s.snmpPrivPassword.orElse (v.under "priv_password")
    snmpAuthProtocol := s.snmpAuthProtocol.orElse (v.under "auth_protocol")
    snmpPrivProtocol := s.snmpPrivProtocol.orElse (v.under "priv_protocol") }

def withIpmi (s : Settings) (v : Value) : Settings :=
  { s with
    ipmiUsername := s.ipmiUsername.orElse (v.under "username")
    ipmiPassword := s.ipmiPassword.orElse (v.under "password") }

/-- The document at a location, if there is one that can be read. -/
def document? (files : Files) (path : String) : Option Value :=
  match files.find? path with
  | .ok (some (.document (.ok document))) => some document
  | _ => none

theorem applyAuthType_value (s : Settings) (v : Value) :
    ∃ authType, (s.applyAuthType v).value = { s with ipmiAuthType := authType } := by
  unfold applyAuthType
  split
  · exact ⟨s.ipmiAuthType, rfl⟩
  · split
    · exact ⟨v, rfl⟩
    · exact ⟨.text "MD5", rfl⟩

theorem apply_kept (s : Settings) (a : CommandLine.Arguments) :
    (s.apply a).value.maxConcurrency = s.maxConcurrency ∧
      (s.apply a).value.credentialsPath = s.credentialsPath := by
  obtain ⟨authType, happlied⟩ := applyAuthType_value s a.authType
  simp only [apply]
  split <;> simp only [Traced.bind_value, Traced.pure_value, happlied, and_self]

end Settings

end PowerDiscovery
