import PowerDiscovery.Proofs.CommandLine.LastGiven
import PowerDiscovery.Proofs.Settings.Document
import PowerDiscovery.Proofs.Settings.Repair
import PowerDiscovery.Settings.Options

/-! # Credentials

Nine settings are credentials.  Each may come from the command line, from the settings file and from the
file of credentials, where it has its own option, and its own key in the section of its backend. -/

namespace PowerDiscovery

open CommandLine

inductive Credential where
  | community
  | secLevel
  | secName
  | authPassword
  | privPassword
  | authProtocol
  | privProtocol
  | username
  | password
deriving DecidableEq

namespace Credential

def flag : Credential → Flag
  | community => .community
  | secLevel => .secLevel
  | secName => .secName
  | authPassword => .authPassword
  | privPassword => .privPassword
  | authProtocol => .authProtocol
  | privProtocol => .privProtocol
  | username => .username
  | password => .password

def backend : Credential → Backend
  | username | password => .ipmi
  | _ => .snmp

def sectionName (k : Credential) : String :=
  if k.backend = .ipmi then "ipmi" else "snmp"

def key : Credential → String
  | community => "community"
  | secLevel => "sec_level"
  | secName => "sec_name"
  | authPassword => "auth_password"
  | privPassword => "priv_password"
  | authProtocol => "auth_protocol"
  | privProtocol => "priv_protocol"
  | username => "username"
  | password => "password"

def setting : Credential → Settings → Value
  | community, s => s.snmpCommunity
  | secLevel, s => s.snmpSecLevel
  | secName, s => s.snmpSecName
  | authPassword, s => s.snmpAuthPassword
  | privPassword, s => s.snmpPrivPassword
  | authProtocol, s => s.snmpAuthProtocol
  | privProtocol, s => s.snmpPrivProtocol
  | username, s => s.ipmiUsername
  | password, s => s.ipmiPassword

/-- A credential among the options that an engine is handed. -/
def handed : Credential → ScanOptions → Value
  | community, .snmp o => o.community
  | secLevel, .snmp o => o.secLevel
  | secName, .snmp o => o.secName
  | authPassword, .snmp o => o.authPassword
  | privPassword, .snmp o => o.privPassword
  | authProtocol, .snmp o => o.authProtocol
  | privProtocol, .snmp o => o.privProtocol
  | username, .ipmi o => o.username
  | password, .ipmi o => o.password
  | _, _ => .null

/-- A credential in a document: under its own key in its own section; null if it is not there. -/
def inDocument (k : Credential) (document : Value) : Value :=
  (document.under k.sectionName).under k.key

variable (k : Credential) {s s' : Settings}

theorem handed_optionsFor (s : Settings) : k.handed (s.optionsFor k.backend) = k.setting s := by
  cases k <;> rfl

theorem setting_initial (e : Environment) : k.setting (Settings.initial e) = .null := by
  unfold Settings.initial
  split <;> cases k <;> rfl

theorem setting_withSnmp (s : Settings) (v : Value) : k.setting (s.withSnmp v) =
    if k.backend = .ipmi then k.setting s else (k.setting s).orElse (v.under k.key) := by
  cases k <;> rfl

theorem setting_withIpmi (s : Settings) (v : Value) : k.setting (s.withIpmi v) =
    if k.backend = .ipmi then (k.setting s).orElse (v.under k.key) else k.setting s := by
  cases k <;> rfl

private theorem setting_apply (s : Settings) (a : Arguments) :
    k.setting (s.apply a).value = ((a.valueOf k.flag).getD .null).orSetting (k.setting s) := by
  obtain ⟨authType, happlied⟩ := Settings.applyAuthType_value s a.authType
  simp only [Settings.apply]
  split <;> cases k <;> simp only [setting, flag, Arguments.valueOf, Option.getD_some,
    Traced.bind_value, Traced.pure_value, happlied]

theorem setting_apply_ofGiven (s : Settings) (given : List Given) :
    k.setting (s.apply (.ofGiven given)).value =
      ((lastValue? given k.flag).getD .null).orSetting (k.setting s) := by
  have hnull : ({} : Arguments).valueOf k.flag = some .null := by
    cases k <;> rfl
  rw [setting_apply, Arguments.valueOf_ofGiven, hnull]
  rfl

theorem setting_described (e : Environment) (document : Value) :
    k.setting (Settings.described e document) = k.inDocument document := by
  obtain ⟨confpath, hinitial⟩ := Settings.initial_eq e
  rw [Settings.described, hinitial, inDocument, ← Value.under_orEmpty]
  cases k <;> rfl

theorem setting_validate {warnings : List String} (h : s.validate = .ok (s', warnings)) :
    k.setting s' = k.setting s := by
  rw [(Settings.validate_eq_repaired h).1]
  cases k <;> rfl

end Credential

end PowerDiscovery
