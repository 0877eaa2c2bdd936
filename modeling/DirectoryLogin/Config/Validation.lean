import DirectoryLogin.Config.Settings
import DirectoryLogin.Text.Cut

/-!
# Validation

Settings are checked in a fixed order, and the first violation is reported. The violations of each
part are listed in order, so that "first" is the head of one list.
-/

namespace DirectoryLogin.Config

/-! ## Faults of a configuration -/

/-- A rule for settings that is not met. Searches are counted from one. -/
inductive Violation where
  | noServer
  | blankServer
  | noReader
  | certificateWithoutKey
  | keyWithoutCertificate
  | noUserBase (position : Nat)
  | noUserAttribute (position : Nat)
  | noGroupBase (position : Nat)
  | noGroupAttribute (position : Nat)
  deriving DecidableEq

def Violation.message : Violation → String
  | .noServer => "At least one directory server URL is required"
  | .blankServer => "Directory server URLs must not be empty"
  | .noReader => "Reader DN is required unless anonymous mode is enabled"
  | .certificateWithoutKey => "TLS client certificate given without a key"
  | .keyWithoutCertificate => "TLS client key given without a certificate"
  | .noUserBase n => s!"User search #{n}: base DN is required"
  | .noUserAttribute n => s!"User search #{n}: username attribute is required"
  | .noGroupBase n => s!"Group search #{n}: base DN is required"
  | .noGroupAttribute n => s!"Group search #{n}: group attribute is required"

/-- Why there is no usable configuration. -/
inductive Error where
  /-- The settings break a rule. -/
  | invalid (reason : String)
  /-- The configuration could not be read. -/
  | unreadable (reason : String)
  /-- What was read is no configuration. -/
  | malformed (reason : String)
  deriving DecidableEq

namespace Error

def ofViolation (v : Violation) : Error := .invalid v.message

/-- The stable name of the kind of error. -/
def code : Error → String
  | .invalid _ => "InvalidConfig"
  | .unreadable _ => "ConfigRead"
  | .malformed _ => "ConfigParse"

def message : Error → String
  | .invalid reason => "Invalid configuration: " ++ reason
  | .unreadable reason => "Failed to read configuration: " ++ reason
  | .malformed reason => "Failed to parse configuration: " ++ reason

end Error

/-! ## Checks -/

namespace TlsSettings

/-- A client certificate and its key come together or not at all. -/
def violations (tls : TlsSettings) : List Violation :=
  match tls.certPath, tls.keyPath with
  | some _, none => [.certificateWithoutKey]
  | none, some _ => [.keyWithoutCertificate]
  | _, _ => []

def validate (tls : TlsSettings) : Except Violation Unit :=
  match tls.violations with
  | [] => .ok ()
  | v :: _ => .error v

end TlsSettings

def UserSearch.violations (position : Nat) (search : UserSearch) : List Violation :=
  (if search.baseDn.isEmpty then [.noUserBase position] else []) ++
    (if search.loginAttribute.isEmpty then [.noUserAttribute position] else [])

def GroupSearch.violations (position : Nat) (search : GroupSearch) : List Violation :=
  (if search.baseDn.isEmpty then [.noGroupBase position] else []) ++
    (if search.memberAttribute.isEmpty then [.noGroupAttribute position] else [])

def violationsFrom {α : Type} (check : Nat → α → List Violation) (position : Nat) :
    List α → List Violation
  | [] => []
  | a :: rest => check position a ++ violationsFrom check (position + 1) rest

namespace Settings

/-- All violations, in the order in which they are looked for. -/
def violations (s : Settings) : List Violation :=
  (if s.urls.isEmpty then [.noServer] else []) ++
    (if s.urls.any Text.isBlankText then [.blankServer] else []) ++
    (if !s.anonymous && s.readerDn.isEmpty then [.noReader] else []) ++
    s.tls.violations ++
    violationsFrom UserSearch.violations 1 s.userSearches ++
    violationsFrom GroupSearch.violations 1 s.groupSearches

/-- The first violation of the settings. -/
def validate (s : Settings) : Except Violation Unit :=
  match s.violations with
  | [] => .ok ()
  | v :: _ => .error v

theorem validate_eq_ok_iff (s : Settings) : s.validate = .ok () ↔ s.violations = [] := by
  unfold validate
  split <;> simp_all

end Settings

end DirectoryLogin.Config
