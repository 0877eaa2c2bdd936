import DirectoryLogin.Config.Settings

/-!
# Transport modes

A connection is plain, secured from its first octet, or plain at first and then upgraded. The scheme
of a target tells only whether the first octet is secured.
-/

namespace DirectoryLogin.Transport

inductive Scheme where
  | ldap
  /-- Secured from the first octet. -/
  | ldaps
  deriving DecidableEq, Inhabited

namespace Scheme

def text : Scheme → String
  | .ldap => "ldap"
  | .ldaps => "ldaps"

def ofText? : String → Option Scheme
  | "ldap" => some .ldap
  | "ldaps" => some .ldaps
  | _ => none

@[simp] theorem ofText?_text (scheme : Scheme) : ofText? scheme.text = some scheme := by
  cases scheme <;> rfl

/-- The port of a target that names none. -/
def port : Scheme → Nat
  | .ldap => 389
  | .ldaps => 636

end Scheme

/-- How a connection to a server is secured. -/
inductive Mode where
  | plain
  | tls
  /-- Upgraded by an extended operation before anything else is sent. -/
  | startTls
  deriving DecidableEq, Inhabited

namespace Mode

/-- Where both are asked for, security from the first octet wins. -/
def ofSettings (settings : Config.TlsSettings) : Mode :=
  if settings.enabled then .tls else if settings.startTls then .startTls else .plain

def isSecure : Mode → Bool
  | .plain => false
  | .tls | .startTls => true

def scheme : Mode → Scheme
  | .tls => .ldaps
  | .plain | .startTls => .ldap

/-- The port of a server address that names none. -/
def defaultPort (mode : Mode) : Nat := mode.scheme.port

def name : Mode → String
  | .plain => "plain"
  | .tls => "tls"
  | .startTls => "starttls"

def dumpName : Mode → String
  | .plain => "Plain"
  | .tls => "Tls"
  | .startTls => "StartTls"

theorem isSecure_ofSettings (settings : Config.TlsSettings) :
    (ofSettings settings).isSecure = (settings.enabled || settings.startTls) := by
  unfold ofSettings
  cases settings.enabled <;> cases settings.startTls <;> rfl

end Mode

end DirectoryLogin.Transport
