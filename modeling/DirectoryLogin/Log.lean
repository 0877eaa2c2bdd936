import DirectoryLogin.Directory.Error
import DirectoryLogin.Server.Address

/-!
# The log

Every event that an operation notes, with its level and its text. No event holds a password.
-/

namespace DirectoryLogin.Log

open Directory (SessionError)
open Transport (Mode)

/-- How much an event matters. -/
inductive Level where
  | trace
  | debug
  | info
  | warn
  | error
  deriving DecidableEq

def Level.name : Level → String
  | .trace => "TRACE"
  | .debug => "DEBUG"
  | .info => "INFO"
  | .warn => "WARN"
  | .error => "ERROR"

/-- What is noted. -/
inductive Event where
  /-- A connection to a target is tried. -/
  | connecting (target : String) (mode : Mode)
  | connected (url : String) (mode : Mode)
  | connectFailed (url : String) (cause : SessionError)
  | closeFailed (url : String) (cause : SessionError)
  | closed (url : String)
  /-- An open connection is given up. -/
  | dropped (url : String)
  /-- A session ends without taking leave of the server. -/
  | released
  | binding (url dn : String)
  | readerRefused (dn : String) (cause : SessionError)
  | anonymousRefused (url : String) (cause : SessionError)
  | connectivityConfirmed
  | seekingUser (filter : String)
  | userFound (dn : String)
  | noUser (username base : String)
  | manyUsers (count : Nat) (username base : String)
  | userRefused (dn : String) (cause : SessionError)
  | authenticated (username : String)
  | notAuthenticated (username : String) (cause : Directory.Error)
  | seekingGroups (filter : String)
  | groupsFound (count : Nat) (dn : String)
  | baseSkipped (base : String) (cause : SessionError)
  | baseFailed (base : String) (cause : SessionError)
  | attributeMissing (dn attributeName : String)
  | groupUnnamed (dn : String)
  | authoritiesLoaded (count : Nat) (path : String)
  | verificationDisabled
  deriving DecidableEq

namespace Event

def level : Event → Level
  | .connected .. | .authenticated .. | .connectivityConfirmed => .info
  | .connectFailed .. | .readerRefused .. | .anonymousRefused .. | .manyUsers ..
  | .baseSkipped .. | .verificationDisabled => .warn
  | .baseFailed .. => .error
  | _ => .debug

def message : Event → String
  | .connecting target mode => s!"Connecting to LDAP server: {target} ({mode.name})"
  | .connected url mode => s!"Connected to LDAP server {url} ({mode.name})"
  | .connectFailed url cause => s!"Failed creating LDAP connection to {url}: {cause.message}"
  | .closeFailed url cause => s!"LDAP unbind from {url} failed: {cause.message}"
  | .closed url => s!"Closed LDAP connection to {url}"
  | .dropped url => s!"Dropping open LDAP connection to {url}"
  | .released => "Releasing LDAP session without unbind"
  | .binding url dn => s!"Binding to {url} as {dn}"
  | .readerRefused dn cause => s!"Service account bind as {dn} failed: {cause.message}"
  | .anonymousRefused url cause => s!"Anonymous LDAP bind to {url} failed: {cause.message}"
  | .connectivityConfirmed => "LDAP connectivity test succeeded"
  | .seekingUser filter => s!"Searching for user with filter: {filter}"
  | .userFound dn => s!"Found user DN: {dn}"
  | .noUser username base => s!"No user {username} under {base}"
  | .manyUsers count username base =>
      s!"{count} entries match user {username} under {base}, ignoring"
  | .userRefused dn cause => s!"User bind as {dn} failed: {cause.message}"
  | .authenticated username => s!"LDAP authentication succeeded for {username}"
  | .notAuthenticated username cause =>
      s!"LDAP authentication failed for {username}: {cause.message}"
  | .seekingGroups filter => s!"Searching groups with filter: {filter}"
  | .groupsFound count dn => s!"Found {count} groups for {dn}"
  | .baseSkipped base cause => s!"LDAP search under {base} failed, skipping: {cause.message}"
  | .baseFailed base cause => s!"LDAP search under {base} failed: {cause.message}"
  | .attributeMissing dn attributeName => s!"Entry {dn} has no {attributeName} attribute"
  | .groupUnnamed dn => s!"Group entry {dn} has no common name"
  | .authoritiesLoaded count path =>
      s!"Loaded {count} CA certificate(s) from {Text.quoted path}"
  | .verificationDisabled => "TLS certificate verification is disabled for directory connections"

def fields : Event → List (String × String)
  | .connectFailed url _ => [("server", Server.name url)]
  | _ => []

end Event

end DirectoryLogin.Log
