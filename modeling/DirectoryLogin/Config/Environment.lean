import DirectoryLogin.Config.Decoding
import DirectoryLogin.Config.Settings
import DirectoryLogin.Config.Validation
import DirectoryLogin.Files
import DirectoryLogin.Text.Cut
import DirectoryLogin.Text.Octets
import DirectoryLogin.Toml.Parser

/-!
# Configuration files and environment variables

A configuration file is a TOML document. Of the environment, each variable sets its own member. One
user search and one group search can be given in it; their filters and attributes count only
together with their bases.
-/

namespace DirectoryLogin.Config

/-! ## Files -/

def Configuration.ofToml (text : String) : Except Error Configuration :=
  match Toml.parse? text with
  | none => .error (.malformed "the text is not a TOML document")
  | some document =>
      match Configuration.of? .ignored document with
      | none => .error (.malformed "a member has the wrong type or is missing")
      | some config => .ok config

def Configuration.ofFile (files : Files) (path : String) : Except Error Configuration :=
  match (files path).text with
  | .error fault => .error (.unreadable (path ++ ": " ++ fault.message))
  | .ok text => Configuration.ofToml text

/-! ## Environment variables -/

/-- The variables of a process, with their octets. -/
abbrev Environment := List (String × List UInt8)

namespace Environment

def text? (env : Environment) (name : String) : Option String :=
  (env.lookup name).bind Text.ofOctets?

/-- A variable that switches something on. -/
def flag (env : Environment) (name : String) : Bool :=
  env.text? name = some "true" || env.text? name = some "1"

def set (env : Environment) (name : String) (value : List UInt8) : Environment :=
  (name, value) :: env.filter (·.1 != name)

end Environment

/-- The servers in a list separated by commas: trimmed, without the blank ones. -/
def serverList (s : String) : List String :=
  ((Text.pieces ',' s.toList).map Text.trim).filterMap fun piece =>
    if piece.isEmpty then none else some (String.ofList piece)

def UserSearch.ofEnvironment (env : Environment) : Option UserSearch :=
  (env.text? "DIRAUTH_LDAP_USER_BASE_DN").map fun baseDn =>
    let usual := UserSearch.openLdap baseDn
    { usual with
      filter := (env.text? "DIRAUTH_LDAP_USER_FILTER").getD usual.filter
      loginAttribute := (env.text? "DIRAUTH_LDAP_USERNAME_ATTRIBUTE").getD usual.loginAttribute }

def GroupSearch.ofEnvironment (env : Environment) : Option GroupSearch :=
  (env.text? "DIRAUTH_LDAP_GROUP_BASE_DN").map fun baseDn =>
    let usual := GroupSearch.openLdap baseDn
    { usual with
      filter := (env.text? "DIRAUTH_LDAP_GROUP_FILTER").getD usual.filter
      memberAttribute := (env.text? "DIRAUTH_LDAP_GROUP_ATTRIBUTE").getD usual.memberAttribute }

def Logging.ofEnvironment (env : Environment) : Logging where
  level := (env.text? "DIRAUTH_LOG_LEVEL").getD "info"
  format := (env.text? "DIRAUTH_LOG_FORMAT").getD "pretty"

def TlsSettings.ofEnvironment (env : Environment) : TlsSettings where
  enabled := env.flag "DIRAUTH_LDAP_TLS"
  startTls := env.flag "DIRAUTH_LDAP_STARTTLS"
  caPath := env.text? "DIRAUTH_LDAP_TLS_CA"
  certPath := env.text? "DIRAUTH_LDAP_TLS_CERT"
  keyPath := env.text? "DIRAUTH_LDAP_TLS_KEY"
  skipVerify := env.flag "DIRAUTH_LDAP_TLS_SKIP_VERIFY"

def Settings.ofEnvironment (env : Environment) : Settings where
  urls := ((env.text? "DIRAUTH_LDAP_URLS").map serverList).getD []
  anonymous := env.flag "DIRAUTH_LDAP_ANONYMOUS"
  readerDn := (env.text? "DIRAUTH_LDAP_READER_DN").getD ""
  password := (env.text? "DIRAUTH_LDAP_PASSWORD").getD ""
  tls := .ofEnvironment env
  userSearches := (UserSearch.ofEnvironment env).toList
  groupSearches := (GroupSearch.ofEnvironment env).toList

def Configuration.ofEnvironment (env : Environment) : Configuration where
  logging := .ofEnvironment env
  settings := .ofEnvironment env

end DirectoryLogin.Config
