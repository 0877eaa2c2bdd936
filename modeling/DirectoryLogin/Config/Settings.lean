/-!
# Settings

What an administrator states about one directory deployment. Servers are tried and bases searched in
the order given here.
-/

namespace DirectoryLogin.Config

/-- How the program reports on its own work. -/
structure Logging where
  level : String := "info"
  format : String := "pretty"
  deriving DecidableEq, Inhabited

/-- How connections are secured, and with which material. -/
structure TlsSettings where
  /-- TLS from the first octet. -/
  enabled : Bool := false
  /-- Upgrade of a plain connection; without effect where `enabled` is set. -/
  startTls : Bool := false
  /-- Certificates of the authorities that may vouch for a server. -/
  caPath : Option String := none
  /-- The client's own certificate. -/
  certPath : Option String := none
  /-- The key of the client's certificate. -/
  keyPath : Option String := none
  /-- Accept every server certificate. -/
  skipVerify : Bool := false
  deriving DecidableEq, Inhabited

/-- One base under which users are searched. -/
structure UserSearch where
  baseDn : String
  filter : String := "(objectClass=*)"
  /-- The attribute that holds the login name. -/
  loginAttribute : String := "uid"
  deriving DecidableEq, Inhabited

/-- One base under which groups are searched. -/
structure GroupSearch where
  baseDn : String
  filter : String := "(objectClass=groupOfNames)"
  /-- The attribute that lists the members of a group. -/
  memberAttribute : String := "member"
  deriving DecidableEq, Inhabited

/-- The limits sent with every search; zero means none. -/
structure Limits where
  size : Int32 := 0
  time : Int32 := 0
  deriving DecidableEq, Inhabited

/-- The settings of one directory. -/
structure Settings where
  urls : List String := []
  /-- Search without a service account. -/
  anonymous : Bool := false
  /-- The service account that searches. -/
  readerDn : String := ""
  /-- The password of the service account. -/
  password : String := ""
  tls : TlsSettings := {}
  userSearches : List UserSearch := []
  groupSearches : List GroupSearch := []
  /-- In seconds; the transport's own limit if absent. -/
  connectTimeout : Option UInt64 := none
  limits : Limits := {}
  deriving DecidableEq, Inhabited

/-- The configuration of the whole program. -/
structure Configuration where
  logging : Logging := {}
  settings : Settings := {}
  deriving DecidableEq, Inhabited

namespace UserSearch

def activeDirectory (baseDn : String) : UserSearch :=
  ⟨baseDn, "(&(objectCategory=person)(objectClass=user))", "sAMAccountName"⟩

def openLdap (baseDn : String) : UserSearch := ⟨baseDn, "(objectClass=inetOrgPerson)", "uid"⟩

end UserSearch

namespace GroupSearch

def activeDirectory (baseDn : String) : GroupSearch := ⟨baseDn, "(objectClass=group)", "member"⟩

def openLdap (baseDn : String) : GroupSearch :=
  ⟨baseDn, "(objectClass=groupOfNames)", "member"⟩

end GroupSearch

end DirectoryLogin.Config
