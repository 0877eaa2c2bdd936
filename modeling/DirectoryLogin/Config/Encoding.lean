import DirectoryLogin.Config.Settings
import DirectoryLogin.Document.Value
import DirectoryLogin.Dump

/-!
# Configurations as documents and dumps

In a document every member is written under its name, in the order of the record, and an absent
optional member as null. A dump shows every setting but the password of the service account, of
which it shows only whether there is one.
-/

namespace DirectoryLogin.Config

/-! ## Documents -/

open Document (Value)

def nullable {α : Type} (encode : α → Value) : Option α → Value
  | none => .null
  | some a => encode a

def Logging.toValue (l : Logging) : Value :=
  .table [("level", .text l.level), ("format", .text l.format)]

def TlsSettings.toValue (t : TlsSettings) : Value :=
  .table [("enabled", .bool t.enabled), ("start_tls", .bool t.startTls),
    ("ca_cert_path", nullable .text t.caPath), ("cert_path", nullable .text t.certPath),
    ("key_path", nullable .text t.keyPath), ("skip_verify", .bool t.skipVerify)]

def UserSearch.toValue (u : UserSearch) : Value :=
  .table [("base_dn", .text u.baseDn), ("filter", .text u.filter),
    ("username_attribute", .text u.loginAttribute)]

def GroupSearch.toValue (g : GroupSearch) : Value :=
  .table [("group_base_dn", .text g.baseDn), ("group_filter", .text g.filter),
    ("group_attribute", .text g.memberAttribute)]

def Limits.toValue (l : Limits) : Value :=
  .table [("size_limit", .integer l.size.toInt), ("time_limit", .integer l.time.toInt)]

def Settings.toValue (s : Settings) : Value :=
  .table [("urls", .list (s.urls.map .text)), ("anonymous_mode", .bool s.anonymous),
    ("reader_dn", .text s.readerDn), ("password", .text s.password), ("tls", s.tls.toValue),
    ("search_settings", .list (s.userSearches.map UserSearch.toValue)),
    ("group_search_settings", .list (s.groupSearches.map GroupSearch.toValue)),
    ("connect_timeout_seconds", nullable (fun t => .integer t.toNat) s.connectTimeout),
    ("search_limits", s.limits.toValue)]

def Configuration.toValue (c : Configuration) : Value :=
  .table [("logging", c.logging.toValue), ("ldap", c.settings.toValue)]

/-! ## Dumps -/

def Logging.dump (l : Logging) : Dump :=
  .record "LoggingConfig" [("level", .quote l.level), ("format", .quote l.format)]

def TlsSettings.dump (t : TlsSettings) : Dump :=
  .record "TlsSettings" [("enabled", .ofBool t.enabled), ("start_tls", .ofBool t.startTls),
    ("ca_cert_path", .ofOption .quote t.caPath), ("cert_path", .ofOption .quote t.certPath),
    ("key_path", .ofOption .quote t.keyPath), ("skip_verify", .ofBool t.skipVerify)]

def UserSearch.dump (u : UserSearch) : Dump :=
  .record "UserSearchSettings" [("base_dn", .quote u.baseDn), ("filter", .quote u.filter),
    ("username_attribute", .quote u.loginAttribute)]

def GroupSearch.dump (g : GroupSearch) : Dump :=
  .record "GroupSearchSettings" [("group_base_dn", .quote g.baseDn),
    ("group_filter", .quote g.filter), ("group_attribute", .quote g.memberAttribute)]

def Limits.dump (l : Limits) : Dump :=
  .record "SearchLimits" [("size_limit", .word (toString l.size.toInt)),
    ("time_limit", .word (toString l.time.toInt))]

/-- What a dump shows in the place of a password. -/
def redacted (password : String) : String := if password.isEmpty then "" else "<redacted>"

def Settings.dump (s : Settings) : Dump :=
  .record "DirectorySettings" [("urls", .list (s.urls.map .quote)),
    ("anonymous_mode", .ofBool s.anonymous), ("reader_dn", .quote s.readerDn),
    ("password", .quote (redacted s.password)), ("tls", s.tls.dump),
    ("search_settings", .list (s.userSearches.map UserSearch.dump)),
    ("group_search_settings", .list (s.groupSearches.map GroupSearch.dump)),
    ("connect_timeout_seconds",
      .ofOption (fun t : UInt64 => .word (toString t.toNat)) s.connectTimeout),
    ("search_limits", s.limits.dump)]

def Configuration.dump (c : Configuration) : Dump :=
  .record "DirauthConfig" [("logging", c.logging.dump), ("ldap", c.settings.dump)]

end DirectoryLogin.Config
