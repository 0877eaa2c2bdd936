import DirectoryLogin.Config.Settings
import DirectoryLogin.Document.Value

/-!
# Configurations from documents

A record is written as a table of named members or as a list of its members in order. Members that
are not there take their defaults, and unknown names are passed over. Two formats differ in one
point only: whether a list may be longer than the record.
-/

namespace DirectoryLogin.Config

open Document (Value)

/-- What becomes of the items of a list beyond the last member of the record. -/
inductive Surplus where
  | refused
  | ignored
  deriving DecidableEq

/-- The members of a record, with their names. -/
abbrev Record := List (String × Value)

namespace Record

/-- The record with members of these names that a value stands for. The items of a list take the
names in order. Of members with other names only the numbers have to be readable. A date stands for
a record without any member. -/
def of? (surplus : Surplus) (names : List String) : Value → Option Record
  | .table members =>
      if members.all fun (name, v) => names.contains name || v.isReadable then some members
      else none
  | .list items =>
      if surplus = .refused ∧ names.length < items.length then none else some (names.zip items)
  | .moment _ => some []
  | _ => none

/-- A member that may be left out. -/
def optional {α : Type} (record : Record) (name : String) (absent : α)
    (decode : Value → Option α) : Option α :=
  match record.lookup name with
  | some v => decode v
  | none => some absent

/-- A member that must be there. -/
def required {α : Type} (record : Record) (name : String) (decode : Value → Option α) : Option α :=
  (record.lookup name).bind decode

end Record

def bool? : Value → Option Bool
  | .bool b => some b
  | _ => none

def text? : Value → Option String
  | .text s => some s
  | _ => none

def nullableText? : Value → Option (Option String)
  | .null => some none
  | .text s => some (some s)
  | _ => none

def seconds? : Value → Option (Option UInt64)
  | .null => some none
  | .integer n => if 0 ≤ n ∧ n < UInt64.size then some (some (UInt64.ofNat n.toNat)) else none
  | _ => none

def limit? : Value → Option Int32
  | .integer n =>
      if Int32.minValue.toInt ≤ n ∧ n ≤ Int32.maxValue.toInt then some (Int32.ofInt n) else none
  | _ => none

def listOf? {α : Type} (decode : Value → Option α) : Value → Option (List α)
  | .list items => items.mapM decode
  | _ => none

def Logging.of? (surplus : Surplus) (v : Value) : Option Logging := do
  let r ← Record.of? surplus ["level", "format"] v
  let level ← r.optional "level" "info" text?
  let format ← r.optional "format" "pretty" text?
  return { level, format }

def TlsSettings.of? (surplus : Surplus) (v : Value) : Option TlsSettings := do
  let r ← Record.of? surplus
    ["enabled", "start_tls", "ca_cert_path", "cert_path", "key_path", "skip_verify"] v
  let enabled ← r.optional "enabled" false bool?
  let startTls ← r.optional "start_tls" false bool?
  let caPath ← r.optional "ca_cert_path" none nullableText?
  let certPath ← r.optional "cert_path" none nullableText?
  let keyPath ← r.optional "key_path" none nullableText?
  let skipVerify ← r.optional "skip_verify" false bool?
  return { enabled, startTls, caPath, certPath, keyPath, skipVerify }

def UserSearch.of? (surplus : Surplus) (v : Value) : Option UserSearch := do
  let r ← Record.of? surplus ["base_dn", "filter", "username_attribute"] v
  let baseDn ← r.required "base_dn" text?
  let filter ← r.optional "filter" "(objectClass=*)" text?
  let loginAttribute ← r.optional "username_attribute" "uid" text?
  return { baseDn, filter, loginAttribute }

def GroupSearch.of? (surplus : Surplus) (v : Value) : Option GroupSearch := do
  let r ← Record.of? surplus ["group_base_dn", "group_filter", "group_attribute"] v
  let baseDn ← r.required "group_base_dn" text?
  let filter ← r.optional "group_filter" "(objectClass=groupOfNames)" text?
  let memberAttribute ← r.optional "group_attribute" "member" text?
  return { baseDn, filter, memberAttribute }

def Limits.of? (surplus : Surplus) (v : Value) : Option Limits := do
  let r ← Record.of? surplus ["size_limit", "time_limit"] v
  let size ← r.optional "size_limit" 0 limit?
  let time ← r.optional "time_limit" 0 limit?
  return { size, time }

def Settings.of? (surplus : Surplus) (v : Value) : Option Settings := do
  let r ← Record.of? surplus
    ["urls", "anonymous_mode", "reader_dn", "password", "tls", "search_settings",
     "group_search_settings", "connect_timeout_seconds", "search_limits"] v
  let urls ← r.optional "urls" [] (listOf? text?)
  let anonymous ← r.optional "anonymous_mode" false bool?
  let readerDn ← r.optional "reader_dn" "" text?
  let password ← r.optional "password" "" text?
  let tls ← r.optional "tls" {} (TlsSettings.of? surplus)
  let userSearches ← r.optional "search_settings" [] (listOf? (UserSearch.of? surplus))
  let groupSearches ← r.optional "group_search_settings" [] (listOf? (GroupSearch.of? surplus))
  let connectTimeout ← r.optional "connect_timeout_seconds" none seconds?
  let limits ← r.optional "search_limits" {} (Limits.of? surplus)
  return { urls, anonymous, readerDn, password, tls, userSearches, groupSearches, connectTimeout,
           limits }

def Configuration.of? (surplus : Surplus) (v : Value) : Option Configuration := do
  let r ← Record.of? surplus ["logging", "ldap"] v
  let logging ← r.optional "logging" {} (Logging.of? surplus)
  let settings ← r.optional "ldap" {} (Settings.of? surplus)
  return { logging, settings }

end DirectoryLogin.Config
