import DirectoryLogin.Proofs.Presentation

/-!
# Configurations are restored

However a configuration is written, it is read back as it is, field by field, and so is its own
JSON text. A search without a base is refused, wherever it stands.
-/

namespace DirectoryLogin.Config

open Document (Value)

/-! ## Reading a configuration -/

theorem text?_of_exactly {s : String} {v : Value} (h : exactly .text s v) : text? v = some s := by
  rw [h]
  rfl

theorem bool?_of_exactly {b : Bool} {v : Value} (h : exactly .bool b v) : bool? v = some b := by
  rw [h]
  rfl

theorem nullableText?_of_exactly {s : Option String} {v : Value}
    (h : exactly (nullable .text) s v) : nullableText? v = some s := by
  rw [h]
  cases s <;> rfl

theorem limit?_of_exactly {n : Int32} {v : Value}
    (h : exactly (fun n : Int32 => .integer n.toInt) n v) : limit? v = some n := by
  rw [h, limit?, if_pos ⟨n.minValue_le_toInt, n.toInt_le⟩, Int32.ofInt_toInt]

theorem seconds?_of_exactly {t : Option UInt64} {v : Value}
    (h : exactly (nullable fun t : UInt64 => .integer t.toNat) t v) : seconds? v = some t := by
  rw [h]
  cases t with
  | none => rfl
  | some t =>
      have hrange : 0 ≤ (t.toNat : Int) ∧ (t.toNat : Int) < UInt64.size := by
        have hlt := t.toNat_lt
        simp only [UInt64.size]
        omega
      rw [nullable, seconds?, if_pos hrange, Int.toNat_natCast, UInt64.ofNat_toNat]

theorem listOf?_of_each {α : Type} {written : α → Value → Prop} {decode : Value → Option α}
    {as : List α} {v : Value} (h : each written as v) (hv : v.isReadable)
    (hdecode : ∀ a w, w.isReadable → written a w → decode w = some a) :
    listOf? decode v = some as := by
  obtain ⟨items, rfl, h⟩ := h
  have hitems := Json.areReadable_iff.mp hv
  rw [listOf?]
  induction h with
  | nil => rfl
  | cons h _ ih =>
      obtain ⟨hw, hitems⟩ := List.forall_mem_cons.mp hitems
      have hothers := ih (Json.areReadable_iff.mpr hitems) hitems
      simp [hdecode _ _ hw h, hothers]

section Records

variable {v : Value} (hv : v.isReadable) (surplus : Surplus)
include hv

theorem Logging.of?_of_presented {l : Logging} (h : l.Presented v) :
    Logging.of? surplus v = some l := by
  obtain ⟨record, hrecord, hs, -⟩ := Presents.record h (by simp [parts, Part.optional]) hv surplus
  have hlevel : record.optional "level" "info" text? = some l.level :=
    hs.optional (by simp [parts]) fun _ _ => text?_of_exactly
  have hformat : record.optional "format" "pretty" text? = some l.format :=
    hs.optional (by simp [parts]) fun _ _ => text?_of_exactly
  change (Record.of? surplus (l.parts.map Part.name) v).bind _ = _
  simp [hrecord, hlevel, hformat]

theorem TlsSettings.of?_of_presented {t : TlsSettings} (h : t.Presented v) :
    TlsSettings.of? surplus v = some t := by
  obtain ⟨record, hrecord, hs, -⟩ := Presents.record h (by simp [parts, Part.optional]) hv surplus
  have henabled : record.optional "enabled" false bool? = some t.enabled :=
    hs.optional (by simp [parts]) fun _ _ => bool?_of_exactly
  have hstartTls : record.optional "start_tls" false bool? = some t.startTls :=
    hs.optional (by simp [parts]) fun _ _ => bool?_of_exactly
  have hcaPath : record.optional "ca_cert_path" none nullableText? = some t.caPath :=
    hs.optional (by simp [parts]) fun _ _ => nullableText?_of_exactly
  have hcertPath : record.optional "cert_path" none nullableText? = some t.certPath :=
    hs.optional (by simp [parts]) fun _ _ => nullableText?_of_exactly
  have hkeyPath : record.optional "key_path" none nullableText? = some t.keyPath :=
    hs.optional (by simp [parts]) fun _ _ => nullableText?_of_exactly
  have hskipVerify : record.optional "skip_verify" false bool? = some t.skipVerify :=
    hs.optional (by simp [parts]) fun _ _ => bool?_of_exactly
  change (Record.of? surplus (t.parts.map Part.name) v).bind _ = _
  simp [hrecord, henabled, hstartTls, hcaPath, hcertPath, hkeyPath, hskipVerify]

theorem UserSearch.of?_of_presented {u : UserSearch} (h : u.Presented v) :
    UserSearch.of? surplus v = some u := by
  obtain ⟨record, hrecord, hs, -⟩ :=
    Presents.record h (by simp [parts, Part.optional, Part.required]) hv surplus
  have hbaseDn : record.required "base_dn" text? = some u.baseDn :=
    hs.required (by simp [parts]) fun _ _ => text?_of_exactly
  have hfilter : record.optional "filter" "(objectClass=*)" text? = some u.filter :=
    hs.optional (by simp [parts]) fun _ _ => text?_of_exactly
  have hlogin : record.optional "username_attribute" "uid" text? = some u.loginAttribute :=
    hs.optional (by simp [parts]) fun _ _ => text?_of_exactly
  change (Record.of? surplus (u.parts.map Part.name) v).bind _ = _
  simp [hrecord, hbaseDn, hfilter, hlogin]

theorem GroupSearch.of?_of_presented {g : GroupSearch} (h : g.Presented v) :
    GroupSearch.of? surplus v = some g := by
  obtain ⟨record, hrecord, hs, -⟩ :=
    Presents.record h (by simp [parts, Part.optional, Part.required]) hv surplus
  have hbaseDn : record.required "group_base_dn" text? = some g.baseDn :=
    hs.required (by simp [parts]) fun _ _ => text?_of_exactly
  have hfilter : record.optional "group_filter" "(objectClass=groupOfNames)" text? =
      some g.filter := hs.optional (by simp [parts]) fun _ _ => text?_of_exactly
  have hmember : record.optional "group_attribute" "member" text? = some g.memberAttribute :=
    hs.optional (by simp [parts]) fun _ _ => text?_of_exactly
  change (Record.of? surplus (g.parts.map Part.name) v).bind _ = _
  simp [hrecord, hbaseDn, hfilter, hmember]

theorem Limits.of?_of_presented {l : Limits} (h : l.Presented v) :
    Limits.of? surplus v = some l := by
  obtain ⟨record, hrecord, hs, -⟩ := Presents.record h (by simp [parts, Part.optional]) hv surplus
  have hsize : record.optional "size_limit" 0 limit? = some l.size :=
    hs.optional (by simp [parts]) fun _ _ => limit?_of_exactly
  have htime : record.optional "time_limit" 0 limit? = some l.time :=
    hs.optional (by simp [parts]) fun _ _ => limit?_of_exactly
  change (Record.of? surplus (l.parts.map Part.name) v).bind _ = _
  simp [hrecord, hsize, htime]

theorem Settings.of?_of_presented {s : Settings} (h : s.Presented v) :
    Settings.of? surplus v = some s := by
  obtain ⟨record, hrecord, hs, hreadable⟩ :=
    Presents.record h (by simp [parts, Part.optional]) hv surplus
  have hurls : record.optional "urls" [] (listOf? text?) = some s.urls :=
    hs.optional (by simp [parts]) fun v hv h =>
      listOf?_of_each h (hreadable _ hv) fun _ _ _ => text?_of_exactly
  have hanonymous : record.optional "anonymous_mode" false bool? = some s.anonymous :=
    hs.optional (by simp [parts]) fun _ _ => bool?_of_exactly
  have hreaderDn : record.optional "reader_dn" "" text? = some s.readerDn :=
    hs.optional (by simp [parts]) fun _ _ => text?_of_exactly
  have hpassword : record.optional "password" "" text? = some s.password :=
    hs.optional (by simp [parts]) fun _ _ => text?_of_exactly
  have htls : record.optional "tls" {} (TlsSettings.of? surplus) = some s.tls :=
    hs.optional (by simp [parts]) fun _ hv h =>
      TlsSettings.of?_of_presented (hreadable _ hv) surplus h
  have huserSearches : record.optional "search_settings" [] (listOf? (UserSearch.of? surplus)) =
      some s.userSearches :=
    hs.optional (by simp [parts]) fun _ hv h =>
      listOf?_of_each h (hreadable _ hv) fun _ _ hw => UserSearch.of?_of_presented hw surplus
  have hgroupSearches : record.optional "group_search_settings" []
      (listOf? (GroupSearch.of? surplus)) = some s.groupSearches :=
    hs.optional (by simp [parts]) fun _ hv h =>
      listOf?_of_each h (hreadable _ hv) fun _ _ hw => GroupSearch.of?_of_presented hw surplus
  have htimeout : record.optional "connect_timeout_seconds" none seconds? =
      some s.connectTimeout := hs.optional (by simp [parts]) fun _ _ => seconds?_of_exactly
  have hlimits : record.optional "search_limits" {} (Limits.of? surplus) = some s.limits :=
    hs.optional (by simp [parts]) fun _ hv h =>
      Limits.of?_of_presented (hreadable _ hv) surplus h
  change (Record.of? surplus (s.parts.map Part.name) v).bind _ = _
  simp [hrecord, hurls, hanonymous, hreaderDn, hpassword, htls, huserSearches, hgroupSearches,
    htimeout, hlimits]

theorem Configuration.of?_of_presented {c : Configuration} (h : c.Presented v) :
    Configuration.of? surplus v = some c := by
  obtain ⟨record, hrecord, hs, hreadable⟩ :=
    Presents.record h (by simp [parts, Part.optional]) hv surplus
  have hlogging : record.optional "logging" {} (Logging.of? surplus) = some c.logging :=
    hs.optional (by simp [parts]) fun _ hv h =>
      Logging.of?_of_presented (hreadable _ hv) surplus h
  have hsettings : record.optional "ldap" {} (Settings.of? surplus) = some c.settings :=
    hs.optional (by simp [parts]) fun _ hv h =>
      Settings.of?_of_presented (hreadable _ hv) surplus h
  change (Record.of? surplus (c.parts.map Part.name) v).bind _ = _
  simp [hrecord, hlogging, hsettings]

end Records

/-! ## What is written -/

theorem Presents.inOrder {parts : List Part} {members : Record}
    (h : List.Forall₂ (fun part m => m.1 = part.name ∧ part.written m.2) parts members) :
    Presents parts (.table members) := by
  have hkept : Kept parts members := by
    induction h with
    | nil => exact .nil
    | @cons part m parts members h _ ih =>
        obtain ⟨name, v⟩ := m
        obtain ⟨rfl, hv⟩ := h
        exact .written hv ih
  have hnone : ∀ m ∈ ([] : Record), m.1 ∉ parts.map Part.name := nofun
  exact .table hkept hnone (by rw [List.append_nil])

theorem each_map {α : Type} {written : α → Value → Prop} {encode : α → Value}
    (h : ∀ a, written a (encode a)) (as : List α) : each written as (.list (as.map encode)) := by
  refine ⟨_, rfl, ?_⟩
  rw [List.forall₂_map_right_iff]
  exact List.forall₂_same.mpr fun a _ => h a

theorem Logging.presented_toValue (l : Logging) : l.Presented l.toValue :=
  .inOrder (by simp [parts, Part.optional, exactly])

theorem TlsSettings.presented_toValue (t : TlsSettings) : t.Presented t.toValue :=
  .inOrder (by simp [parts, Part.optional, exactly])

theorem UserSearch.presented_toValue (u : UserSearch) : u.Presented u.toValue :=
  .inOrder (by simp [parts, Part.optional, Part.required, exactly])

theorem GroupSearch.presented_toValue (g : GroupSearch) : g.Presented g.toValue :=
  .inOrder (by simp [parts, Part.optional, Part.required, exactly])

theorem Limits.presented_toValue (l : Limits) : l.Presented l.toValue :=
  .inOrder (by simp [parts, Part.optional, exactly])

theorem Settings.presented_toValue (s : Settings) : s.Presented s.toValue := by
  have htext (url : String) : exactly .text url (.text url) := rfl
  have hurls := each_map htext s.urls
  have husers := each_map UserSearch.presented_toValue s.userSearches
  have hgroups := each_map GroupSearch.presented_toValue s.groupSearches
  refine .inOrder ?_
  simp [parts, Part.optional, exactly, hurls, husers, hgroups, s.tls.presented_toValue,
    s.limits.presented_toValue]

theorem Configuration.presented_toValue (c : Configuration) : c.Presented c.toValue :=
  .inOrder (by
    simp [parts, Part.optional, c.logging.presented_toValue, c.settings.presented_toValue])

/-! ## Texts -/

theorem expressible_map {α : Type} {encode : α → Value}
    (h : ∀ a, Json.Expressible (encode a)) (as : List α) :
    Json.Expressible (.list (as.map encode)) := by
  refine .list fun v hv => ?_
  obtain ⟨a, -, rfl⟩ := List.mem_map.mp hv
  exact h a

theorem expressible_nullable {α : Type} {encode : α → Value}
    (h : ∀ a, Json.Expressible (encode a)) (a : Option α) :
    Json.Expressible (nullable encode a) := by
  cases a with
  | none => exact .null
  | some a => exact h a

theorem Logging.expressible (l : Logging) : Json.Expressible l.toValue :=
  .table (by simp) (by simp [Json.Expressible.text])

theorem TlsSettings.expressible (t : TlsSettings) : Json.Expressible t.toValue :=
  .table (by simp) (by simp [Json.Expressible.bool, expressible_nullable, Json.Expressible.text])

theorem UserSearch.expressible (u : UserSearch) : Json.Expressible u.toValue :=
  .table (by simp) (by simp [Json.Expressible.text])

theorem GroupSearch.expressible (g : GroupSearch) : Json.Expressible g.toValue :=
  .table (by simp) (by simp [Json.Expressible.text])

theorem Limits.expressible (l : Limits) : Json.Expressible l.toValue :=
  .table (by simp) (by simp [Json.Expressible.integer])

theorem Settings.expressible (s : Settings) : Json.Expressible s.toValue :=
  .table (by simp) (by
    simp [Json.Expressible.bool, Json.Expressible.text, Json.Expressible.integer,
      expressible_nullable, expressible_map, UserSearch.expressible, GroupSearch.expressible,
      TlsSettings.expressible, Limits.expressible])

theorem Configuration.expressible (c : Configuration) : Json.Expressible c.toValue :=
  .table (by simp) (by simp [Logging.expressible, Settings.expressible])

/-! ## Searches without a base -/

/-- The member of a record: under its name in a table, at its place in a list. -/
def memberOf? (names : List String) (name : String) : Value → Option Value
  | .table members => members.lookup name
  | .list items => items[names.idxOf name]?
  | _ => none

def Configuration.names : List String := ["logging", "ldap"]

def Settings.names : List String :=
  ["urls", "anonymous_mode", "reader_dn", "password", "tls", "search_settings",
   "group_search_settings", "connect_timeout_seconds", "search_limits"]

def UserSearch.names : List String := ["base_dn", "filter", "username_attribute"]

def GroupSearch.names : List String := ["group_base_dn", "group_filter", "group_attribute"]

/-- An item of a list in the settings of a configuration. -/
def Listed (v : Value) (name : String) (item : Value) : Prop :=
  ∃ settings items, memberOf? Configuration.names "ldap" v = some settings ∧
    memberOf? Settings.names name settings = some (.list items) ∧ item ∈ items

/-- One of the searches has no base. -/
def LacksBase (v : Value) : Prop :=
  (∃ search, Listed v "search_settings" search ∧
      memberOf? UserSearch.names "base_dn" search = none) ∨
    ∃ search, Listed v "group_search_settings" search ∧
      memberOf? GroupSearch.names "group_base_dn" search = none

theorem lookup_zip {names : List String} {name : String} (h : name ∈ names) (items : List Value) :
    (names.zip items).lookup name = items[names.idxOf name]? := by
  induction names generalizing items with
  | nil => cases h
  | cons other names ih =>
      cases items with
      | nil => rfl
      | cons v items =>
          by_cases heq : name = other
          · subst heq
            rw [List.zip_cons_cons, List.lookup_cons_self, List.idxOf_cons_self,
              List.getElem?_cons_zero]
          · have hothers := ih ((List.mem_cons.mp h).resolve_left heq) items
            rw [List.zip_cons_cons, List.lookup_cons, beq_false_of_ne heq,
              List.idxOf_cons_ne _ (Ne.symm heq), List.getElem?_cons_succ]
            exact hothers

theorem Record.lookup_of? {surplus : Surplus} {names : List String} {v : Value} {record : Record}
    {name : String} (hrecord : Record.of? surplus names v = some record) (hname : name ∈ names) :
    record.lookup name = memberOf? names name v := by
  cases v with
  | table members =>
      rw [Record.of?] at hrecord
      split at hrecord
      · cases hrecord
        rfl
      · cases hrecord
  | list items =>
      rw [Record.of?] at hrecord
      split at hrecord
      · cases hrecord
      · cases hrecord
        exact lookup_zip hname items
  | moment => cases hrecord; rfl
  | _ => cases hrecord

section Refusal

variable {α β : Type} {surplus : Surplus} {name : String} {v w : Value}
  {decode : Value → Option α}

theorem Record.of?_bind_required_eq_none {names : List String} (hname : name ∈ names)
    (h : memberOf? names name v = none) (next : Record → α → Option β) :
    ((Record.of? surplus names v).bind fun r => (r.required name decode).bind (next r)) = none := by
  cases hrecord : Record.of? surplus names v with
  | none => rfl
  | some record =>
      have hlookup := (Record.lookup_of? hrecord hname).trans h
      rw [Option.bind_some, Record.required, hlookup]
      rfl

theorem Record.decode_eq_some {names : List String} {record : Record} {absent a : α}
    (hrecord : Record.of? surplus names v = some record) (hname : name ∈ names)
    (hw : memberOf? names name v = some w) (h : record.optional name absent decode = some a) :
    decode w = some a := by
  rw [Record.optional, Record.lookup_of? hrecord hname, hw] at h
  exact h

theorem isSome_of_listOf? {items : List Value} {as : List α}
    (h : listOf? decode (.list items) = some as) (hv : v ∈ items) : (decode v).isSome := by
  rw [listOf?] at h
  induction items generalizing as with
  | nil => cases hv
  | cons w items ih =>
      rw [List.mapM_cons] at h
      obtain ⟨a, ha, h⟩ := Option.bind_eq_some_iff.mp h
      obtain ⟨others, hothers, -⟩ := Option.bind_eq_some_iff.mp h
      rcases List.mem_cons.mp hv with rfl | hv
      · exact Option.isSome_of_eq_some ha
      · exact ih hothers hv

theorem UserSearch.of?_eq_none (h : memberOf? names "base_dn" v = none) :
    UserSearch.of? surplus v = none :=
  Record.of?_bind_required_eq_none (by simp [names]) h _

theorem GroupSearch.of?_eq_none (h : memberOf? names "group_base_dn" v = none) :
    GroupSearch.of? surplus v = none :=
  Record.of?_bind_required_eq_none (by simp [names]) h _

theorem Settings.userSearches_of? {s : Settings} (h : Settings.of? surplus v = some s)
    (hw : memberOf? names "search_settings" v = some w) :
    listOf? (UserSearch.of? surplus) w = some s.userSearches := by
  simp only [Settings.of?, Option.bind_eq_bind, Option.bind_eq_some_iff] at h
  obtain ⟨record, hrecord, urls, -, anonymous, -, readerDn, -, password, -, tls, -, users, husers,
    groups, -, timeout, -, limits, -, h⟩ := h
  cases h
  exact Record.decode_eq_some hrecord (by simp) hw husers

theorem Settings.groupSearches_of? {s : Settings} (h : Settings.of? surplus v = some s)
    (hw : memberOf? names "group_search_settings" v = some w) :
    listOf? (GroupSearch.of? surplus) w = some s.groupSearches := by
  simp only [Settings.of?, Option.bind_eq_bind, Option.bind_eq_some_iff] at h
  obtain ⟨record, hrecord, urls, -, anonymous, -, readerDn, -, password, -, tls, -, users, -,
    groups, hgroups, timeout, -, limits, -, h⟩ := h
  cases h
  exact Record.decode_eq_some hrecord (by simp) hw hgroups

theorem Configuration.settings_of? {c : Configuration} (h : Configuration.of? surplus v = some c)
    (hw : memberOf? names "ldap" v = some w) : Settings.of? surplus w = some c.settings := by
  obtain ⟨record, hrecord, h⟩ := Option.bind_eq_some_iff.mp h
  obtain ⟨logging, -, h⟩ := Option.bind_eq_some_iff.mp h
  obtain ⟨settings, hsettings, h⟩ := Option.bind_eq_some_iff.mp h
  cases h
  exact Record.decode_eq_some hrecord (by simp) hw hsettings

theorem Configuration.of?_eq_none (h : LacksBase v) : Configuration.of? surplus v = none := by
  refine Option.eq_none_iff_forall_ne_some.mpr fun c hc => ?_
  rcases h with ⟨search, ⟨settings, items, hsettings, hitems, hsearch⟩, hbase⟩ |
    ⟨search, ⟨settings, items, hsettings, hitems, hsearch⟩, hbase⟩
  · have hread := Settings.userSearches_of? (Configuration.settings_of? hc hsettings) hitems
    have hsome := isSome_of_listOf? hread hsearch
    rw [UserSearch.of?_eq_none hbase] at hsome
    exact Bool.noConfusion hsome
  · have hread := Settings.groupSearches_of? (Configuration.settings_of? hc hsettings) hitems
    have hsome := isSome_of_listOf? hread hsearch
    rw [GroupSearch.of?_eq_none hbase] at hsome
    exact Bool.noConfusion hsome

end Refusal

/-- It is read back from its own text, and from any other text that holds it. Texts are read as
documents first, so of a member that is repeated the last one counts. -/
structure Configuration.Restored (c : Configuration) : Prop where
  compact : (Json.parse? (Json.compact c.toValue)).bind (of? .refused) = some c
  pretty : (Json.parse? (Json.pretty c.toValue)).bind (of? .refused) = some c
  presented : c.Presented c.toValue
  document : ∀ surplus v, v.isReadable → c.Presented v → of? surplus v = some c
  text : ∀ text v, Json.parse? text = some v → c.Presented v →
    (Json.parse? text).bind (of? .refused) = some c

/-- However the members of its records are arranged, a configuration is read back as it is; where a
search has no base, nothing is read. -/
theorem configuration_restored (c : Configuration) :
    c.Restored ∧ ∀ surplus v, LacksBase v → Configuration.of? surplus v = none := by
  have hexpressible := c.expressible
  have hread (surplus : Surplus) : Configuration.of? surplus c.toValue = some c :=
    Configuration.of?_of_presented hexpressible.isReadable surplus c.presented_toValue
  have hpretty := Json.parse?_pretty hexpressible "" (by simp)
  rw [String.append_empty] at hpretty
  refine ⟨⟨?_, ?_, c.presented_toValue, ?_, ?_⟩, fun surplus v => Configuration.of?_eq_none⟩
  · rw [Json.parse?_compact hexpressible]
    exact hread .refused
  · rw [hpretty]
    exact hread .refused
  · exact fun surplus v hv h => Configuration.of?_of_presented hv surplus h
  · intro text v htext h
    rw [htext]
    exact Configuration.of?_of_presented (Json.isReadable_of_parse? htext) .refused h

/-- The settings before what reports on them, a list for a record, and a search that says nothing of
its filter beside one that says nothing of its base. -/
theorem configuration_restored_rearranged :
    ∃ (c : Configuration) (arranged broken : Value),
      arranged.isReadable ∧ c.Presented arranged ∧ arranged ≠ c.toValue ∧
        Configuration.of? .refused arranged = some c ∧
      LacksBase broken ∧ Configuration.of? .refused broken = none := by
  let people : Value := .table [("note", .null), ("base_dn", .text "ou=people")]
  let nameless : Value := .list []
  let document (searches : List Value) : Value :=
    .table [("ldap", .table [("search_settings", .list searches), ("tls", .list [.bool true])]),
      ("comment", .integer 1), ("logging", .list [.text "debug"])]
  let c : Configuration :=
    { logging := { level := "debug" },
      settings := { tls := { enabled := true }, userSearches := [{ baseDn := "ou=people" }] } }
  have hlogging : c.logging.Presented (.list [.text "debug"]) :=
    .list (.written rfl (.cut (by simp [Part.optional, c])))
  have htls : c.settings.tls.Presented (.list [.bool true]) :=
    .list (.written rfl (.cut (by simp [Part.optional, c])))
  have hpeople : UserSearch.Presented { baseDn := "ou=people" } people := by
    have hnote : ∀ m ∈ [("note", Value.null)],
        m.1 ∉ (UserSearch.parts { baseDn := "ou=people" }).map Part.name := by
      simp [UserSearch.parts, Part.optional, Part.required]
    exact .table (.written rfl (.omitted rfl (.omitted rfl .nil))) hnote (.swap _ _ _)
  have hsettings : c.settings.Presented
      (.table [("search_settings", .list [people]), ("tls", .list [.bool true])]) := by
    have hnone : ∀ m ∈ ([] : Record), m.1 ∉ c.settings.parts.map Part.name := nofun
    have hsearches : each UserSearch.Presented c.settings.userSearches (.list [people]) :=
      ⟨_, rfl, .cons hpeople .nil⟩
    have hrest : Kept (c.settings.parts.drop 6) [] :=
      .omitted rfl (.omitted rfl (.omitted rfl .nil))
    have hkept : Kept (c.settings.parts.drop 4)
        [("tls", .list [.bool true]), ("search_settings", .list [people])] :=
      .written htls (.written hsearches hrest)
    exact .table (.omitted rfl (.omitted rfl (.omitted rfl (.omitted rfl hkept)))) hnone
      (.swap _ _ _)
  have harranged : c.Presented (document [people]) := by
    have hcomment : ∀ m ∈ [("comment", Value.integer 1)], m.1 ∉ c.parts.map Part.name := by
      simp [Configuration.parts, Part.optional]
    refine .table (.written hlogging (.written hsettings .nil)) hcomment ?_
    exact (List.Perm.cons _ (.swap _ _ _)).trans (.swap _ _ _)
  have hbroken : LacksBase (document [people, nameless]) :=
    .inl ⟨nameless, ⟨_, _, rfl, rfl, by simp⟩, rfl⟩
  have hother : document [people] ≠ c.toValue := by simp [document, Configuration.toValue]
  obtain ⟨restored, hrefused⟩ := configuration_restored c
  exact ⟨c, document [people], document [people, nameless], rfl, harranged, hother,
    restored.document .refused _ rfl harranged, hbroken, hrefused .refused _ hbroken⟩

end DirectoryLogin.Config
