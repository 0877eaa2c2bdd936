import DirectoryLogin.Config.Environment
import DirectoryLogin.Proofs.Pieces
import DirectoryLogin.Proofs.Validity

/-!
# What a configuration takes from the environment

Each member of a configuration depends on its own variable only, and those of a search also on the
variable for its base. The list of the servers holds the parts of its text that are not blank,
trimmed; such a list is read back from its own text.
-/

namespace DirectoryLogin.Config

/-! ## The list of the servers -/

def isNamed (part : String) : Bool := part.toList.any fun c => !Text.isBlank c

/-- A server as it can be listed. -/
structure Listable (url : String) : Prop where
  whole : ',' ∉ url.toList
  named : ∃ c ∈ url.toList, Text.isBlank c = false
  trimmed : Text.Trims url.toList url.toList

theorem isNamed_eq_false_iff (part : String) :
    isNamed part = false ↔ Text.trim part.toList = [] := by
  rw [Text.trim_eq_nil_iff, isNamed, List.any_eq_false]
  simp

theorem serverList_of_parted {text : String} {parts : List String} (h : Text.Parted text parts) :
    serverList text =
      (parts.filter isNamed).map fun part => String.ofList (Text.trim part.toList) := by
  rw [serverList, h.pieces_eq]
  clear h
  induction parts with
  | nil => rfl
  | cons part rest ih =>
      rw [List.map_cons, List.map_cons, List.filterMap_cons, ih]
      cases hnamed : isNamed part with
      | false => simp [hnamed, (isNamed_eq_false_iff part).mp hnamed]
      | true =>
          have hne : Text.trim part.toList ≠ [] := by
            intro hnil
            rw [(isNamed_eq_false_iff part).mpr hnil] at hnamed
            cases hnamed
          simp [hnamed, hne]

theorem listable_of_mem {text url : String} (h : url ∈ serverList text) : Listable url := by
  have hparted := Text.parted_pieces text
  rw [serverList_of_parted hparted] at h
  obtain ⟨part, hmem, rfl⟩ := List.mem_map.mp h
  obtain ⟨hpart, hnamed⟩ := List.mem_filter.mp hmem
  have htrims := Text.trims_trim part.toList
  constructor
  · rw [String.toList_ofList]
    intro hcomma
    obtain ⟨front, back, htext, -⟩ := htrims.around
    apply hparted.whole part hpart
    rw [htext]
    exact List.mem_append_right front (List.mem_append_left back hcomma)
  · rw [String.toList_ofList]
    cases hinner : Text.trim part.toList with
    | nil =>
        rw [(isNamed_eq_false_iff part).mpr hinner] at hnamed
        cases hnamed
    | cons c rest =>
        rw [hinner] at htrims
        exact ⟨c, List.mem_cons_self, htrims.first c rfl⟩
  · rw [String.toList_ofList]
    exact .of_ends htrims.first htrims.last

theorem serverList_intercalate {urls : List String} (h : ∀ url ∈ urls, Listable url) :
    serverList (",".intercalate urls) = urls := by
  cases urls with
  | nil => rfl
  | cons first others =>
      have hparted : Text.Parted (",".intercalate (first :: others)) (first :: others) :=
        ⟨rfl, List.cons_ne_nil first others, fun url hurl => (h url hurl).whole⟩
      have hnamed : ∀ url ∈ first :: others, isNamed url = true := by
        intro url hurl
        obtain ⟨c, hc, hblank⟩ := (h url hurl).named
        exact List.any_eq_true.mpr ⟨c, hc, by rw [hblank]; rfl⟩
      have hsame : ∀ url ∈ first :: others, String.ofList (Text.trim url.toList) = id url := by
        intro url hurl
        rw [← (h url hurl).trimmed.eq_trim, String.ofList_toList]
        rfl
      rw [serverList_of_parted hparted, List.filter_eq_self.mpr hnamed, List.map_congr_left hsame,
        List.map_id]

/-! ## Members and their variables -/

/-- The members of a configuration, down to single texts and switches. -/
inductive Member where
  | logLevel
  | logFormat
  | servers
  | anonymous
  | readerDn
  | password
  | tls
  | startTls
  | skipVerify
  | authorities
  | certificate
  | key
  | userBase
  | userFilter
  | userAttribute
  | groupBase
  | groupFilter
  | groupAttribute
  | connectTimeout
  | limits

namespace Member

abbrev Value : Member → Type
  | .logLevel | .logFormat | .readerDn | .password => String
  | .anonymous | .tls | .startTls | .skipVerify => Bool
  | .authorities | .certificate | .key => Option String
  | .servers | .userBase | .userFilter | .userAttribute | .groupBase | .groupFilter
  | .groupAttribute => List String
  | .connectTimeout => Option UInt64
  | .limits => Limits

/-- What a configuration has for a member: of searches, what each of them has. -/
def of (c : Configuration) : (m : Member) → m.Value
  | .logLevel => c.logging.level
  | .logFormat => c.logging.format
  | .servers => c.settings.urls
  | .anonymous => c.settings.anonymous
  | .readerDn => c.settings.readerDn
  | .password => c.settings.password
  | .tls => c.settings.tls.enabled
  | .startTls => c.settings.tls.startTls
  | .skipVerify => c.settings.tls.skipVerify
  | .authorities => c.settings.tls.caPath
  | .certificate => c.settings.tls.certPath
  | .key => c.settings.tls.keyPath
  | .userBase => c.settings.userSearches.map (·.baseDn)
  | .userFilter => c.settings.userSearches.map (·.filter)
  | .userAttribute => c.settings.userSearches.map (·.loginAttribute)
  | .groupBase => c.settings.groupSearches.map (·.baseDn)
  | .groupFilter => c.settings.groupSearches.map (·.filter)
  | .groupAttribute => c.settings.groupSearches.map (·.memberAttribute)
  | .connectTimeout => c.settings.connectTimeout
  | .limits => c.settings.limits

def name? : Member → Option String
  | .logLevel => some "DIRAUTH_LOG_LEVEL"
  | .logFormat => some "DIRAUTH_LOG_FORMAT"
  | .servers => some "DIRAUTH_LDAP_URLS"
  | .anonymous => some "DIRAUTH_LDAP_ANONYMOUS"
  | .readerDn => some "DIRAUTH_LDAP_READER_DN"
  | .password => some "DIRAUTH_LDAP_PASSWORD"
  | .tls => some "DIRAUTH_LDAP_TLS"
  | .startTls => some "DIRAUTH_LDAP_STARTTLS"
  | .skipVerify => some "DIRAUTH_LDAP_TLS_SKIP_VERIFY"
  | .authorities => some "DIRAUTH_LDAP_TLS_CA"
  | .certificate => some "DIRAUTH_LDAP_TLS_CERT"
  | .key => some "DIRAUTH_LDAP_TLS_KEY"
  | .userBase => some "DIRAUTH_LDAP_USER_BASE_DN"
  | .userFilter => some "DIRAUTH_LDAP_USER_FILTER"
  | .userAttribute => some "DIRAUTH_LDAP_USERNAME_ATTRIBUTE"
  | .groupBase => some "DIRAUTH_LDAP_GROUP_BASE_DN"
  | .groupFilter => some "DIRAUTH_LDAP_GROUP_FILTER"
  | .groupAttribute => some "DIRAUTH_LDAP_GROUP_ATTRIBUTE"
  | .connectTimeout | .limits => none

/-- The variable without which there is no such member. -/
def baseName? : Member → Option String
  | .userFilter | .userAttribute => some "DIRAUTH_LDAP_USER_BASE_DN"
  | .groupFilter | .groupAttribute => some "DIRAUTH_LDAP_GROUP_BASE_DN"
  | _ => none

/-- What the member is, by the texts of its variable and of the one for its base: without a text it
is the usual value, and without a base there is no search for it to be a part of. -/
def value (base? own? : Option String) : (m : Member) → m.Value
  | .logLevel => own?.getD "info"
  | .logFormat => own?.getD "pretty"
  | .readerDn | .password => own?.getD ""
  | .anonymous | .tls | .startTls | .skipVerify => own? = some "true" || own? = some "1"
  | .authorities | .certificate | .key => own?
  | .servers => (own?.map serverList).getD []
  | .userBase | .groupBase => own?.toList
  | .userFilter => base?.toList.map fun _ => own?.getD "(objectClass=inetOrgPerson)"
  | .userAttribute => base?.toList.map fun _ => own?.getD "uid"
  | .groupFilter => base?.toList.map fun _ => own?.getD "(objectClass=groupOfNames)"
  | .groupAttribute => base?.toList.map fun _ => own?.getD "member"
  | .connectTimeout => none
  | .limits => {}

def names (m : Member) : List String := m.baseName?.toList ++ m.name?.toList

theorem eq_of_name? {m m' : Member} {name : String} (h : m.name? = some name)
    (h' : m'.name? = some name) : m = m' := by
  cases m <;> cases h <;> cases m' <;> first | rfl | simp [name?] at h'

theorem baseName?_of_name? {m m' : Member} {base : String} (h : m.baseName? = some base)
    (h' : m'.name? = some base) : m'.baseName? = none := by
  cases m <;> cases h <;> cases m' <;> first | rfl | simp [name?] at h'

private theorem eq_of_maps {α : Type} {f g h : α → String} {xs ys : List α}
    (inj : ∀ a b, f a = f b → g a = g b → h a = h b → a = b) (hf : xs.map f = ys.map f)
    (hg : xs.map g = ys.map g) (hh : xs.map h = ys.map h) : xs = ys := by
  have htriple : xs.map (fun a => (f a, g a, h a)) = ys.map fun a => (f a, g a, h a) := by
    rw [← List.zip_map', ← List.zip_map', ← List.zip_map', ← List.zip_map', hf, hg, hh]
  apply (List.map_inj_right fun a b heq => ?_).mp htriple
  obtain ⟨hfab, hgh⟩ := Prod.ext_iff.mp heq
  obtain ⟨hgab, hhab⟩ := Prod.ext_iff.mp hgh
  exact inj a b hfab hgab hhab

theorem ext {c c' : Configuration} (h : ∀ m : Member, m.of c = m.of c') : c = c' := by
  have users : c.settings.userSearches = c'.settings.userSearches := by
    apply eq_of_maps _ (h .userBase) (h .userFilter) (h .userAttribute)
    rintro ⟨⟩ ⟨⟩ rfl rfl rfl
    rfl
  have groups : c.settings.groupSearches = c'.settings.groupSearches := by
    apply eq_of_maps _ (h .groupBase) (h .groupFilter) (h .groupAttribute)
    rintro ⟨⟩ ⟨⟩ rfl rfl rfl
    rfl
  obtain ⟨⟨_, _⟩, ⟨_, _, _, _, ⟨_, _, _, _, _, _⟩, _, _, _, _⟩⟩ := c
  obtain ⟨⟨_, _⟩, ⟨_, _, _, _, ⟨_, _, _, _, _, _⟩, _, _, _, _⟩⟩ := c'
  rw [Configuration.mk.injEq, Logging.mk.injEq, Settings.mk.injEq, TlsSettings.mk.injEq]
  exact ⟨⟨h .logLevel, h .logFormat⟩, h .servers, h .anonymous, h .readerDn, h .password,
    ⟨h .tls, h .startTls, h .authorities, h .certificate, h .key, h .skipVerify⟩, users, groups,
    h .connectTimeout, h .limits⟩

end Member

namespace Environment

def Agree (names : List String) (env other : Environment) : Prop :=
  ∀ name ∈ names, env.text? name = other.text? name

theorem text?_eq_some_iff {env : Environment} {name text : String} :
    env.text? name = some text ↔ env.lookup name = some (Text.octets text) := by
  rw [text?, Option.bind_eq_some_iff]
  constructor
  · rintro ⟨bytes, hbytes, htext⟩
    rw [hbytes, Text.ofOctets?_eq_some_iff.mp htext]
  · intro h
    exact ⟨_, h, Text.ofOctets?_octets text⟩

end Environment

open Environment

theorem Member.of_ofEnvironment (env : Environment) (m : Member) : m.of (.ofEnvironment env) =
    m.value (m.baseName?.bind env.text?) (m.name?.bind env.text?) := by
  have users {α : Type} (part : UserSearch → α) :
      (Settings.ofEnvironment env).userSearches.map part =
        (env.text? "DIRAUTH_LDAP_USER_BASE_DN").toList.map fun baseDn =>
          part ⟨baseDn, (env.text? "DIRAUTH_LDAP_USER_FILTER").getD "(objectClass=inetOrgPerson)",
            (env.text? "DIRAUTH_LDAP_USERNAME_ATTRIBUTE").getD "uid"⟩ := by
    rw [Settings.ofEnvironment, UserSearch.ofEnvironment]
    cases env.text? "DIRAUTH_LDAP_USER_BASE_DN" <;> rfl
  have groups {α : Type} (part : GroupSearch → α) :
      (Settings.ofEnvironment env).groupSearches.map part =
        (env.text? "DIRAUTH_LDAP_GROUP_BASE_DN").toList.map fun baseDn =>
          part ⟨baseDn, (env.text? "DIRAUTH_LDAP_GROUP_FILTER").getD "(objectClass=groupOfNames)",
            (env.text? "DIRAUTH_LDAP_GROUP_ATTRIBUTE").getD "member"⟩ := by
    rw [Settings.ofEnvironment, GroupSearch.ofEnvironment]
    cases env.text? "DIRAUTH_LDAP_GROUP_BASE_DN" <;> rfl
  cases m with
  | userBase => exact (users _).trans (List.map_id _)
  | groupBase => exact (groups _).trans (List.map_id _)
  | userFilter | userAttribute => exact users _
  | groupFilter | groupAttribute => exact groups _
  | _ => rfl

theorem Member.of_congr {env other : Environment} (m : Member) (h : Agree m.names env other) :
    m.of (.ofEnvironment env) = m.of (.ofEnvironment other) := by
  have hsame (name? : Option String) (hnames : ∀ name ∈ name?, name ∈ m.names) :
      name?.bind env.text? = name?.bind other.text? := by
    cases name? with
    | none => rfl
    | some name => exact h name (hnames name rfl)
  rw [m.of_ofEnvironment env, m.of_ofEnvironment other,
    hsame m.baseName? fun name hname => List.mem_append_left _ (Option.mem_toList.mpr hname),
    hsame m.name? fun name hname => List.mem_append_right _ (Option.mem_toList.mpr hname)]

theorem Member.value_of_base_unset {m : Member} {base : String} (hm : m.baseName? = some base)
    (own? own'? : Option String) : m.value none own? = m.value none own'? := by
  cases m <;> cases hm <;> rfl

/-- Without the variable for its base, the others of a search make no difference. -/
theorem ofEnvironment_eq_of_base_unset {env other : Environment} {base : String}
    (h : env.text? base = none)
    (agree : ∀ name, (∀ m : Member, m.name? = some name → m.baseName? ≠ some base) →
      env.text? name = other.text? name) :
    Configuration.ofEnvironment env = Configuration.ofEnvironment other := by
  apply Member.ext
  intro m
  -- The variable for a base is itself no part of a search.
  have hbase {m : Member} {name : String} (hm : m.baseName? = some name) :
      env.text? name = other.text? name := by
    apply agree
    intro m' hname
    rw [Member.baseName?_of_name? hm hname]
    nofun
  by_cases hm : m.baseName? = some base
  · have h' : other.text? base = none := by rw [← hbase hm, h]
    rw [m.of_ofEnvironment env, m.of_ofEnvironment other, hm]
    simpa only [Option.bind_some, h, h'] using Member.value_of_base_unset hm _ _
  · apply m.of_congr
    intro name hname
    rcases List.mem_append.mp hname with hname | hname
    · exact hbase (Option.mem_toList.mp hname)
    · apply agree
      intro m' hname'
      rwa [Member.eq_of_name? hname' (Option.mem_toList.mp hname)]

/-! ## The configuration as a whole -/

/-- What becomes of the text for the servers. -/
structure ServersLoaded (env : Environment) (urls : List String) : Prop where
  unset : env.text? "DIRAUTH_LDAP_URLS" = none → urls = []
  parted : ∀ text : String, ∃! parts, Text.Parted text parts
  listed : ∀ text parts, env.text? "DIRAUTH_LDAP_URLS" = some text → Text.Parted text parts →
    List.Forall₂ (fun part url => Text.Trims part.toList url.toList) (parts.filter isNamed) urls
  listable : ∀ url ∈ urls, Listable url
  again : ∀ other : Environment,
    other.text? "DIRAUTH_LDAP_URLS" = some (",".intercalate urls) →
      (Settings.ofEnvironment other).urls = urls

/-- What the environment gives for each member, and which of its variables matter for what. -/
structure Loaded (env : Environment) : Prop where
  /-- A variable with octets that are no text has no text. -/
  read : ∀ name text, env.text? name = some text ↔ env.lookup name = some (Text.octets text)
  servers : ServersLoaded env (Settings.ofEnvironment env).urls
  accepted : (Settings.ofEnvironment env).validate ≠ .error .blankServer
  values : ∀ m : Member, m.of (.ofEnvironment env) =
    m.value (m.baseName?.bind env.text?) (m.name?.bind env.text?)
  users : (Settings.ofEnvironment env).userSearches.length =
    if (env.text? "DIRAUTH_LDAP_USER_BASE_DN").isSome then 1 else 0
  groups : (Settings.ofEnvironment env).groupSearches.length =
    if (env.text? "DIRAUTH_LDAP_GROUP_BASE_DN").isSome then 1 else 0
  idle : ∀ (base : String) (other : Environment), env.text? base = none →
    (∀ name, (∀ m : Member, m.name? = some name → m.baseName? ≠ some base) →
      env.text? name = other.text? name) →
    Configuration.ofEnvironment env = Configuration.ofEnvironment other
  apart : ∀ (m : Member) (other : Environment), Agree m.names env other →
    m.of (.ofEnvironment env) = m.of (.ofEnvironment other)
  /-- No variable is for two members. -/
  own : ∀ (m m' : Member) (name : String), m.name? = some name → m'.name? = some name → m = m'
  whole : ∀ c c' : Configuration, (∀ m : Member, m.of c = m.of c') → c = c'

theorem urls_ofEnvironment {env : Environment} {text : String}
    (h : env.text? "DIRAUTH_LDAP_URLS" = some text) :
    (Settings.ofEnvironment env).urls = serverList text := by
  rw [Settings.ofEnvironment, h]
  rfl

private theorem listable_ofEnvironment (env : Environment) :
    ∀ url ∈ (Settings.ofEnvironment env).urls, Listable url := by
  intro url hurl
  cases htext : env.text? "DIRAUTH_LDAP_URLS" with
  | none =>
      rw [Settings.ofEnvironment, htext] at hurl
      cases hurl
  | some text =>
      rw [urls_ofEnvironment htext] at hurl
      exact listable_of_mem hurl

private theorem serversLoaded (env : Environment) :
    ServersLoaded env (Settings.ofEnvironment env).urls where
  unset h := by
    rw [Settings.ofEnvironment, h]
    rfl
  parted text := ⟨_, Text.parted_pieces text, fun _ h => h.unique (Text.parted_pieces text)⟩
  listed text parts h hparted := by
    rw [urls_ofEnvironment h, serverList_of_parted hparted, List.forall₂_map_right_iff,
      List.forall₂_same]
    intro part _
    rw [String.toList_ofList]
    exact Text.trims_trim part.toList
  listable := listable_ofEnvironment env
  again other h := by
    rw [urls_ofEnvironment h]
    exact serverList_intercalate (listable_ofEnvironment env)

/-- A configuration from the environment takes each member from the variable for it. The servers are
the trimmed parts of their text that are not blank. -/
theorem environment_loaded (env : Environment) : Loaded env where
  read name text := text?_eq_some_iff
  servers := serversLoaded env
  accepted := by
    intro h
    obtain ⟨⟨url, hurl, hblank⟩, -⟩ := Settings.validate_eq_error_iff_isFirst.mp h
    obtain ⟨c, hc, hnot⟩ := (listable_ofEnvironment env url hurl).named
    rw [hblank c hc] at hnot
    cases hnot
  values := Member.of_ofEnvironment env
  users := by
    rw [Settings.ofEnvironment, UserSearch.ofEnvironment]
    cases env.text? "DIRAUTH_LDAP_USER_BASE_DN" <;> rfl
  groups := by
    rw [Settings.ofEnvironment, GroupSearch.ofEnvironment]
    cases env.text? "DIRAUTH_LDAP_GROUP_BASE_DN" <;> rfl
  idle base other := ofEnvironment_eq_of_base_unset
  apart m other := m.of_congr
  own m m' name := Member.eq_of_name?
  whole c c' := Member.ext

example : serverList " ldap1:389 , ,ldap2:636" = ["ldap1:389", "ldap2:636"] := by decide

end DirectoryLogin.Config
