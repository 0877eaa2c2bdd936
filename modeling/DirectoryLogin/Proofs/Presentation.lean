import DirectoryLogin.Config.Decoding
import DirectoryLogin.Config.Encoding
import DirectoryLogin.Proofs.Compact
import Mathlib.Data.List.Forall2
import Mathlib.Data.List.Nodup
import Mathlib.Data.List.Perm.Basic

/-!
# The ways to write a configuration

A record is written as a table of its members in any order, beside unknown ones and without those
that have their default, or as a list of its members from the first on. However the records of a
configuration are written, it is read back as it is.
-/

namespace DirectoryLogin.Config

open Document (Value)

/-! ## Records -/

/-- A member of a record: its name, how it may be written, and whether it may be left out. -/
structure Part where
  name : String
  written : Value → Prop
  omissible : Prop

def Part.optional {α : Type} (name : String) (written : α → Value → Prop) (absent a : α) : Part :=
  ⟨name, written a, a = absent⟩

def Part.required {α : Type} (name : String) (written : α → Value → Prop) (a : α) : Part :=
  ⟨name, written a, False⟩

/-- The members under their names in order, without some that may be left out. -/
inductive Kept : List Part → Record → Prop
  | nil : Kept [] []
  | written {part parts v record} (h : part.written v) (others : Kept parts record) :
      Kept (part :: parts) ((part.name, v) :: record)
  | omitted {part parts record} (h : part.omissible) (others : Kept parts record) :
      Kept (part :: parts) record

/-- The members in order, up to a point from which on all may be left out. -/
inductive Placed : List Part → List Value → Prop
  | cut {parts} (h : ∀ part ∈ parts, part.omissible) : Placed parts []
  | written {part parts v items} (h : part.written v) (others : Placed parts items) :
      Placed (part :: parts) (v :: items)

/-- The document is a record with these members. -/
inductive Presents (parts : List Part) : Value → Prop
  | table {kept unknown members : Record} (h : Kept parts kept)
      (hunknown : ∀ m ∈ unknown, m.1 ∉ parts.map Part.name)
      (arranged : members.Perm (kept ++ unknown)) : Presents parts (.table members)
  | list {items : List Value} (h : Placed parts items) : Presents parts (.list items)

/-! ## Configurations -/

section Forms

variable {α : Type}

/-- There is one way to write it. -/
def exactly (encode : α → Value) (a : α) (v : Value) : Prop := v = encode a

/-- A list of items, each written in one of its ways. -/
def each (written : α → Value → Prop) (as : List α) (v : Value) : Prop :=
  ∃ items, v = .list items ∧ List.Forall₂ written as items

end Forms

def Logging.parts (l : Logging) : List Part :=
  [.optional "level" (exactly .text) "info" l.level,
   .optional "format" (exactly .text) "pretty" l.format]

def Logging.Presented (l : Logging) : Value → Prop := Presents l.parts

def TlsSettings.parts (t : TlsSettings) : List Part :=
  [.optional "enabled" (exactly .bool) false t.enabled,
   .optional "start_tls" (exactly .bool) false t.startTls,
   .optional "ca_cert_path" (exactly (nullable .text)) none t.caPath,
   .optional "cert_path" (exactly (nullable .text)) none t.certPath,
   .optional "key_path" (exactly (nullable .text)) none t.keyPath,
   .optional "skip_verify" (exactly .bool) false t.skipVerify]

def TlsSettings.Presented (t : TlsSettings) : Value → Prop := Presents t.parts

def UserSearch.parts (u : UserSearch) : List Part :=
  [.required "base_dn" (exactly .text) u.baseDn,
   .optional "filter" (exactly .text) "(objectClass=*)" u.filter,
   .optional "username_attribute" (exactly .text) "uid" u.loginAttribute]

def UserSearch.Presented (u : UserSearch) : Value → Prop := Presents u.parts

def GroupSearch.parts (g : GroupSearch) : List Part :=
  [.required "group_base_dn" (exactly .text) g.baseDn,
   .optional "group_filter" (exactly .text) "(objectClass=groupOfNames)" g.filter,
   .optional "group_attribute" (exactly .text) "member" g.memberAttribute]

def GroupSearch.Presented (g : GroupSearch) : Value → Prop := Presents g.parts

def Limits.parts (l : Limits) : List Part :=
  [.optional "size_limit" (exactly fun n : Int32 => .integer n.toInt) 0 l.size,
   .optional "time_limit" (exactly fun n : Int32 => .integer n.toInt) 0 l.time]

def Limits.Presented (l : Limits) : Value → Prop := Presents l.parts

def Settings.parts (s : Settings) : List Part :=
  [.optional "urls" (each (exactly .text)) [] s.urls,
   .optional "anonymous_mode" (exactly .bool) false s.anonymous,
   .optional "reader_dn" (exactly .text) "" s.readerDn,
   .optional "password" (exactly .text) "" s.password,
   .optional "tls" TlsSettings.Presented {} s.tls,
   .optional "search_settings" (each UserSearch.Presented) [] s.userSearches,
   .optional "group_search_settings" (each GroupSearch.Presented) [] s.groupSearches,
   .optional "connect_timeout_seconds"
     (exactly (nullable fun t : UInt64 => .integer t.toNat)) none s.connectTimeout,
   .optional "search_limits" Limits.Presented {} s.limits]

def Settings.Presented (s : Settings) : Value → Prop := Presents s.parts

def Configuration.parts (c : Configuration) : List Part :=
  [.optional "logging" Logging.Presented {} c.logging,
   .optional "ldap" Settings.Presented {} c.settings]

/-- The document is this configuration, with its records written in any of their ways. -/
def Configuration.Presented (c : Configuration) : Value → Prop := Presents c.parts

/-! ## Reading a record -/

/-- The record has every member that may not be left out, each in one of the ways to write it. -/
def Supplies (parts : List Part) (record : Record) : Prop :=
  ∀ part ∈ parts, match record.lookup part.name with
    | some v => part.written v
    | none => part.omissible

theorem Kept.sublist {parts : List Part} {record : Record} (h : Kept parts record) :
    (record.map Prod.fst).Sublist (parts.map Part.name) := by
  induction h with
  | nil => exact .slnil
  | written _ _ ih => exact ih.cons_cons _
  | omitted _ _ ih => exact ih.cons _

theorem lookup_eq_none_of_ne {record : Record} {name : String} (h : ∀ m ∈ record, m.1 ≠ name) :
    record.lookup name = none := by
  rw [List.lookup_eq_none_iff]
  intro m hm
  exact bne_iff_ne.mpr (h m hm).symm

theorem mem_of_lookup_eq_some {record : Record} {name : String} {v : Value}
    (h : record.lookup name = some v) : (name, v) ∈ record := by
  obtain ⟨before, after, rfl, -⟩ := List.lookup_eq_some_iff.mp h
  exact List.mem_append_right before List.mem_cons_self

theorem Supplies.cons {parts : List Part} {record : Record} {name : String} {v : Value}
    (h : Supplies parts record) (hname : name ∉ parts.map Part.name) :
    Supplies parts ((name, v) :: record) := by
  intro part hpart
  have hne : (part.name == name) = false :=
    beq_false_of_ne fun heq => hname (heq ▸ List.mem_map_of_mem hpart)
  rw [List.lookup_cons, hne]
  exact h part hpart

theorem Supplies.written {part : Part} {parts : List Part} {record : Record} {v : Value}
    (h : Supplies parts record) (hv : part.written v) (hname : part.name ∉ parts.map Part.name) :
    Supplies (part :: parts) ((part.name, v) :: record) := by
  refine List.forall_mem_cons.mpr ⟨?_, h.cons hname⟩
  rw [List.lookup_cons_self]
  exact hv

theorem Kept.supplies {parts : List Part} {record : Record} (h : Kept parts record)
    (hnames : (parts.map Part.name).Nodup) : Supplies parts record := by
  induction h with
  | nil => exact nofun
  | written h _ ih =>
      obtain ⟨hfresh, hnames⟩ := List.nodup_cons.mp hnames
      exact (ih hnames).written h hfresh
  | @omitted part parts record h others ih =>
      obtain ⟨hfresh, hnames⟩ := List.nodup_cons.mp hnames
      refine List.forall_mem_cons.mpr ⟨?_, ih hnames⟩
      have habsent : ∀ m ∈ record, m.1 ≠ part.name := by
        intro m hm heq
        exact hfresh (heq ▸ others.sublist.subset (List.mem_map_of_mem hm))
      rw [lookup_eq_none_of_ne habsent]
      exact h

theorem Placed.supplies {parts : List Part} {items : List Value} (h : Placed parts items)
    (hnames : (parts.map Part.name).Nodup) :
    Supplies parts ((parts.map Part.name).zip items) := by
  induction h with
  | cut h =>
      intro part hpart
      rw [List.zip_nil_right, List.lookup_nil]
      exact h part hpart
  | written h _ ih =>
      obtain ⟨hfresh, hnames⟩ := List.nodup_cons.mp hnames
      exact (ih hnames).written h hfresh

theorem Placed.length_le {parts : List Part} {items : List Value} (h : Placed parts items) :
    items.length ≤ parts.length := by
  induction h with
  | cut => exact Nat.zero_le _
  | written _ _ ih => exact Nat.succ_le_succ ih

/-- Order and members with other names do not matter. -/
theorem lookup_eq_of_perm {members kept unknown : Record} {name : String}
    (arranged : members.Perm (kept ++ unknown)) (hkept : (kept.map Prod.fst).Nodup)
    (hunknown : ∀ m ∈ unknown, m.1 ≠ name) : members.lookup name = kept.lookup name := by
  -- What has the name is among the kept, and there is only one of it.
  have hmem (v : Value) (hv : (name, v) ∈ members) : (name, v) ∈ kept := by
    rcases List.mem_append.mp (arranged.subset hv) with hv | hv
    · exact hv
    · exact absurd rfl (hunknown _ hv)
  cases hfound : kept.lookup name with
  | none =>
      refine lookup_eq_none_of_ne fun m hm heq => ?_
      subst heq
      rw [List.lookup_eq_none_iff] at hfound
      have hother := hfound _ (hmem m.2 hm)
      simp at hother
  | some v =>
      have hv : (name, v) ∈ members :=
        arranged.symm.subset (List.mem_append_left _ (mem_of_lookup_eq_some hfound))
      cases hlookup : members.lookup name with
      | none =>
          rw [List.lookup_eq_none_iff] at hlookup
          have hother := hlookup _ hv
          simp at hother
      | some w =>
          have hw := hmem w (mem_of_lookup_eq_some hlookup)
          have heq := List.inj_on_of_nodup_map hkept hw (mem_of_lookup_eq_some hfound) rfl
          rw [(Prod.mk.inj heq).2]

theorem Presents.record {parts : List Part} {v : Value} (h : Presents parts v)
    (hnames : (parts.map Part.name).Nodup) (hreadable : v.isReadable) (surplus : Surplus) :
    ∃ record, Record.of? surplus (parts.map Part.name) v = some record ∧
      Supplies parts record ∧ ∀ m ∈ record, m.2.isReadable := by
  cases h with
  | @table kept unknown members h hunknown arranged =>
      have hmembers := Json.membersReadable_iff.mp hreadable
      refine ⟨members, ?_, ?_, hmembers⟩
      · rw [Record.of?, if_pos]
        rw [List.all_eq_true]
        intro m hm
        simp [hmembers m hm]
      · intro part hpart
        rw [lookup_eq_of_perm arranged (hnames.sublist h.sublist)
          fun m hm heq => hunknown m hm (heq ▸ List.mem_map_of_mem hpart)]
        exact h.supplies hnames part hpart
  | @list items h =>
      have hitems := Json.areReadable_iff.mp hreadable
      refine ⟨_, ?_, h.supplies hnames, fun m hm => hitems _ (List.of_mem_zip hm).2⟩
      have hlength := h.length_le
      rw [Record.of?, if_neg]
      simp only [List.length_map]
      omega

section Members

variable {α : Type} {parts : List Part} {record : Record} {name : String}
  {written : α → Value → Prop} {a absent : α} {decode : Value → Option α}

theorem Supplies.optional (h : Supplies parts record)
    (hpart : Part.optional name written absent a ∈ parts)
    (hdecode : ∀ v, (name, v) ∈ record → written a v → decode v = some a) :
    record.optional name absent decode = some a := by
  have hsupplied := h _ hpart
  dsimp only [Part.optional] at hsupplied
  rw [Record.optional]
  cases hfound : record.lookup name with
  | none =>
      rw [hfound] at hsupplied
      exact congrArg some hsupplied.symm
  | some v =>
      rw [hfound] at hsupplied
      exact hdecode v (mem_of_lookup_eq_some hfound) hsupplied

theorem Supplies.required (h : Supplies parts record)
    (hpart : Part.required name written a ∈ parts)
    (hdecode : ∀ v, (name, v) ∈ record → written a v → decode v = some a) :
    record.required name decode = some a := by
  have hsupplied := h _ hpart
  dsimp only [Part.required] at hsupplied
  rw [Record.required]
  cases hfound : record.lookup name with
  | none =>
      rw [hfound] at hsupplied
      exact hsupplied.elim
  | some v =>
      rw [hfound] at hsupplied
      exact hdecode v (mem_of_lookup_eq_some hfound) hsupplied

end Members

end DirectoryLogin.Config
