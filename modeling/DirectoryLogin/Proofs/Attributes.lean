import DirectoryLogin.Directory.Entry
import Mathlib.Data.List.Nodup

/-!
# Attributes of entries

How an attribute is found by its name: the name as it is spelled goes first, and then the first one
that differs in the case of its letters only. Where no two names are the same up to case, neither
their spelling nor their order matters.
-/

namespace DirectoryLogin.Directory

def folded (name : String) : List Char := name.toList.map Char.toLower

theorem sameName_eq (a b : String) : sameName a b = (folded a == folded b) := rfl

theorem sameName_iff {a b : String} : sameName a b = true ↔ folded a = folded b := beq_iff_eq

def foldedAttribute (a : String × List String) : List Char × List String := (folded a.1, a.2)

namespace Entry

def attribute? (entry : Entry) (name : String) : Option (String × List String) :=
  (entry.attributes.find? fun a => a.1 == name).or
    (entry.attributes.find? fun a => sameName a.1 name)

/-- No two names are the same up to case. -/
def Distinct (entry : Entry) : Prop := (entry.attributes.map fun a => folded a.1).Nodup

theorem distinct_iff {entry : Entry} :
    entry.Distinct ↔ ((entry.attributes.map (·.1)).map folded).Nodup := by
  rw [List.map_map]
  rfl

/-! ## What a name finds -/

theorem lookup_eq_find? (name : String) (attributes : List (String × List String)) :
    attributes.lookup name = (attributes.find? fun a => a.1 == name).map (·.2) := by
  induction attributes with
  | nil => rfl
  | cons a rest ih =>
      obtain ⟨known, values⟩ := a
      rw [List.lookup_cons, List.find?_cons, BEq.comm (a := name)]
      cases known == name with
      | true => rfl
      | false => exact ih

theorem values_eq (entry : Entry) (name : String) :
    entry.values name = (entry.attribute? name).elim [] (·.2) := by
  rw [values, attribute?, lookup_eq_find?]
  cases entry.attributes.find? fun a => a.1 == name with
  | some a => rfl
  | none => cases entry.attributes.find? fun a => sameName a.1 name <;> rfl

variable {entry : Entry} {name : String}

theorem mem_of_attribute? {a : String × List String} (h : entry.attribute? name = some a) :
    a ∈ entry.attributes ∧ sameName a.1 name = true := by
  rcases Option.or_eq_some_iff.mp h with hexact | ⟨-, hsame⟩
  · have hname : a.1 = name := by simpa using List.find?_some hexact
    exact ⟨List.mem_of_find?_eq_some hexact, by rw [hname, sameName_self]⟩
  · exact ⟨List.mem_of_find?_eq_some hsame, by simpa using List.find?_some hsame⟩

theorem attribute?_eq_none_iff :
    entry.attribute? name = none ↔ ∀ a ∈ entry.attributes, sameName a.1 name = false := by
  rw [attribute?, Option.or_eq_none_iff, List.find?_eq_none, List.find?_eq_none]
  constructor
  · intro h a ha
    simpa using h.2 a ha
  · intro h
    refine ⟨fun a ha heq => ?_, fun a ha => by simp [h a ha]⟩
    have hsame := h a ha
    rw [beq_iff_eq.mp heq, sameName_self] at hsame
    cases hsame

theorem fst_of_attribute? {a : String × List String} (h : entry.attribute? name = some a)
    (hname : name ∈ entry.attributes.map (·.1)) : a.1 = name := by
  obtain ⟨known, hknown, rfl⟩ := List.mem_map.mp hname
  rcases Option.or_eq_some_iff.mp h with hexact | ⟨hnone, -⟩
  · simpa using List.find?_some hexact
  · exact absurd (beq_self_eq_true known.1) (List.find?_eq_none.mp hnone known hknown)

theorem exists_attribute? {a : String × List String} (ha : a ∈ entry.attributes)
    (hs : sameName a.1 name = true) : ∃ b, entry.attribute? name = some b := by
  rw [← Option.ne_none_iff_exists']
  intro hnone
  rw [attribute?_eq_none_iff.mp hnone a ha] at hs
  cases hs

theorem attribute?_of_mem {values : List String} (ha : (name, values) ∈ entry.attributes) :
    entry.attribute? name = some (name, values) := by
  obtain ⟨b, hb⟩ := exists_attribute? ha (sameName_self name)
  have hname := fst_of_attribute? hb (List.mem_map_of_mem ha)
  rw [hb, List.inj_on_of_nodup_map entry.unique (mem_of_attribute? hb).1 ha hname]

/-- What a name finds in an entry. -/
structure LooksUp (entry : Entry) (name : String) : Prop where
  values : entry.values name = (entry.attribute? name).elim [] (·.2)
  found : ∀ a, entry.attribute? name = some a →
    a ∈ entry.attributes ∧ sameName a.1 name = true
  /-- A name that is there as it is spelled goes first. -/
  first : ∀ a, entry.attribute? name = some a → name ∈ entry.attributes.map (·.1) → a.1 = name
  exact : ∀ values, (name, values) ∈ entry.attributes →
    entry.attribute? name = some (name, values)
  missing : entry.attribute? name = none ↔
    ∀ a ∈ entry.attributes, sameName a.1 name = false
  empty : entry.values name = [] ↔
    entry.attribute? name = none ∨ ∃ a, entry.attribute? name = some a ∧ a.2 = []

theorem looksUp (entry : Entry) (name : String) : entry.LooksUp name where
  values := entry.values_eq name
  found _ := mem_of_attribute?
  first _ := fst_of_attribute?
  exact _ := attribute?_of_mem
  missing := attribute?_eq_none_iff
  empty := by
    rw [values_eq]
    cases entry.attribute? name <;> simp

/-! ## Entries without two names that are the same up to case -/

theorem values_of_mem (h : entry.Distinct) {a : String × List String} (ha : a ∈ entry.attributes)
    (hs : sameName a.1 name = true) : entry.values name = a.2 := by
  obtain ⟨b, hb⟩ := exists_attribute? ha hs
  obtain ⟨hmem, hsame⟩ := mem_of_attribute? hb
  have hfold : folded b.1 = folded a.1 := by rw [sameName_iff.mp hsame, sameName_iff.mp hs]
  rw [values_eq, hb, List.inj_on_of_nodup_map h hmem ha hfold]
  rfl

theorem values_of_missing (h : ∀ a ∈ entry.attributes, sameName a.1 name = false) :
    entry.values name = [] := by
  rw [values_eq, attribute?_eq_none_iff.mpr h]
  rfl

theorem exists_folded {attributes others : List (String × List String)}
    (h : (others.map foldedAttribute).Perm (attributes.map foldedAttribute))
    {a : String × List String} (ha : a ∈ attributes) :
    ∃ b ∈ others, folded b.1 = folded a.1 ∧ b.2 = a.2 := by
  have hmem := h.mem_iff.mpr (List.mem_map_of_mem ha)
  obtain ⟨b, hb, hfold⟩ := List.mem_map.mp hmem
  exact ⟨b, hb, Prod.ext_iff.mp hfold⟩

/-- The entries are of one object and have the same attributes, but for the case of the names, which
tells none apart, and for the order. -/
structure Respelled (entry other : Entry) : Prop where
  dn : other.dn = entry.dn
  distinct : entry.Distinct
  attributes :
    (other.attributes.map foldedAttribute).Perm (entry.attributes.map foldedAttribute)

namespace Respelled

variable {other : Entry} {name' : String}

theorem other_distinct (h : entry.Respelled other) : other.Distinct := by
  have hnames := h.attributes.map (·.1)
  rw [List.map_map, List.map_map] at hnames
  exact hnames.nodup_iff.mpr h.distinct

theorem values_eq (h : entry.Respelled other) (hs : sameName name name' = true) :
    other.values name' = entry.values name := by
  rw [sameName_iff] at hs
  cases hfound : entry.attribute? name with
  | some a =>
      obtain ⟨ha, hsame⟩ := mem_of_attribute? hfound
      obtain ⟨b, hb, hname, hvalues⟩ := exists_folded h.attributes ha
      have hsame' : sameName b.1 name' = true := by
        rw [sameName_iff, hname, sameName_iff.mp hsame, hs]
      rw [values_of_mem h.distinct ha hsame, values_of_mem h.other_distinct hb hsame', hvalues]
  | none =>
      have hmissing := attribute?_eq_none_iff.mp hfound
      have hmissing' : ∀ b ∈ other.attributes, sameName b.1 name' = false := by
        intro b hb
        obtain ⟨a, ha, hname, -⟩ := exists_folded h.attributes.symm hb
        rw [← hmissing a ha, sameName_eq, sameName_eq, hname, hs]
      rw [values_of_missing hmissing, values_of_missing hmissing']

theorem firstValue?_eq (h : entry.Respelled other) (name : String) :
    other.firstValue? name = entry.firstValue? name := by
  rw [firstValue?, firstValue?, h.values_eq (sameName_self name)]

end Respelled

end Entry

/-! ## Setting attributes -/

theorem find?_setAttribute {p : String × List String → Bool} {name : String}
    (h : ∀ values, p (name, values) = false) (values : List String)
    (attributes : List (String × List String)) :
    (setAttribute name values attributes).find? p = attributes.find? p := by
  induction attributes with
  | nil => rw [setAttribute, List.find?_cons, h]
  | cons a rest ih =>
      rw [setAttribute, List.find?_cons]
      split
      · next heq =>
          have ha : p a = false := by rw [← h a.2, ← beq_iff_eq.mp heq]
          rw [List.find?_cons, h, ha]
      · rw [List.find?_cons, ih]

theorem lookup_setAttribute_of_ne {name other : String} (h : other ≠ name) (values : List String)
    (attributes : List (String × List String)) :
    (setAttribute name values attributes).lookup other = attributes.lookup other := by
  have hp : (name == other) = false := beq_eq_false_iff_ne.mpr h.symm
  rw [Entry.lookup_eq_find?, Entry.lookup_eq_find?, find?_setAttribute fun _ => hp]

theorem mem_setAttribute (name : String) (values : List String)
    (attributes : List (String × List String)) :
    (name, values) ∈ setAttribute name values attributes := by
  induction attributes with
  | nil => exact List.mem_cons_self
  | cons a rest ih =>
      rw [setAttribute]
      split
      · exact List.mem_cons_self
      · exact List.mem_cons_of_mem a ih

namespace Entry

variable {entry : Entry} {name other : String}

theorem values_withAttribute (entry : Entry) (name : String) (values : List String) :
    (entry.withAttribute name values).values name = values := by
  rw [Entry.values, withAttribute, lookup_setAttribute_self]

/-- Other names find what they found before. -/
theorem attribute?_withAttribute (h : sameName name other = false) (values : List String) :
    (entry.withAttribute name values).attribute? other = entry.attribute? other := by
  have hne : (name == other) = false := by
    rw [← Bool.not_eq_true, beq_iff_eq]
    rintro rfl
    rw [sameName_self] at h
    cases h
  rw [attribute?, attribute?, withAttribute, find?_setAttribute fun _ => hne,
    find?_setAttribute fun _ => h]

theorem values_withAttribute_of_ne (hne : other ≠ name)
    (hother : other ∈ entry.attributes.map (·.1)) (values : List String) :
    (entry.withAttribute name values).values other = entry.values other := by
  obtain ⟨a, ha, rfl⟩ := List.mem_map.mp hother
  have hp : (name == a.1) = false := beq_eq_false_iff_ne.mpr hne.symm
  have hfound : (entry.attributes.find? fun b => b.1 == a.1).isSome = true :=
    List.find?_isSome.mpr ⟨a, ha, beq_self_eq_true a.1⟩
  obtain ⟨b, hb⟩ := Option.isSome_iff_exists.mp hfound
  rw [values_eq, values_eq, attribute?, attribute?, withAttribute,
    find?_setAttribute fun _ => hp, hb]
  rfl

theorem Distinct.withAttribute (h : entry.Distinct) (hname : name ∈ entry.attributes.map (·.1))
    (values : List String) : (entry.withAttribute name values).Distinct := by
  rw [distinct_iff] at h ⊢
  rwa [Entry.withAttribute, map_fst_setAttribute hname]

@[simp] theorem dn_ofAttributes (dn : String) (attributes : List (String × List String)) :
    (ofAttributes dn attributes).dn = dn :=
  List.foldlRecOn (motive := fun entry : Entry => entry.dn = dn) attributes _ rfl fun _ h _ _ => h

/-- Attributes that are added go before those that are there, and the last one of a name before the
others. -/
theorem lookup_foldl_withAttribute (attributes : List (String × List String)) (entry : Entry)
    (name : String) :
    (attributes.foldl (fun entry a => entry.withAttribute a.1 a.2) entry).attributes.lookup name =
      (attributes.reverse.lookup name).or (entry.attributes.lookup name) := by
  induction attributes generalizing entry with
  | nil => rfl
  | cons a rest ih =>
      obtain ⟨known, values⟩ := a
      rw [List.foldl_cons, ih, List.reverse_cons, List.lookup_append, Option.or_assoc]
      congr 1
      rw [withAttribute]
      by_cases h : name = known
      · subst h
        rw [lookup_setAttribute_self, List.lookup_cons, beq_self_eq_true]
        rfl
      · rw [lookup_setAttribute_of_ne h, List.lookup_cons, beq_eq_false_iff_ne.mpr h]
        rfl

theorem lookup_ofAttributes (dn : String) (attributes : List (String × List String))
    (name : String) :
    (ofAttributes dn attributes).attributes.lookup name = attributes.reverse.lookup name := by
  rw [ofAttributes, lookup_foldl_withAttribute]
  exact Option.or_none

private theorem attributes_foldl_withAttribute (attributes : List (String × List String))
    (entry : Entry) (h : ((entry.attributes ++ attributes).map (·.1)).Nodup) :
    (attributes.foldl (fun entry a => entry.withAttribute a.1 a.2) entry).attributes =
      entry.attributes ++ attributes := by
  induction attributes generalizing entry with
  | nil => rw [List.foldl_nil, List.append_nil]
  | cons a rest ih =>
      have hset : (entry.withAttribute a.1 a.2).attributes = entry.attributes ++ [a] := by
        rw [attributes_withAttribute, setAttribute_of_notMem]
        rw [List.map_append] at h
        intro hmem
        exact List.disjoint_of_nodup_append h hmem List.mem_cons_self
      rw [List.append_cons, ← hset] at h ⊢
      exact ih _ h

theorem attributes_ofAttributes {attributes : List (String × List String)} (dn : String)
    (h : (attributes.map fun a => folded a.1).Nodup) :
    (ofAttributes dn attributes).attributes = attributes := by
  rw [← Function.comp_def, ← List.map_map] at h
  exact attributes_foldl_withAttribute attributes { dn } (h.of_map folded)

/-- Attributes that are added in another order, with other spellings of their names, make the same
entry but for the spelling. -/
theorem respelled_ofAttributes (dn : String) {attributes others : List (String × List String)}
    (h : (attributes.map fun a => folded a.1).Nodup)
    (hperm : (others.map foldedAttribute).Perm (attributes.map foldedAttribute)) :
    (ofAttributes dn attributes).Respelled (ofAttributes dn others) := by
  have hnames := hperm.map (·.1)
  rw [List.map_map, List.map_map] at hnames
  have h' : (others.map fun a => folded a.1).Nodup := hnames.nodup_iff.mpr h
  refine ⟨by simp, ?_, ?_⟩
  · rwa [Distinct, attributes_ofAttributes dn h]
  · rwa [attributes_ofAttributes dn h, attributes_ofAttributes dn h']

/-- What becomes of an entry in which an attribute is set. -/
structure Replaces (entry : Entry) (name : String) (values : List String) : Prop where
  own : (entry.withAttribute name values).values name = values
  others : ∀ other, sameName name other = false →
    (entry.withAttribute name values).values other = entry.values other
  spelled : ∀ other ∈ entry.attributes.map (·.1), other ≠ name →
    (entry.withAttribute name values).values other = entry.values other
  /-- In an entry that has the name already, every spelling of it finds the new values. -/
  again : entry.Distinct → name ∈ entry.attributes.map (·.1) → ∀ other,
    (entry.withAttribute name values).values other =
      if sameName name other then values else entry.values other

theorem replaces (entry : Entry) (name : String) (values : List String) :
    entry.Replaces name values := by
  have others (other : String) (h : sameName name other = false) :
      (entry.withAttribute name values).values other = entry.values other := by
    rw [values_eq, values_eq, attribute?_withAttribute h]
  refine ⟨entry.values_withAttribute name values, others,
    fun other hother hne => values_withAttribute_of_ne hne hother values,
    fun hdistinct hname other => ?_⟩
  split
  · next h => exact values_of_mem (hdistinct.withAttribute hname values) (mem_setAttribute ..) h
  · next h => exact others other (Bool.not_eq_true _ ▸ h)

/-- Lookups in an entry go by the names, whatever their case and whatever the order. -/
structure Caseless (entry : Entry) : Prop where
  looksUp : ∀ name, entry.LooksUp name
  respelled : ∀ other, entry.Respelled other → ∀ name name', sameName name name' = true →
    other.values name' = entry.values name
  replaces : ∀ name values, entry.Replaces name values

theorem caseless (entry : Entry) : entry.Caseless where
  looksUp := entry.looksUp
  respelled _ h _ _ := h.values_eq
  replaces := entry.replaces

end Entry

end DirectoryLogin.Directory
