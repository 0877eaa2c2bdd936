import DirectoryLogin.Config.Settings

/-!
# Directory entries

An entry has a distinguished name and attributes with values. Attributes are found by name, whatever
the case of its ASCII letters; a name spelled exactly as asked for goes first.
-/

namespace DirectoryLogin.Directory

/-! ## Names and values of attributes -/

/-- The names agree up to the case of ASCII letters. -/
def sameName (a b : String) : Bool := a.toList.map Char.toLower == b.toList.map Char.toLower

@[simp] theorem sameName_self (a : String) : sameName a a = true := by simp [sameName]

/-- Sets the values of a name in a list of attributes. -/
def setAttribute (name : String) (values : List String) :
    List (String × List String) → List (String × List String)
  | [] => [(name, values)]
  | a :: rest => if a.1 == name then (name, values) :: rest else a :: setAttribute name values rest

@[simp] theorem lookup_setAttribute_self (name : String) (values : List String)
    (attributes : List (String × List String)) :
    (setAttribute name values attributes).lookup name = some values := by
  induction attributes with
  | nil => simp [setAttribute]
  | cons a rest ih =>
      obtain ⟨known, old⟩ := a
      simp only [setAttribute]
      split
      · simp
      · next h =>
          have : (name == known) = false := by
            simp only [beq_eq_false_iff_ne, beq_iff_eq] at h ⊢
            exact fun e => h e.symm
          simp [List.lookup_cons, this, ih]

theorem map_fst_setAttribute {name : String} {attributes : List (String × List String)}
    (h : name ∈ attributes.map (·.1)) (values : List String) :
    (setAttribute name values attributes).map (·.1) = attributes.map (·.1) := by
  induction attributes with
  | nil => cases h
  | cons a rest ih =>
      rw [setAttribute]
      split
      · next heq => rw [List.map_cons, List.map_cons, beq_iff_eq.mp heq]
      · next hne =>
          have hrest : name ∈ rest.map (·.1) :=
            (List.mem_cons.mp h).resolve_left fun heq => hne (beq_iff_eq.mpr heq.symm)
          rw [List.map_cons, List.map_cons, ih hrest]

theorem setAttribute_of_notMem {name : String} {attributes : List (String × List String)}
    (h : name ∉ attributes.map (·.1)) (values : List String) :
    setAttribute name values attributes = attributes ++ [(name, values)] := by
  induction attributes with
  | nil => rfl
  | cons a rest ih =>
      rw [List.map_cons, List.mem_cons, not_or] at h
      rw [setAttribute, if_neg fun heq => h.1 (beq_iff_eq.mp heq).symm, ih h.2]
      rfl

theorem nodup_setAttribute {attributes : List (String × List String)}
    (h : (attributes.map (·.1)).Nodup) (name : String) (values : List String) :
    ((setAttribute name values attributes).map (·.1)).Nodup := by
  by_cases hname : name ∈ attributes.map (·.1)
  · rwa [map_fst_setAttribute hname]
  · rw [setAttribute_of_notMem hname, List.map_append, List.nodup_append]
    refine ⟨h, by simp, ?_⟩
    rintro known hknown other hother rfl
    have heq : known = name := List.mem_singleton.mp hother
    exact hname (heq ▸ hknown)

/-! ## Entries -/

/-- What a search returns of one object of the directory. -/
structure Entry where
  dn : String
  /-- The list stands for a map, in the order in which the map is gone through. -/
  attributes : List (String × List String) := []
  unique : (attributes.map (·.1)).Nodup := by simp
  deriving DecidableEq

namespace Entry

/-- An attribute that was there before is replaced. -/
def withAttribute (entry : Entry) (name : String) (values : List String) : Entry where
  dn := entry.dn
  attributes := setAttribute name values entry.attributes
  unique := nodup_setAttribute entry.unique name values

@[simp] theorem attributes_withAttribute (entry : Entry) (name : String) (values : List String) :
    (entry.withAttribute name values).attributes = setAttribute name values entry.attributes := rfl

/-- An entry with the given attributes, of which the last one with each name counts. -/
def ofAttributes (dn : String) (attributes : List (String × List String)) : Entry :=
  attributes.foldl (fun entry a => entry.withAttribute a.1 a.2) { dn }

def values (entry : Entry) (name : String) : List String :=
  match entry.attributes.lookup name with
  | some values => values
  | none =>
      match entry.attributes.find? fun a => sameName a.1 name with
      | some a => a.2
      | none => []

def firstValue? (entry : Entry) (name : String) : Option String := (entry.values name).head?

/-- The names of the attributes in ascending order. -/
def names (entry : Entry) : List String :=
  (entry.attributes.map (·.1)).mergeSort fun a b => decide (a ≤ b)

end Entry

/-! ## Memberships -/

/-- A member of a group. -/
structure Membership where
  /-- The member as the group's attribute states it. -/
  name : String
  /-- The common name of the group. -/
  group : String
  deriving DecidableEq, Inhabited

/-! ## Search requests -/

/-- A search under one base. -/
structure SearchRequest where
  base : String
  filter : String
  /-- The attributes asked for. -/
  attributes : List String := []
  limits : Config.Limits := {}
  deriving DecidableEq, Inhabited

def dnAttribute : String := "dn"

def groupNameAttribute : String := "cn"

end DirectoryLogin.Directory
