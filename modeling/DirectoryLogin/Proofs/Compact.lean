import DirectoryLogin.Proofs.RoundTrip

/-!
# JSON on one line

A document that is printed on one line is read back as it was, under the same conditions as one that
is spread over several lines. Whatever a JSON text holds, its numbers can be read.
-/

namespace DirectoryLogin.Json

open Document (Value)

/-! ## Reading what was printed -/

def joined (parts : List String) : List Char := (String.intercalate "," parts).toList

@[simp] theorem joined_singleton (part : String) : joined [part] = part.toList := by simp [joined]

@[simp] theorem joined_cons_cons (part other : String) (parts : List String) :
    joined (part :: other :: parts) = part.toList ++ ',' :: joined (other :: parts) := by
  rw [joined, String.intercalate_cons_cons]
  simp [joined]

theorem toList_compact_list (items : List Value) :
    (compact (.list items)).toList = '[' :: (joined (compactItems items) ++ [']']) := by
  simp [compact, joined]

theorem toList_compact_table (members : List (String × Value)) :
    (compact (.table members)).toList = '{' :: (joined (compactMembers members) ++ ['}']) := by
  simp [compact, joined]

theorem Expressible.begins_compact {v : Value} (h : Expressible v) :
    Begins (compact v).toList := by
  cases h with
  | list => simp [toList_compact_list, isSpace]
  | table => simp [toList_compact_table, isSpace]
  | null => exact Expressible.null.begins 0
  | bool b => exact (Expressible.bool b).begins 0
  | integer n => exact (Expressible.integer n).begins 0
  | text s => exact (Expressible.text s).begins 0

/-- Enough fuel reads the value back from its form on one line, wherever that stands. -/
def ReadsCompact (v : Value) : Prop :=
  ∀ fuel rest, Ends rest → 2 * (compact v).toList.length ≤ fuel →
    value? fuel ((compact v).toList ++ rest) = some (v, rest)

theorem begins_joined {v : Value} (h : Expressible v) (others : List Value) :
    Begins (joined (compactItems (v :: others))) := by
  cases others with
  | nil => simpa [compactItems] using h.begins_compact
  | cons w others => simpa [compactItems] using h.begins_compact.append _

private theorem items?_joined {items : List Value} (fuel : Nat) (rest : List Char)
    (hitems : ∀ v ∈ items, Expressible v ∧ ReadsCompact v) (hne : items ≠ [])
    (hfuel : 2 * (joined (compactItems items)).length < fuel) :
    items? fuel (joined (compactItems items) ++ ']' :: rest) = some (items, rest) := by
  induction items generalizing fuel with
  | nil => exact (hne rfl).elim
  | cons v others ih =>
      obtain ⟨hv, hreads⟩ := hitems v List.mem_cons_self
      obtain ⟨fuel, rfl⟩ : ∃ n, fuel = n + 1 := ⟨fuel - 1, by omega⟩
      cases others with
      | nil =>
          simp only [compactItems, joined_singleton] at hfuel ⊢
          have hread := hreads fuel (']' :: rest) (by simp) (by omega)
          simp [items?, hread, skip_of_not_isSpace, isSpace]
      | cons w others =>
          rw [compactItems, compactItems, joined_cons_cons, ← compactItems] at hfuel ⊢
          simp only [List.length_append, List.length_cons] at hfuel
          have hread := hreads fuel (',' :: (joined (compactItems (w :: others)) ++ ']' :: rest))
            (by simp) (by omega)
          have hothers := ih fuel (fun u hu => hitems u (List.mem_cons_of_mem v hu))
            (List.cons_ne_nil w others) (by omega)
          have hskip := (begins_joined (hitems w (by simp)).1 others).skip_append (']' :: rest)
          simp [items?, hread, skip_of_not_isSpace, isSpace, hskip, hothers]

private theorem joined_members (m : String × Value) (others : List (String × Value)) :
    ∃ tail, joined (compactMembers (m :: others)) = '"' :: tail := by
  cases others <;> simp [compactMembers]

private theorem members?_joined {members : List (String × Value)} (fuel : Nat) (rest : List Char)
    (hmembers : ∀ m ∈ members, Expressible m.2 ∧ ReadsCompact m.2) (hne : members ≠ [])
    (hfuel : 2 * (joined (compactMembers members)).length < fuel) :
    members? fuel (joined (compactMembers members) ++ '}' :: rest) = some (members, rest) := by
  induction members generalizing fuel with
  | nil => exact (hne rfl).elim
  | cons m others ih =>
      obtain ⟨name, v⟩ := m
      have hv : Expressible v := (hmembers (name, v) List.mem_cons_self).1
      have hreads : ReadsCompact v := (hmembers (name, v) List.mem_cons_self).2
      have hskip := hv.begins_compact.skip_append
      obtain ⟨fuel, rfl⟩ : ∃ n, fuel = n + 1 := ⟨fuel - 1, by omega⟩
      cases others with
      | nil =>
          simp only [compactMembers, joined_singleton, String.toList_append,
            List.length_append] at hfuel ⊢
          have hread := hreads fuel ('}' :: rest) (by simp) (by omega)
          simp [members?, textBody_escaped, hskip, hread, skip_of_not_isSpace, isSpace]
      | cons w others =>
          obtain ⟨other, w⟩ := w
          obtain ⟨tail, htail⟩ := joined_members (other, w) others
          rw [compactMembers, compactMembers, joined_cons_cons, ← compactMembers] at hfuel ⊢
          simp only [String.toList_append, List.length_append, List.length_cons] at hfuel
          have hread := hreads fuel
            (',' :: (joined (compactMembers ((other, w) :: others)) ++ '}' :: rest))
            (by simp) (by omega)
          have hothers := ih fuel (fun n hn => hmembers n (List.mem_cons_of_mem _ hn))
            (List.cons_ne_nil (other, w) others) (by omega)
          have hnext : skip (joined (compactMembers ((other, w) :: others)) ++ '}' :: rest) =
              joined (compactMembers ((other, w) :: others)) ++ '}' :: rest := by
            rw [htail]
            exact skip_of_not_isSpace _ rfl
          simp [members?, textBody_escaped, hskip, hread, skip_of_not_isSpace, isSpace, hnext,
            hothers]

private theorem readsCompact_list {items : List Value}
    (hitems : ∀ v ∈ items, Expressible v ∧ ReadsCompact v) : ReadsCompact (.list items) := by
  intro fuel rest _ hfuel
  rw [toList_compact_list] at hfuel ⊢
  simp only [List.length_cons, List.length_append] at hfuel
  obtain ⟨fuel, rfl⟩ : ∃ n, fuel = n + 1 := ⟨fuel - 1, by omega⟩
  cases items with
  | nil => simp [compactItems, joined, value?, skip_of_not_isSpace, isSpace]
  | cons v others =>
      have hbegins := begins_joined (hitems v List.mem_cons_self).1 others
      have hskip := hbegins.skip_append (']' :: rest)
      have hread := items?_joined fuel rest hitems (List.cons_ne_nil v others) (by omega)
      simp only [List.cons_append, List.append_assoc, List.nil_append]
      rw [value?_list fuel (by rw [hskip]; exact hbegins.append _), hskip, hread]
      rfl

private theorem readsCompact_table {members : List (String × Value)}
    (hnames : (members.map Prod.fst).Nodup)
    (hmembers : ∀ m ∈ members, Expressible m.2 ∧ ReadsCompact m.2) :
    ReadsCompact (.table members) := by
  intro fuel rest _ hfuel
  rw [toList_compact_table] at hfuel ⊢
  simp only [List.length_cons, List.length_append] at hfuel
  obtain ⟨fuel, rfl⟩ : ∃ n, fuel = n + 1 := ⟨fuel - 1, by omega⟩
  cases members with
  | nil => simp [compactMembers, joined, value?, skip_of_not_isSpace, isSpace]
  | cons m others =>
      obtain ⟨tail, htail⟩ := joined_members m others
      have hskip : skip (joined (compactMembers (m :: others)) ++ '}' :: rest) =
          '"' :: (tail ++ '}' :: rest) := by
        rw [htail]
        exact skip_of_not_isSpace _ rfl
      have hread := members?_joined fuel rest hmembers (List.cons_ne_nil m others) (by omega)
      rw [htail, List.cons_append] at hread
      simp only [List.cons_append, List.append_assoc, List.nil_append]
      rw [value?_table fuel hskip, hskip, hread]
      simp [lastOfEach_eq_self hnames]

private theorem readsCompact_scalar {v : Value} (h : Expressible v)
    (hform : compact v = spread 0 v) : ReadsCompact v := by
  intro fuel rest hrest hfuel
  rw [hform] at hfuel ⊢
  exact h.reads 0 fuel rest hrest hfuel

theorem Expressible.readsCompact {v : Value} (h : Expressible v) : ReadsCompact v := by
  induction h with
  | null => exact readsCompact_scalar .null rfl
  | bool b => exact readsCompact_scalar (.bool b) rfl
  | integer n => exact readsCompact_scalar (.integer n) rfl
  | text s => exact readsCompact_scalar (.text s) rfl
  | list hitems ih => exact readsCompact_list fun v hv => ⟨hitems v hv, ih v hv⟩
  | table hnames hmembers ih =>
      exact readsCompact_table hnames fun m hm => ⟨hmembers m hm, ih m hm⟩

/-- A document on one line is read back as it was. -/
theorem parse?_compact {v : Value} (h : Expressible v) : parse? (compact v) = some v := by
  have hskip : skip (compact v).toList = (compact v).toList := by
    simpa using h.begins_compact.skip_append []
  have hread := h.readsCompact (2 * (compact v).toList.length + 2) [] nofun (by omega)
  rw [List.append_nil] at hread
  simp only [parse?, hskip, hread, Option.bind_eq_bind, Option.bind_some]
  rfl

/-! ## Numbers of a text -/

theorem areReadable_iff {items : List Value} :
    Value.areReadable items = true ↔ ∀ v ∈ items, v.isReadable := by
  induction items with
  | nil => simp [Value.areReadable]
  | cons v others ih => simp [Value.areReadable, ih]

theorem membersReadable_iff {members : List (String × Value)} :
    Value.membersReadable members = true ↔ ∀ m ∈ members, m.2.isReadable := by
  induction members with
  | nil => simp [Value.membersReadable]
  | cons m others ih =>
      obtain ⟨name, v⟩ := m
      simp [Value.membersReadable, ih]

theorem Expressible.isReadable {v : Value} (h : Expressible v) : v.isReadable := by
  induction h with
  | null | bool | integer | text => rfl
  | list _ ih => exact areReadable_iff.mpr ih
  | table _ _ ih => exact membersReadable_iff.mpr ih

theorem isReadable_of_number? {cs rest : List Char} {v : Value}
    (h : number? cs = some (v, rest)) : v.isReadable := by
  simp only [number?, Option.bind_eq_bind, Option.bind_eq_some_iff] at h
  obtain ⟨⟨whole, cs⟩, -, ⟨fraction, cs⟩, -, ⟨exponent, cs⟩, -, h⟩ := h
  simp only [Option.pure_def] at h
  split at h
  all_goals
    split at h
    all_goals
      obtain ⟨rfl, -⟩ := Prod.mk.inj (Option.some.inj h)
      rfl

theorem mem_of_mem_lastOfEach {m : String × Value} {members : List (String × Value)}
    (h : m ∈ lastOfEach members) : m ∈ members := by
  induction members with
  | nil => exact h
  | cons other rest ih =>
      rw [lastOfEach] at h
      split at h
      · exact List.mem_cons_of_mem _ (ih h)
      · rcases List.mem_cons.mp h with rfl | h
        · exact List.mem_cons_self
        · exact List.mem_cons_of_mem _ (ih h)

/-- What is read with some fuel can be read, since what is read inside it with less can. -/
private theorem isReadable_of_reads (fuel : Nat) :
    (∀ cs v rest, value? fuel cs = some (v, rest) → v.isReadable) ∧
    (∀ cs items rest, items? fuel cs = some (items, rest) → ∀ v ∈ items, v.isReadable) ∧
    (∀ cs members rest, members? fuel cs = some (members, rest) →
      ∀ m ∈ members, m.2.isReadable) := by
  induction fuel with
  | zero => exact ⟨nofun, nofun, nofun⟩
  | succ fuel ih =>
      obtain ⟨hvalue, hitems, hmembers⟩ := ih
      refine ⟨?_, ?_, ?_⟩
      · intro cs v rest h
        unfold value? at h
        split at h
        · cases h; rfl
        · cases h; rfl
        · cases h; rfl
        · obtain ⟨⟨body, tail⟩, -, h⟩ := Option.bind_eq_some_iff.mp h
          cases h
          rfl
        · split at h
          · cases h; rfl
          · obtain ⟨⟨items, tail⟩, hread, h⟩ := Option.bind_eq_some_iff.mp h
            cases h
            exact areReadable_iff.mpr (hitems _ _ _ hread)
        · split at h
          · cases h; rfl
          · obtain ⟨⟨members, tail⟩, hread, h⟩ := Option.bind_eq_some_iff.mp h
            cases h
            have hall := hmembers _ _ _ hread
            exact membersReadable_iff.mpr fun m hm => hall m (mem_of_mem_lastOfEach hm)
        · exact isReadable_of_number? h
      · intro cs items rest h
        obtain ⟨⟨v, tail⟩, hread, h⟩ := Option.bind_eq_some_iff.mp h
        have hv := hvalue _ _ _ hread
        dsimp only at h
        split at h
        · cases h
          exact List.forall_mem_singleton.mpr hv
        · obtain ⟨⟨others, tail⟩, hread, h⟩ := Option.bind_eq_some_iff.mp h
          cases h
          exact List.forall_mem_cons.mpr ⟨hv, hitems _ _ _ hread⟩
        · cases h
      · intro cs members rest h
        unfold members? at h
        split at h
        · obtain ⟨⟨name, tail⟩, -, h⟩ := Option.bind_eq_some_iff.mp h
          dsimp only at h
          split at h
          · obtain ⟨⟨v, tail⟩, hread, h⟩ := Option.bind_eq_some_iff.mp h
            have hv := hvalue _ _ _ hread
            dsimp only at h
            split at h
            · cases h
              exact List.forall_mem_singleton.mpr hv
            · obtain ⟨⟨others, tail⟩, hread, h⟩ := Option.bind_eq_some_iff.mp h
              cases h
              exact List.forall_mem_cons.mpr ⟨hv, hmembers _ _ _ hread⟩
            · cases h
          · cases h
        · cases h

/-- The numbers of a JSON text are kept by their digits, so none is too large. -/
theorem isReadable_of_parse? {text : String} {v : Value} (h : parse? text = some v) :
    v.isReadable := by
  obtain ⟨⟨read, rest⟩, hread, h⟩ := Option.bind_eq_some_iff.mp h
  dsimp only at h
  split at h
  · cases h
    exact (isReadable_of_reads _).1 _ _ _ hread
  · cases h

end DirectoryLogin.Json
