import DirectoryLogin.Proofs.Grammar
import DirectoryLogin.Proofs.Pieces

/-!
# Values stay values

A value from outside cannot change the meaning of the filter that it is put into: the filter is read
as its base and one comparison for equality with exactly that value, whatever characters it has.
-/

namespace DirectoryLogin.Filter

/-! ## Written values -/

private theorem encodes_escapedChar (c : Char) {cs : List Char} {octets : List UInt8}
    (rest : Encodes cs octets) :
    Encodes (escapedChar c ++ cs) (String.utf8EncodeChar c ++ octets) := by
  cases hc : isSpecial c with
  | false =>
      rw [(escapedChar_eq_self_iff c).mpr hc]
      exact .plain hc rest
  | true =>
      simp only [isSpecial, Bool.or_eq_true, beq_iff_eq] at hc
      rcases hc with (((rfl | rfl) | rfl) | rfl) | rfl
      · exact @Encodes.escaped '2' 'a' 2 10 _ _ rfl rfl rest
      · exact @Encodes.escaped '2' '8' 2 8 _ _ rfl rfl rest
      · exact @Encodes.escaped '2' '9' 2 9 _ _ rfl rfl rest
      · exact @Encodes.escaped '5' 'c' 5 12 _ _ rfl rfl rest
      · exact @Encodes.escaped '0' '0' 0 0 _ _ rfl rfl rest

theorem encodes_escapeChars (value : List Char) :
    Encodes (escapeChars value) (value.flatMap String.utf8EncodeChar) := by
  induction value with
  | nil => exact .nil
  | cons c rest ih => exact encodes_escapedChar c ih

theorem encodes_escape (value : String) : Encodes (escape value).toList (Text.octets value) := by
  rw [escape, String.toList_ofList]
  exact encodes_escapeChars value.toList

theorem escape_injective {value other : String} (h : escape value = escape other) :
    value = other := by
  have hvalue := encodes_escape value
  rw [h] at hvalue
  exact Text.octets_injective (hvalue.unique (encodes_escape other))

/-! ## Comparisons for equality -/

private theorem attribute_append_inj {name name' rest rest' : List Char} {c d : Char}
    (hname : ∀ x ∈ name, isAttributePart x) (hname' : ∀ x ∈ name', isAttributePart x)
    (hc : isAttributePart c = false) (hd : isAttributePart d = false)
    (heq : name ++ c :: rest = name' ++ d :: rest') : name = name' ∧ c = d ∧ rest = rest' := by
  have htake := congrArg (List.takeWhile isAttributePart) heq
  rw [List.takeWhile_append_of_pos hname, List.takeWhile_append_of_pos hname'] at htake
  simp only [List.takeWhile_cons, hc, hd, Bool.false_eq_true, if_false, List.append_nil] at htake
  subst htake
  exact ⟨rfl, List.cons.inj (List.append_cancel_left heq)⟩

/-- An equality is read as nothing else: its value has no asterisk that could ask for presence or
for parts. -/
theorem isItem_equality_iff {name cs : List Char} {octets : List UInt8} (hname : IsAttribute name)
    (value : Encodes cs octets) {f : Filter} :
    IsItem (name ++ '=' :: cs) f ↔ f = .equal (String.ofList name) octets := by
  constructor
  · intro h
    have hstar : '*' ∉ cs := fun hc => by cases value.eq_of_isSpecial _ hc rfl
    have split {name' rest : List Char} {d : Char} (hname' : IsAttribute name')
        (hd : isAttributePart d = false) (heq : name ++ '=' :: cs = name' ++ d :: rest) :
        name = name' ∧ '=' = d ∧ cs = rest :=
      attribute_append_inj hname.isAttributePart hname'.isAttributePart rfl hd heq
    generalize htext : name ++ '=' :: cs = text at h
    cases h with
    | equal hname' value' =>
        obtain ⟨rfl, -, rfl⟩ := split hname' rfl htext
        rw [value.unique value']
    | similar hname' => cases (split hname' rfl htext).2.1
    | atLeast hname' => cases (split hname' rfl htext).2.1
    | atMost hname' => cases (split hname' rfl htext).2.1
    | present hname' =>
        obtain ⟨-, -, rfl⟩ := split hname' rfl htext
        simp at hstar
    | substrings hname' _ others =>
        obtain ⟨-, -, rfl⟩ := split hname' rfl htext
        cases others <;> simp at hstar
    | matching hname' names ruled =>
        cases names <;> cases ruled <;> cases (split hname' rfl htext).2.1
    | ruled names =>
        obtain ⟨c, tail, rfl⟩ := List.exists_cons_of_ne_nil hname.ne_nil
        have hc : c = ':' := by cases names <;> exact (List.cons.inj htext).1
        have hpart := hname.isAttributePart c List.mem_cons_self
        rw [hc] at hpart
        cases hpart
  · intro h
    rw [h]
    exact .equal hname value

theorem written_equality_iff {name cs : List Char} {octets : List UInt8} (hname : IsAttribute name)
    (value : Encodes cs octets) {f : Filter} : Written ('(' :: (name ++ '=' :: cs ++ [')'])) f ↔
      f = .equal (String.ofList name) octets := by
  rw [written_enclosed_iff, ← isItem_equality_iff hname value]
  constructor
  · intro h
    obtain ⟨c, tail, rfl⟩ := List.exists_cons_of_ne_nil hname.ne_nil
    have hpart := hname.isAttributePart c List.mem_cons_self
    generalize htext : c :: tail ++ '=' :: cs = text at h
    cases h with
    | and | or | not =>
        obtain ⟨rfl, -⟩ := List.cons.inj htext
        cases hpart
    | item h => exact h
  · exact .item

/-! ## The whole filter -/

theorem toList_equality (base name value : String) : (equality base name value).toList =
    '(' :: ('&' :: (base.toList ++ '(' :: (name.toList ++ '=' :: (escape value).toList ++ [')'])) ++
      [')']) := by
  simp [equality]

theorem reads_equality_iff {base name : String} {part : Filter} (hbase : Reads base part)
    (hname : IsAttribute name.toList) (value : String) (f : Filter) :
    Reads (equality base name value) f ↔
      ∃ part, Reads base part ∧ f = .and [part, .equal name (Text.octets value)] := by
  have hcomparison {g : Filter} : Written
      ('(' :: (name.toList ++ '=' :: (escape value).toList ++ [')'])) g ↔
        g = .equal name (Text.octets value) := by
    rw [written_equality_iff hname (encodes_escape value), String.ofList_toList]
  rw [Reads, toList_equality, written_enclosed_iff, writtenInside_and_iff]
  constructor
  · intro hparts
    obtain ⟨parts, hall, rfl⟩ := hparts
    obtain ⟨p, others, hp, hothers, rfl⟩ :=
      (hbase.writtenAll_append_iff (List.cons_ne_nil _ _)).mp hall
    obtain ⟨g, hg, rfl⟩ := (hcomparison.mpr rfl).writtenAll_iff.mp hothers
    rw [hcomparison.mp hg]
    exact ⟨p, hp, rfl⟩
  · intro hpart
    obtain ⟨p, hp, rfl⟩ := hpart
    exact ⟨_, .more hp (.one (hcomparison.mpr rfl)), rfl⟩

def parentheses (text : String) : List Char := text.toList.filter fun c => c == '(' || c == ')'

/-- The value stays a value: in a filter of a base and an attribute that can be read it is what the
attribute is compared with, and in any text it takes the place of one escaped part, which opens and
closes nothing. -/
structure Confined (base name value : String) : Prop where
  reading : (∃ part, Reads base part) → IsAttribute name.toList → ∀ f,
    Reads (equality base name value) f ↔
      ∃ part, Reads base part ∧ f = .and [part, .equal name (Text.octets value)]
  place : ∃ before after, ∀ other, equality base name other = before ++ escape other ++ after
  inert : ∀ c ∈ (escape value).toList, c ≠ '*' ∧ c ≠ '(' ∧ c ≠ ')' ∧ c ≠ '\x00'
  escapes : ∀ front back, (escape value).toList = front ++ '\\' :: back → ∃ a b rest,
    back = a :: b :: rest ∧ (Text.hexValue? a).isSome ∧ (Text.hexValue? b).isSome
  structure_eq : ∀ other,
    parentheses (equality base name value) = parentheses (equality base name other)
  distinct : ∀ other, equality base name value = equality base name other → value = other

private theorem equality_split (base name value : String) : equality base name value =
    ("(&" ++ base ++ "(" ++ name ++ "=") ++ escape value ++ "))" := rfl

private theorem parentheses_escape (value : String) : parentheses (escape value) = [] := by
  have hflat := (encodes_escape value).flat
  rw [parentheses, List.filter_eq_nil_iff]
  intro c hc hparenthesis
  simp only [Bool.or_eq_true, beq_iff_eq] at hparenthesis
  rcases hparenthesis with rfl | rfl
  · exact hflat.1 hc
  · exact hflat.2 hc

private theorem parentheses_append (s t : String) :
    parentheses (s ++ t) = parentheses s ++ parentheses t := by
  simp only [parentheses, String.toList_append, List.filter_append]

private theorem parentheses_equality (base name value : String) :
    parentheses (equality base name value) =
      parentheses ("(&" ++ base ++ "(" ++ name ++ "=") ++ parentheses "))" := by
  rw [equality_split, parentheses_append, parentheses_append, parentheses_escape, List.append_nil]

private theorem eq_of_equality_eq {base name value other : String}
    (h : equality base name value = equality base name other) : value = other := by
  have hlist := congrArg String.toList h
  simp only [equality_split, String.toList_append] at hlist
  have hescape := List.append_cancel_left (List.append_cancel_right hlist)
  exact escape_injective (String.toList_inj.mp hescape)

/-- A filter for a value from outside holds it as a value and as nothing else. -/
theorem equality_confined (base name value : String) : Confined base name value where
  reading := fun ⟨_, hbase⟩ hname => reads_equality_iff hbase hname value
  place := ⟨_, _, equality_split base name⟩
  inert := by
    intro c hc
    have hspecial := (encodes_escape value).eq_of_isSpecial c hc
    refine ⟨?_, ?_, ?_, ?_⟩
    all_goals
      rintro rfl
      cases hspecial rfl
  escapes := fun _ _ => (encodes_escape value).escape_of_backslash
  structure_eq other := by rw [parentheses_equality, parentheses_equality]
  distinct _ := eq_of_equality_eq

/-- A value that would be two comparisons if it were not escaped. -/
theorem equality_confined_marks :
    (∃ part, Reads "(objectClass=person)" part) ∧ IsAttribute "uid".toList ∧
      ∀ f, Reads (equality "(objectClass=person)" "uid" "a*)(uid=*") f ↔
        f = .and [.equal "objectClass" (Text.octets "person"),
          .equal "uid" (Text.octets "a*)(uid=*")] := by
  have named (c : Char) (rest : List Char) (hc : isLetter c) (h : rest.all isNamePart) :
      IsAttribute (c :: rest) :=
    ⟨c :: rest, [], (List.append_nil _).symm, .inl ⟨c, rest, rfl, hc, List.all_eq_true.mp h⟩, .none⟩
  have hclass := named 'o' "bjectClass".toList rfl rfl
  have huid : IsAttribute "uid".toList := named 'u' "id".toList rfl rfl
  have hbase (part : Filter) : Reads "(objectClass=person)" part ↔
      part = .equal "objectClass" (Text.octets "person") :=
    written_equality_iff hclass (encodes_escape "person")
  refine ⟨⟨_, (hbase _).mpr rfl⟩, huid, fun f => ?_⟩
  have hread := (equality_confined "(objectClass=person)" "uid" "a*)(uid=*").reading
    ⟨_, (hbase _).mpr rfl⟩ huid f
  simp only [hread, hbase, exists_eq_left]

end DirectoryLogin.Filter
