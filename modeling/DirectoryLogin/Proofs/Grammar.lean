import DirectoryLogin.Filter
import DirectoryLogin.Text.Octets
import Mathlib.Data.List.Infix

/-!
# The grammar of filters

The written forms of search filters as the standard for their text has them, one constructor for
each alternative of a rule. Parentheses stand for structure only, so that a filter ends where its
first parenthesis is closed: no filter is written as the beginning of another.
-/

namespace DirectoryLogin.Filter

/-! ## Attributes -/

/-- One digit, or several that do not begin with zero. -/
def IsNumber (digits : List Char) : Prop :=
  digits ≠ [] ∧ (∀ c ∈ digits, c.isDigit) ∧ (digits.head? = some '0' → digits = ['0'])

/-- Two numbers or more, with dots between them. -/
inductive IsIdentifier : List Char → Prop
  | two {m n} (hm : IsNumber m) (hn : IsNumber n) : IsIdentifier (m ++ '.' :: n)
  | more {m rest} (hm : IsNumber m) (others : IsIdentifier rest) : IsIdentifier (m ++ '.' :: rest)

def IsDescriptor (name : List Char) : Prop :=
  ∃ c rest, name = c :: rest ∧ isLetter c ∧ ∀ d ∈ rest, isNamePart d

def IsType (name : List Char) : Prop := IsDescriptor name ∨ IsIdentifier name

inductive IsOptions : List Char → Prop
  | none : IsOptions []
  | more {option rest} (given : option ≠ []) (h : ∀ c ∈ option, isNamePart c)
      (others : IsOptions rest) : IsOptions (';' :: (option ++ rest))

/-- An attribute description: a type and its options. -/
def IsAttribute (name : List Char) : Prop :=
  ∃ type options, name = type ++ options ∧ IsType type ∧ IsOptions options

/-! ## Values -/

/-- The written form of a value, with the octets that it stands for. -/
inductive Encodes : List Char → List UInt8 → Prop
  | nil : Encodes [] []
  | plain {c cs octets} (h : isSpecial c = false) (rest : Encodes cs octets) :
      Encodes (c :: cs) (String.utf8EncodeChar c ++ octets)
  | escaped {a b high low cs octets} (ha : Text.hexValue? a = some high)
      (hb : Text.hexValue? b = some low) (rest : Encodes cs octets) :
      Encodes ('\\' :: a :: b :: cs) (UInt8.ofNat (high * 16 + low) :: octets)

/-- What stands from the first asterisk on: the values between asterisks, and the last one. -/
inductive Starred : List Char → List (List UInt8) → List UInt8 → Prop
  | last {cs octets} (h : Encodes cs octets) : Starred ('*' :: cs) [] octets
  | between {cs octets more others last} (h : Encodes cs octets)
      (rest : Starred more others last) : Starred ('*' :: (cs ++ more)) (octets :: others) last

/-! ## Comparisons -/

/-- The mark that takes in the parts of the entry's name, in letters of either case. -/
inductive NamesMark : List Char → Bool → Prop
  | absent : NamesMark [] false
  | given {d n} (hd : d.toLower = 'd') (hn : n.toLower = 'n') : NamesMark [':', d, n] true

inductive RuleMark : List Char → Option String → Prop
  | absent : RuleMark [] none
  | given {rule} (h : IsType rule) : RuleMark (':' :: rule) (some (String.ofList rule))

/-- A single comparison. An asterisk alone always asks for presence. -/
inductive IsItem : List Char → Filter → Prop
  | equal {name cs octets} (hname : IsAttribute name) (value : Encodes cs octets) :
      IsItem (name ++ '=' :: cs) (.equal (String.ofList name) octets)
  | similar {name cs octets} (hname : IsAttribute name) (value : Encodes cs octets) :
      IsItem (name ++ '~' :: '=' :: cs) (.similar (String.ofList name) octets)
  | atLeast {name cs octets} (hname : IsAttribute name) (value : Encodes cs octets) :
      IsItem (name ++ '>' :: '=' :: cs) (.atLeast (String.ofList name) octets)
  | atMost {name cs octets} (hname : IsAttribute name) (value : Encodes cs octets) :
      IsItem (name ++ '<' :: '=' :: cs) (.atMost (String.ofList name) octets)
  | present {name} (hname : IsAttribute name) :
      IsItem (name ++ '=' :: ['*']) (.present (String.ofList name))
  | substrings {name cs first more between last} (hname : IsAttribute name)
      (value : Encodes cs first) (others : Starred more between last)
      (parts : first ≠ [] ∨ between ≠ [] ∨ last ≠ []) :
      IsItem (name ++ '=' :: (cs ++ more)) (.substrings (String.ofList name) first between last)
  | matching {name mark withNames text rule cs octets} (hname : IsAttribute name)
      (names : NamesMark mark withNames) (ruled : RuleMark text rule) (value : Encodes cs octets) :
      IsItem (name ++ (mark ++ (text ++ ':' :: '=' :: cs)))
        (.matching (some (String.ofList name)) rule withNames octets)
  | ruled {mark withNames rule cs octets} (names : NamesMark mark withNames) (h : IsType rule)
      (value : Encodes cs octets) :
      IsItem (mark ++ (':' :: (rule ++ ':' :: '=' :: cs)))
        (.matching none (some (String.ofList rule)) withNames octets)

/-! ## Filters -/

mutual

/-- The written form of a filter, in parentheses. -/
inductive Written : List Char → Filter → Prop
  | enclosed {cs f} (h : WrittenInside cs f) : Written ('(' :: (cs ++ [')'])) f

/-- What stands inside the parentheses. -/
inductive WrittenInside : List Char → Filter → Prop
  | and {cs parts} (h : WrittenAll cs parts) : WrittenInside ('&' :: cs) (.and parts)
  | or {cs parts} (h : WrittenAll cs parts) : WrittenInside ('|' :: cs) (.or parts)
  | not {cs part} (h : Written cs part) : WrittenInside ('!' :: cs) (.not part)
  | item {cs f} (h : IsItem cs f) : WrittenInside cs f

/-- One filter or more, one after the other. -/
inductive WrittenAll : List Char → List Filter → Prop
  | one {cs f} (h : Written cs f) : WrittenAll cs [f]
  | more {cs f rest fs} (h : Written cs f) (others : WrittenAll rest fs) :
      WrittenAll (cs ++ rest) (f :: fs)

end

def Reads (text : String) (f : Filter) : Prop := Written text.toList f

/-! ## Characters of each part -/

def isAttributePart (c : Char) : Bool := isNamePart c || c == '.' || c == ';'

private theorem isAttributePart_of_isNamePart {c : Char} (h : isNamePart c) :
    isAttributePart c := by
  simp [isAttributePart, h]

private theorem isAttributePart_of_isDigit {c : Char} (h : c.isDigit) : isAttributePart c := by
  simp [isAttributePart, isNamePart, Char.isAlphanum, h]

private theorem isAttributePart_of_isLetter {c : Char} (h : isLetter c) : isAttributePart c := by
  rw [isLetter] at h
  simp [isAttributePart, isNamePart, Char.isAlphanum, h]

private theorem IsIdentifier.isAttributePart {name : List Char} (h : IsIdentifier name) :
    ∀ c ∈ name, isAttributePart c := by
  have dotted {m rest : List Char} (hm : IsNumber m)
      (hrest : ∀ c ∈ rest, Filter.isAttributePart c) :
      ∀ c ∈ m ++ '.' :: rest, Filter.isAttributePart c := by
    intro c hc
    rcases List.mem_append.mp hc with hc | hc
    · exact isAttributePart_of_isDigit (hm.2.1 c hc)
    · rcases List.mem_cons.mp hc with rfl | hc
      · rfl
      · exact hrest c hc
  induction h with
  | two hm hn => exact dotted hm fun c hc => isAttributePart_of_isDigit (hn.2.1 c hc)
  | more hm others ih => exact dotted hm ih

private theorem IsType.isAttributePart {name : List Char} (h : IsType name) :
    ∀ c ∈ name, isAttributePart c := by
  rcases h with ⟨c, rest, rfl, hc, hrest⟩ | h
  · intro d hd
    rcases List.mem_cons.mp hd with rfl | hd
    · exact isAttributePart_of_isLetter hc
    · exact isAttributePart_of_isNamePart (hrest d hd)
  · exact h.isAttributePart

private theorem IsType.ne_nil {name : List Char} (h : IsType name) : name ≠ [] := by
  rcases h with ⟨c, rest, rfl, -⟩ | h
  · exact List.cons_ne_nil c rest
  · cases h <;> simp

private theorem IsOptions.isAttributePart {options : List Char} (h : IsOptions options) :
    ∀ c ∈ options, isAttributePart c := by
  induction h with
  | none => simp
  | more given h others ih =>
      intro c hc
      rcases List.mem_cons.mp hc with rfl | hc
      · rfl
      · rcases List.mem_append.mp hc with hc | hc
        · exact isAttributePart_of_isNamePart (h c hc)
        · exact ih c hc

theorem IsAttribute.isAttributePart {name : List Char} (h : IsAttribute name) :
    ∀ c ∈ name, isAttributePart c := by
  obtain ⟨type, options, rfl, htype, hoptions⟩ := h
  intro c hc
  rcases List.mem_append.mp hc with hc | hc
  · exact htype.isAttributePart c hc
  · exact hoptions.isAttributePart c hc

theorem IsAttribute.ne_nil {name : List Char} (h : IsAttribute name) : name ≠ [] := by
  obtain ⟨type, options, rfl, htype, -⟩ := h
  have hne := htype.ne_nil
  simp [hne]

/-! ## Values have no structure -/

private theorem isSpecial_of_hexValue? {c : Char} {n : Nat} (h : Text.hexValue? c = some n) :
    isSpecial c = false := by
  by_contra hc
  simp only [isSpecial, Bool.not_eq_false, Bool.or_eq_true, beq_iff_eq] at hc
  rcases hc with (((rfl | rfl) | rfl) | rfl) | rfl <;> cases h

theorem Encodes.eq_of_isSpecial {cs : List Char} {octets : List UInt8} (h : Encodes cs octets) :
    ∀ c ∈ cs, isSpecial c → c = '\\' := by
  induction h with
  | nil => simp
  | plain h rest ih =>
      rw [List.forall_mem_cons]
      refine ⟨fun hc => ?_, ih⟩
      rw [h] at hc
      cases hc
  | escaped ha hb rest ih =>
      simp only [List.forall_mem_cons]
      refine ⟨fun _ => trivial, fun hc => ?_, fun hc => ?_, ih⟩
      · rw [isSpecial_of_hexValue? ha] at hc
        cases hc
      · rw [isSpecial_of_hexValue? hb] at hc
        cases hc

theorem Encodes.escape_of_backslash {cs : List Char} {octets : List UInt8} (h : Encodes cs octets)
    {front back : List Char} (heq : cs = front ++ '\\' :: back) : ∃ a b rest,
      back = a :: b :: rest ∧ (Text.hexValue? a).isSome ∧ (Text.hexValue? b).isSome := by
  induction h generalizing front with
  | nil => simp at heq
  | plain h rest ih =>
      cases front with
      | nil =>
          cases heq
          cases h
      | cons d front => exact ih (List.cons.inj heq).2
  | @escaped a b high low cs octets ha hb rest ih =>
      match front with
      | [] =>
          cases heq
          exact ⟨a, b, cs, rfl, by simp [ha], by simp [hb]⟩
      | [_] =>
          cases heq
          cases ha
      | [_, _] =>
          cases heq
          cases hb
      | _ :: _ :: _ :: front =>
          simp only [List.cons_append, List.cons.injEq] at heq
          exact ih heq.2.2.2

/-- A text is the written form of one value at most. -/
theorem Encodes.unique {cs : List Char} {octets others : List UInt8} (h : Encodes cs octets)
    (h' : Encodes cs others) : octets = others := by
  induction h generalizing others with
  | nil =>
      cases h'
      rfl
  | plain hc rest ih =>
      cases h' with
      | plain _ rest' => rw [ih rest']
      | escaped => cases hc
  | escaped ha hb rest ih =>
      cases h' with
      | plain hc => cases hc
      | escaped ha' hb' rest' =>
          rw [ha, Option.some.injEq] at ha'
          rw [hb, Option.some.injEq] at hb'
          rw [ha', hb', ih rest']

/-! ## Parentheses -/

def Flat (cs : List Char) : Prop := '(' ∉ cs ∧ ')' ∉ cs

private theorem flat_of_isAttributePart {cs : List Char} (h : ∀ c ∈ cs, isAttributePart c) :
    Flat cs := by
  constructor
  · intro hc
    cases h _ hc
  · intro hc
    cases h _ hc

theorem Encodes.flat {cs : List Char} {octets : List UInt8} (h : Encodes cs octets) : Flat cs := by
  constructor
  · intro hc
    cases h.eq_of_isSpecial _ hc rfl
  · intro hc
    cases h.eq_of_isSpecial _ hc rfl

private theorem Starred.flat {cs : List Char} {between : List (List UInt8)} {last : List UInt8}
    (h : Starred cs between last) : Flat cs := by
  induction h with
  | last h => simpa [Flat] using h.flat
  | between h rest ih =>
      have hvalue := h.flat
      simp_all [Flat]

private theorem NamesMark.flat {cs : List Char} {withNames : Bool} (h : NamesMark cs withNames) :
    Flat cs := by
  cases h with
  | absent => simp [Flat]
  | given hd hn =>
      simp only [Flat, List.mem_cons, List.not_mem_nil, or_false, not_or]
      refine ⟨⟨by decide, ?_, ?_⟩, by decide, ?_, ?_⟩
      all_goals
        rintro rfl
        contradiction

private theorem RuleMark.flat {cs : List Char} {rule : Option String} (h : RuleMark cs rule) :
    Flat cs := by
  cases h with
  | absent => simp [Flat]
  | given h => simpa [Flat] using flat_of_isAttributePart h.isAttributePart

theorem IsItem.flat {cs : List Char} {f : Filter} (h : IsItem cs f) : Flat cs := by
  cases h with
  | equal hname value | similar hname value | atLeast hname value | atMost hname value =>
      have hflat := flat_of_isAttributePart hname.isAttributePart
      have hvalue := value.flat
      simp_all [Flat]
  | present hname =>
      have hflat := flat_of_isAttributePart hname.isAttributePart
      simp_all [Flat]
  | substrings hname value others =>
      have hflat := flat_of_isAttributePart hname.isAttributePart
      have hvalue := value.flat
      have hothers := others.flat
      simp_all [Flat]
  | matching hname names ruled value =>
      have hflat := flat_of_isAttributePart hname.isAttributePart
      have hnames := names.flat
      have hruled := ruled.flat
      have hvalue := value.flat
      simp_all [Flat]
  | ruled names h value =>
      have hflat := flat_of_isAttributePart h.isAttributePart
      have hnames := names.flat
      have hvalue := value.flat
      simp_all [Flat]

/-- How many parentheses are open at the end of a text. -/
def depth (cs : List Char) : Int := cs.count '(' - cs.count ')'

@[simp] theorem depth_nil : depth [] = 0 := rfl

@[simp] theorem depth_append (cs ds : List Char) : depth (cs ++ ds) = depth cs + depth ds := by
  simp only [depth, List.count_append]
  omega

theorem Flat.depth_eq {cs : List Char} (h : Flat cs) : depth cs = 0 := by
  simp [depth, List.count_eq_zero.mpr h.1, List.count_eq_zero.mpr h.2]

/-- Every parenthesis of the text is opened and closed in it. -/
structure Balanced (cs : List Char) : Prop where
  depth_eq : depth cs = 0
  depth_nonneg : ∀ front back, cs = front ++ back → 0 ≤ depth front

theorem Flat.balanced {cs : List Char} (h : Flat cs) : Balanced cs := by
  refine ⟨h.depth_eq, ?_⟩
  intro front back heq
  have hfront : Flat front := by
    simp_all [Flat]
  exact Int.le_of_eq hfront.depth_eq.symm

theorem Balanced.append {cs ds : List Char} (hcs : Balanced cs) (hds : Balanced ds) :
    Balanced (cs ++ ds) := by
  have hdepth := hcs.depth_eq
  constructor
  · rw [depth_append, hdepth, hds.depth_eq]
    rfl
  · intro front back heq
    rcases List.append_eq_append_iff.mp heq with ⟨front', rfl, hback⟩ | ⟨back', hfront, -⟩
    · have hnonneg := hds.depth_nonneg front' back hback
      rw [depth_append]
      omega
    · exact hcs.depth_nonneg front back' hfront

private theorem Balanced.cons {c : Char} {cs : List Char} (h : Balanced cs) (hopen : c ≠ '(')
    (hclose : c ≠ ')') : Balanced (c :: cs) := by
  have hc : Flat [c] := by simp [Flat, hopen.symm, hclose.symm]
  exact hc.balanced.append h

theorem Balanced.depth_pos {cs front back : List Char} (h : Balanced cs) (hfront : front ≠ [])
    (hback : back ≠ []) (heq : '(' :: (cs ++ [')']) = front ++ back) : 0 < depth front := by
  cases front with
  | nil => exact absurd rfl hfront
  | cons c front =>
      obtain ⟨rfl, htail⟩ := List.cons.inj heq
      have hopen : depth ('(' :: front) = 1 + depth front := depth_append ['('] front
      have hnonneg : 0 ≤ depth front := by
        rcases List.append_eq_append_iff.mp htail with ⟨more, rfl, hlast⟩ | ⟨back', hcs, -⟩
        · -- The closing parenthesis is all that is left, and it is behind `front`.
          obtain ⟨rfl, -⟩ : more = [] ∧ back = [')'] := by
            rcases List.append_eq_singleton_iff.mp hlast.symm with h | h
            · exact h
            · exact absurd h.2 hback
          rw [List.append_nil]
          exact Int.le_of_eq h.depth_eq.symm
        · exact h.depth_nonneg front back' hcs
      omega

theorem Balanced.enclosed {cs : List Char} (h : Balanced cs) : Balanced ('(' :: (cs ++ [')'])) := by
  have hdepth : depth ('(' :: (cs ++ [')'])) = 0 := by
    rw [← List.singleton_append, depth_append, depth_append, h.depth_eq]
    rfl
  refine ⟨hdepth, ?_⟩
  intro front back heq
  by_cases hfront : front = []
  · rw [hfront]
    exact Int.le_refl 0
  · by_cases hback : back = []
    · rw [hback, List.append_nil] at heq
      rw [← heq]
      exact Int.le_of_eq hdepth.symm
    · exact Int.le_of_lt (h.depth_pos hfront hback heq)

mutual

private theorem Written.balanced : {cs : List Char} → {f : Filter} → Written cs f → Balanced cs
  | _, _, .enclosed h => h.balanced.enclosed

private theorem WrittenInside.balanced :
    {cs : List Char} → {f : Filter} → WrittenInside cs f → Balanced cs
  | _, _, .and h => h.balanced.cons (by decide) (by decide)
  | _, _, .or h => h.balanced.cons (by decide) (by decide)
  | _, _, .not h => h.balanced.cons (by decide) (by decide)
  | _, _, .item h => h.flat.balanced

private theorem WrittenAll.balanced :
    {cs : List Char} → {fs : List Filter} → WrittenAll cs fs → Balanced cs
  | _, _, .one h => h.balanced
  | _, _, .more h others => h.balanced.append others.balanced

end

theorem Written.ne_nil {cs : List Char} {f : Filter} (h : Written cs f) : cs ≠ [] := by
  cases h
  exact List.cons_ne_nil _ _

/-- A filter ends where its first parenthesis is closed. -/
theorem Written.append_inj {cs ds rest rest' : List Char} {f g : Filter} (hcs : Written cs f)
    (hds : Written ds g) (heq : cs ++ rest = ds ++ rest') : cs = ds ∧ rest = rest' := by
  -- Of two filters at the front of one text, the shorter would be level in the midst of the longer.
  have proper {as bs more : List Char} {f g : Filter} (has : Written as f) (hbs : Written bs g)
      (heq : bs = as ++ more) : more = [] := by
    by_contra hmore
    have hlevel := has.balanced.depth_eq
    cases hbs with
    | enclosed h =>
        have hpos := h.balanced.depth_pos has.ne_nil hmore heq
        omega
  rcases List.append_eq_append_iff.mp heq with ⟨more, hmore, hrest⟩ | ⟨more, hmore, hrest⟩
  · obtain rfl := proper hcs hds hmore
    simp_all
  · obtain rfl := proper hds hcs hmore
    simp_all

/-! ## What each text can be -/

theorem written_enclosed_iff {cs : List Char} {f : Filter} :
    Written ('(' :: (cs ++ [')'])) f ↔ WrittenInside cs f := by
  constructor
  · intro h
    generalize htext : '(' :: (cs ++ [')']) = text at h
    cases h with
    | enclosed h =>
        obtain rfl := List.append_cancel_right (List.cons.inj htext).2
        exact h
  · exact .enclosed

theorem IsItem.head {cs : List Char} {f : Filter} (h : IsItem cs f) :
    ∃ c rest, cs = c :: rest ∧ (isAttributePart c ∨ c = ':') := by
  have named {name rest : List Char} (hname : IsAttribute name) :
      ∃ c tail, name ++ rest = c :: tail ∧ (isAttributePart c ∨ c = ':') := by
    obtain ⟨c, tail, rfl⟩ := List.exists_cons_of_ne_nil hname.ne_nil
    exact ⟨c, tail ++ rest, rfl, .inl (hname.isAttributePart c List.mem_cons_self)⟩
  cases h with
  | equal hname | similar hname | atLeast hname | atMost hname | present hname => exact named hname
  | substrings hname | matching hname => exact named hname
  | ruled names => cases names <;> exact ⟨':', _, rfl, .inr rfl⟩

theorem writtenInside_and_iff {cs : List Char} {f : Filter} :
    WrittenInside ('&' :: cs) f ↔ ∃ parts, WrittenAll cs parts ∧ f = .and parts := by
  constructor
  · intro h
    cases h with
    | and h => exact ⟨_, h, rfl⟩
    | item h =>
        obtain ⟨c, rest, heq, hc⟩ := h.head
        cases heq
        rcases hc with hc | hc <;> cases hc
  · intro hparts
    obtain ⟨parts, h, rfl⟩ := hparts
    exact .and h

theorem WrittenAll.ne_nil {cs : List Char} {fs : List Filter} (h : WrittenAll cs fs) : cs ≠ [] := by
  cases h with
  | one h => exact h.ne_nil
  | more h others => exact List.append_ne_nil_of_left_ne_nil h.ne_nil _

theorem Written.writtenAll_append_iff {cs rest : List Char} {f : Filter} (h : Written cs f)
    (hrest : rest ≠ []) {fs : List Filter} : WrittenAll (cs ++ rest) fs ↔
      ∃ g others, Written cs g ∧ WrittenAll rest others ∧ fs = g :: others := by
  constructor
  · intro hall
    generalize htext : cs ++ rest = text at hall
    cases hall with
    | one h' =>
        rw [← List.append_nil text] at htext
        exact absurd (h.append_inj h' htext).2 hrest
    | more h' others =>
        obtain ⟨rfl, rfl⟩ := h.append_inj h' htext
        exact ⟨_, _, h', others, rfl⟩
  · intro hfirst
    obtain ⟨g, others, hg, hothers, rfl⟩ := hfirst
    exact .more hg hothers

theorem Written.writtenAll_iff {cs : List Char} {f : Filter} (h : Written cs f)
    {fs : List Filter} : WrittenAll cs fs ↔ ∃ g, Written cs g ∧ fs = [g] := by
  constructor
  · intro hall
    generalize htext : cs = text at hall
    cases hall with
    | one h' => exact ⟨_, htext ▸ h', rfl⟩
    | more h' others =>
        rw [← List.append_nil cs] at htext
        exact absurd (h.append_inj h' htext).2.symm others.ne_nil
  · intro hsingle
    obtain ⟨g, hg, rfl⟩ := hsingle
    exact .one hg

end DirectoryLogin.Filter
