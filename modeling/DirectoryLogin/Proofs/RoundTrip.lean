import DirectoryLogin.Json.Parser
import DirectoryLogin.Json.Printer
import Mathlib.Data.List.TakeDrop
import Mathlib.Data.List.TakeWhile
import Mathlib.Tactic.SplitIfs

/-!
# Reading what was printed

A document that is spread over several lines is read back as it was, whatever its texts hold, if its
numbers are integers and the names in each table are distinct.
-/

namespace DirectoryLogin.Json

open Document (Value)

/-! ## Texts -/

private theorem hexValue?_digitChar :
    ∀ n < 16, Text.hexValue? (Nat.digitChar n) = some n := by decide

private theorem textBody_unit {a b c d : Char} {unit : Nat} (rest : List Char)
    (hunit : Text.hexNumber? [a, b, c, d] = some unit) (hlow : unit < 0xD800) :
    textBody ('\\' :: 'u' :: a :: b :: c :: d :: rest) =
      (textBody rest).map fun (body, rest) => (Char.ofNat unit :: body, rest) := by
  have hleading : isLeading unit = false := by simp [isLeading]; omega
  have htrailing : isTrailing unit = false := by simp [isTrailing]; omega
  rw [textBody]
  simp only [hunit, Option.bind_eq_bind, Option.bind_some, hleading, htrailing]
  cases textBody rest <;> rfl

private theorem textBody_letter {letter plain : Char} (rest : List Char)
    (hletter : unescape? letter = some plain) (hu : letter ≠ 'u') :
    textBody ('\\' :: letter :: rest) =
      (textBody rest).map fun (body, rest) => (plain :: body, rest) := by
  rw [textBody]
  · simp only [hletter, Option.bind_eq_bind, Option.bind_some]
    cases textBody rest <;> rfl
  · rintro _ _ _ _ _ rfl
    exact (hu rfl).elim

private theorem textBody_plain {c : Char} (rest : List Char) (hquote : c ≠ '"')
    (hbackslash : c ≠ '\\') (hlow : ¬ c.toNat < 0x20) :
    textBody (c :: rest) = (textBody rest).map fun (body, rest) => (c :: body, rest) := by
  rw [textBody]
  · simp only [hlow, if_false, Option.bind_eq_bind]
    cases textBody rest <;> rfl
  · exact hquote
  · exact fun _ _ _ _ _ h => (hbackslash h).elim
  · exact fun _ _ h => (hbackslash h).elim

private theorem textBody_escapedChar (c : Char) (rest : List Char) :
    textBody (escapedChar c ++ rest) =
      (textBody rest).map fun (body, rest) => (c :: body, rest) := by
  have hzero : Text.hexValue? '0' = some 0 := rfl
  have hsixteen : Text.hexValue? '1' = some 1 := rfl
  unfold escapedChar
  split_ifs with hquote hbackslash hb ht hn hf hr hone htwo
  · subst hquote; exact textBody_letter rest rfl (by decide)
  · subst hbackslash; exact textBody_letter rest rfl (by decide)
  · subst hb; exact textBody_letter rest rfl (by decide)
  · subst ht; exact textBody_letter rest rfl (by decide)
  · subst hn; exact textBody_letter rest rfl (by decide)
  · subst hf; exact textBody_letter rest rfl (by decide)
  · subst hr; exact textBody_letter rest rfl (by decide)
  -- The other control characters are written by their code, with one hexadecimal digit or two.
  · have hunit : Text.hexNumber? ['0', '0', '0', Nat.digitChar c.toNat] = some c.toNat := by
      simp [Text.hexNumber?, hexValue?_digitChar _ hone, hzero]
    rw [Nat.toDigits_of_lt_base hone]
    simpa using textBody_unit rest hunit (by omega)
  · have hunit : Text.hexNumber? ['0', '0', '1', Nat.digitChar (c.toNat % 16)] =
        some c.toNat := by
      have hdigit := hexValue?_digitChar (c.toNat % 16) (by omega)
      have hsplit : 16 + c.toNat % 16 = c.toNat := by omega
      simp [Text.hexNumber?, hdigit, hzero, hsixteen, hsplit]
    have hdigits : Nat.toDigits 16 c.toNat = ['1', Nat.digitChar (c.toNat % 16)] := by
      have hhigh : c.toNat / 16 = 1 := by omega
      rw [Nat.toDigits_of_base_le (by decide) (by omega), hhigh]
      rfl
    rw [hdigits]
    simpa using textBody_unit rest hunit (by omega)
  · exact textBody_plain rest hquote hbackslash htwo

theorem textBody_escaped (cs rest : List Char) :
    textBody (cs.flatMap escapedChar ++ '"' :: rest) = some (cs, rest) := by
  induction cs with
  | nil => rfl
  | cons c cs ih =>
      rw [List.flatMap_cons, List.append_assoc, textBody_escapedChar, ih]
      rfl

@[simp] theorem toList_text (s : String) :
    (text s).toList = '"' :: (s.toList.flatMap escapedChar ++ ['"']) := by
  rw [text, String.toList_ofList, List.cons_append]

/-! ## Numbers -/

/-- A number that is written before these characters ends where they begin. -/
def Ends (rest : List Char) : Prop :=
  ∀ c ∈ rest.head?, c.isDigit = false ∧ c ≠ '.' ∧ c ≠ 'e' ∧ c ≠ 'E'

@[simp] theorem ends_cons (c : Char) (cs : List Char) :
    Ends (c :: cs) ↔ c.isDigit = false ∧ c ≠ '.' ∧ c ≠ 'e' ∧ c ≠ 'E' := by simp [Ends]

private theorem span_digits {digits rest : List Char} (hdigits : ∀ c ∈ digits, c.isDigit)
    (hrest : Ends rest) : (digits ++ rest).span Char.isDigit = (digits, rest) := by
  have hstop : rest.span Char.isDigit = ([], rest) := by
    cases rest with
    | nil => rfl
    | cons c rest =>
        have hc := (hrest c rfl).1
        simp [List.span_eq_takeWhile_dropWhile, hc]
  rw [List.span_eq_takeWhile_dropWhile, Prod.mk.injEq] at hstop ⊢
  constructor
  · rw [List.takeWhile_append_of_pos hdigits, hstop.1, List.append_nil]
  · rw [List.dropWhile_append_of_pos hdigits, hstop.2]

private theorem fraction?_of_ends {rest : List Char} (hrest : Ends rest) :
    fraction? rest = some ([], rest) := by
  unfold fraction?
  split
  · exact absurd rfl (hrest _ rfl).2.1
  · rfl

private theorem exponent?_of_ends {rest : List Char} (hrest : Ends rest) :
    exponent? rest = some ([], rest) := by
  cases rest with
  | nil => rfl
  | cons c rest =>
      obtain ⟨-, -, he, hE⟩ := hrest c rfl
      simp [exponent?, he, hE]

private theorem isDigit_of_toDigits {n : Nat} {d : Char} {ds : List Char}
    (h : Nat.toDigits 10 n = d :: ds) : d.isDigit :=
  Nat.isDigit_of_mem_toDigits (by decide) (by decide) (h ▸ List.mem_cons_self)

private theorem toDigits_ne_zero_cons {n : Nat} (hn : 0 < n) (rest : List Char) :
    Nat.toDigits 10 n ≠ '0' :: rest := by
  induction n using Nat.strongRecOn generalizing rest with
  | ind n ih =>
      intro h
      rw [Nat.toDigits_eq_if (by decide)] at h
      split at h
      · have hzero : n = 0 := by simpa using (List.cons.inj h).1
        omega
      · rcases List.append_eq_cons_iff.mp h with ⟨hnil, -⟩ | ⟨tail, htail, -⟩
        · exact Nat.toDigits_ne_nil hnil
        · exact ih (n / 10) (by omega) (by omega) tail htail

private theorem whole?_toDigits (n : Nat) {rest : List Char} (hrest : Ends rest) :
    whole? (Nat.toDigits 10 n ++ rest) = some (Nat.toDigits 10 n, rest) := by
  rcases Nat.eq_zero_or_pos n with rfl | hn
  · rfl
  have hspan : (Nat.toDigits 10 n ++ rest).span Char.isDigit = (Nat.toDigits 10 n, rest) :=
    span_digits (fun c hc => Nat.isDigit_of_mem_toDigits (by decide) (by decide) hc) hrest
  obtain ⟨d, ds, hds⟩ := List.exists_cons_of_ne_nil (Nat.toDigits_ne_nil (n := n) (b := 10))
  have hd : d ≠ '0' := fun h => toDigits_ne_zero_cons hn ds (h ▸ hds)
  rw [hds, List.cons_append] at hspan ⊢
  rw [whole?, digits?, hspan]
  intro tail heq
  exact hd (List.cons.inj heq).1

private theorem decimal_toDigits (n : Nat) : decimal (Nat.toDigits 10 n) = n := by
  calc decimal (Nat.toDigits 10 n)
      = Nat.ofDigitChars 10 (Nat.toDigits 10 n) 0 := by
        rw [Nat.ofDigitChars_eq_foldl]
        simp [decimal, Nat.mul_comm]
    _ = n := Nat.ofDigitChars_ten_toDigits

private theorem number?_toDigits (n : Nat) {rest : List Char} (hrest : Ends rest) :
    number? (Nat.toDigits 10 n ++ rest) = some (.integer n, rest) := by
  rw [number?]
  · simp [whole?_toDigits n hrest, fraction?_of_ends hrest, exponent?_of_ends hrest,
      decimal_toDigits]
  · intro tail heq
    obtain ⟨d, ds, hds⟩ := List.exists_cons_of_ne_nil (Nat.toDigits_ne_nil (n := n) (b := 10))
    have hdigit := isDigit_of_toDigits hds
    rw [hds, List.cons_append] at heq
    rw [(List.cons.inj heq).1] at hdigit
    exact absurd hdigit (by decide)

theorem number?_toString (n : Int) {rest : List Char} (hrest : Ends rest) :
    number? ((toString n).toList ++ rest) = some (.integer n, rest) := by
  rw [Int.toString_eq_repr, Int.repr_eq_if]
  split
  · have hback : (n.toNat : Int) = n := by omega
    rw [Nat.toList_repr, number?_toDigits n.toNat hrest, hback]
  · have hmagnitude : (-n).toNat ≠ 0 := by omega
    have hback : -max (-n) 0 = n := by omega
    simp [number?, whole?_toDigits _ hrest, fraction?_of_ends hrest, exponent?_of_ends hrest,
      decimal_toDigits, hmagnitude, hback]

def beginsNumber (c : Char) : Bool := c.isDigit || c == '-'

private theorem ne_of_beginsNumber {c d : Char} (hc : beginsNumber c) (hd : ¬ beginsNumber d) :
    c ≠ d := fun h => hd (h ▸ hc)

private theorem toString_begins (n : Int) :
    ∃ c cs, (toString n).toList = c :: cs ∧ beginsNumber c := by
  rw [Int.toString_eq_repr, Int.repr_eq_if]
  split
  · obtain ⟨d, ds, hds⟩ := List.exists_cons_of_ne_nil
      (Nat.toDigits_ne_nil (n := n.toNat) (b := 10))
    exact ⟨d, ds, by rw [Nat.toList_repr, hds], by simp [beginsNumber, isDigit_of_toDigits hds]⟩
  · exact ⟨'-', (-n).toNat.repr.toList, by simp, rfl⟩

private theorem value?_of_beginsNumber {c : Char} (fuel : Nat) (cs : List Char)
    (hc : beginsNumber c) : value? (fuel + 1) (c :: cs) = number? (c :: cs) := by
  have hne {d : Char} (hd : ¬ beginsNumber d) : c ≠ d := ne_of_beginsNumber hc hd
  rw [value?]
  all_goals exact fun _ h => absurd (List.cons.inj h).1 (hne (by decide))

/-! ## Blanks and the beginning of a value -/

theorem skip_of_not_isSpace {c : Char} (cs : List Char) (h : isSpace c = false) :
    skip (c :: cs) = c :: cs := by simp [skip, h]

@[simp] theorem skip_newline (cs : List Char) : skip ('\n' :: cs) = skip cs := rfl

@[simp] theorem skip_blank (cs : List Char) : skip (' ' :: cs) = skip cs := rfl

@[simp] theorem skip_indent (depth : Nat) (cs : List Char) :
    skip ((indent depth).toList ++ cs) = skip cs := by
  rw [indent, String.toList_ofList]
  exact List.dropWhile_append_of_pos fun c hc => by rw [List.eq_of_mem_replicate hc]; rfl

/-- The characters begin with a token, and not with the end of a list. -/
def Begins (cs : List Char) : Prop := ∃ c ∈ cs.head?, isSpace c = false ∧ c ≠ ']'

@[simp] theorem begins_cons (c : Char) (cs : List Char) :
    Begins (c :: cs) ↔ isSpace c = false ∧ c ≠ ']' := by simp [Begins]

theorem Begins.append {cs : List Char} (h : Begins cs) (rest : List Char) :
    Begins (cs ++ rest) := by
  obtain ⟨c, hhead, hc⟩ := h
  obtain ⟨tail, rfl⟩ := List.head?_eq_some_iff.mp hhead
  simpa using hc

theorem Begins.skip_append {cs : List Char} (h : Begins cs) (rest : List Char) :
    skip (cs ++ rest) = cs ++ rest := by
  obtain ⟨c, hhead, hblank, -⟩ := h
  obtain ⟨tail, rfl⟩ := List.head?_eq_some_iff.mp hhead
  exact skip_of_not_isSpace _ hblank

/-! ## The lines of a list or a table -/

def lined (parts : List String) : List Char := (String.intercalate ",\n" parts).toList

@[simp] theorem lined_singleton (part : String) : lined [part] = part.toList := by simp [lined]

@[simp] theorem lined_cons_cons (part other : String) (parts : List String) :
    lined (part :: other :: parts) = part.toList ++ ',' :: '\n' :: lined (other :: parts) := by
  rw [lined, String.intercalate_cons_cons]
  simp [lined]

def closing (depth : Nat) (bracket : Char) (rest : List Char) : List Char :=
  '\n' :: ((indent depth).toList ++ bracket :: rest)

theorem skip_closing (depth : Nat) {bracket : Char} (rest : List Char)
    (h : isSpace bracket = false) : skip (closing depth bracket rest) = bracket :: rest := by
  rw [closing, skip_newline, skip_indent, skip_of_not_isSpace rest h]

theorem ends_closing (depth : Nat) (bracket : Char) (rest : List Char) :
    Ends (closing depth bracket rest) := by simp [closing]

theorem toList_spread_list {items : List Value} (depth : Nat) (hne : items ≠ []) :
    (spread depth (.list items)).toList =
      '[' :: '\n' :: (lined (spreadItems (depth + 1) items) ++ closing depth ']' []) := by
  simp [spread, hne, lined, closing]

theorem toList_spread_table {members : List (String × Value)} (depth : Nat) (hne : members ≠ []) :
    (spread depth (.table members)).toList =
      '{' :: '\n' :: (lined (spreadMembers (depth + 1) members) ++ closing depth '}' []) := by
  simp [spread, hne, lined, closing]

theorem closing_append (depth : Nat) (bracket : Char) (rest : List Char) :
    closing depth bracket [] ++ rest = closing depth bracket rest := by simp [closing]

/-! ## Values -/

/-- The document has a form of its own: every number is an integer, and the names in a table are
distinct. -/
inductive Expressible : Value → Prop where
  | null : Expressible .null
  | bool (b : Bool) : Expressible (.bool b)
  | integer (n : Int) : Expressible (.integer n)
  | text (s : String) : Expressible (.text s)
  | list {items : List Value} (hitems : ∀ v ∈ items, Expressible v) : Expressible (.list items)
  | table {members : List (String × Value)} (hnames : (members.map Prod.fst).Nodup)
      (hmembers : ∀ m ∈ members, Expressible m.2) : Expressible (.table members)

theorem Expressible.begins {v : Value} (h : Expressible v) (depth : Nat) :
    Begins (spread depth v).toList := by
  cases h with
  | null => simp [spread, scalar, isSpace]
  | bool b => cases b <;> simp [spread, scalar, isSpace]
  | integer n =>
      obtain ⟨c, cs, hcs, hc⟩ := toString_begins n
      have hne {d : Char} (hd : ¬ beginsNumber d) : c ≠ d := ne_of_beginsNumber hc hd
      have hblank : isSpace c = false := by
        simp [isSpace, hne (d := ' ') (by decide), hne (d := '\t') (by decide),
          hne (d := '\n') (by decide), hne (d := '\r') (by decide)]
      rw [spread, scalar, hcs, begins_cons]
      · exact ⟨hblank, hne (by decide)⟩
      all_goals nofun
  | text s => simp [spread, scalar, isSpace]
  | @list items =>
      by_cases hne : items = []
      · simp [hne, spread, isSpace]
      · simp [toList_spread_list depth hne, isSpace]
  | @table members =>
      by_cases hne : members = []
      · simp [hne, spread, isSpace]
      · simp [toList_spread_table depth hne, isSpace]

/-- Enough fuel reads the value back from its spread form, wherever that stands. -/
def Reads (v : Value) : Prop :=
  ∀ depth fuel rest, Ends rest → 2 * (spread depth v).toList.length ≤ fuel →
    value? fuel ((spread depth v).toList ++ rest) = some (v, rest)

/-- There is fuel for a first step, since something is written. -/
private theorem Expressible.reads_of_succ {v : Value} (h : Expressible v)
    (hsucc : ∀ depth fuel rest, Ends rest → 2 * (spread depth v).toList.length ≤ fuel + 1 →
      value? (fuel + 1) ((spread depth v).toList ++ rest) = some (v, rest)) : Reads v := by
  intro depth fuel rest hrest hfuel
  obtain ⟨c, hhead, -⟩ := h.begins depth
  obtain ⟨tail, htail⟩ := List.head?_eq_some_iff.mp hhead
  cases fuel with
  | zero => simp [htail] at hfuel
  | succ fuel => exact hsucc depth fuel rest hrest hfuel

private theorem items?_lined {items : List Value} (depth outer fuel : Nat) (rest : List Char)
    (hitems : ∀ v ∈ items, Expressible v ∧ Reads v) (hne : items ≠ [])
    (hfuel : 2 * (lined (spreadItems depth items)).length < fuel) :
    items? fuel (skip (lined (spreadItems depth items) ++ closing outer ']' rest)) =
      some (items, rest) := by
  have hclosing : skip (closing outer ']' rest) = ']' :: rest := skip_closing outer rest rfl
  induction items generalizing fuel with
  | nil => exact (hne rfl).elim
  | cons v others ih =>
      obtain ⟨hv, hreads⟩ := hitems v List.mem_cons_self
      have hskip := (hv.begins depth).skip_append
      obtain ⟨fuel, rfl⟩ : ∃ n, fuel = n + 1 := ⟨fuel - 1, by omega⟩
      cases others with
      | nil =>
          simp only [spreadItems, lined_singleton, String.toList_append,
            List.length_append] at hfuel
          have hread := hreads depth fuel _ (ends_closing outer ']' rest) (by omega)
          simp [spreadItems, hskip, items?, hread, hclosing]
      | cons w others =>
          rw [spreadItems, spreadItems, lined_cons_cons, ← spreadItems] at hfuel ⊢
          simp only [String.toList_append, List.length_append, List.length_cons] at hfuel
          have hread := hreads depth fuel
            (',' :: '\n' :: (lined (spreadItems depth (w :: others)) ++ closing outer ']' rest))
            (by simp) (by omega)
          have hothers := ih fuel (fun u hu => hitems u (List.mem_cons_of_mem v hu)) nofun
            (by omega)
          simp [hskip, items?, hread, skip_of_not_isSpace, isSpace, hothers]

private theorem members?_lined {members : List (String × Value)} (depth outer fuel : Nat)
    (rest : List Char) (hmembers : ∀ m ∈ members, Expressible m.2 ∧ Reads m.2) (hne : members ≠ [])
    (hfuel : 2 * (lined (spreadMembers depth members)).length < fuel) :
    members? fuel (skip (lined (spreadMembers depth members) ++ closing outer '}' rest)) =
      some (members, rest) := by
  have hclosing : skip (closing outer '}' rest) = '}' :: rest := skip_closing outer rest rfl
  induction members generalizing fuel with
  | nil => exact (hne rfl).elim
  | cons m others ih =>
      obtain ⟨hv, hreads⟩ := hmembers m List.mem_cons_self
      have hskip := (hv.begins depth).skip_append
      obtain ⟨fuel, rfl⟩ : ∃ n, fuel = n + 1 := ⟨fuel - 1, by omega⟩
      cases others with
      | nil =>
          simp only [spreadMembers, lined_singleton, String.toList_append,
            List.length_append] at hfuel
          have hread := hreads depth fuel _ (ends_closing outer '}' rest) (by omega)
          simp [spreadMembers, hskip, members?, textBody_escaped, hread, hclosing,
            skip_of_not_isSpace, isSpace]
      | cons w others =>
          obtain ⟨name, u⟩ := w
          rw [spreadMembers, spreadMembers, lined_cons_cons, ← spreadMembers] at hfuel ⊢
          simp only [String.toList_append, List.length_append, List.length_cons] at hfuel
          have hread := hreads depth fuel
            (',' :: '\n' ::
              (lined (spreadMembers depth ((name, u) :: others)) ++ closing outer '}' rest))
            (by simp) (by omega)
          have hothers := ih fuel (fun n hn => hmembers n (List.mem_cons_of_mem m hn)) nofun
            (by omega)
          simp [hskip, members?, textBody_escaped, hread, skip_of_not_isSpace, isSpace, hothers]

private theorem begins_lined {v : Value} (others : List Value) (h : Expressible v) (depth : Nat)
    (rest : List Char) : Begins (skip (lined (spreadItems depth (v :: others)) ++ rest)) := by
  have hbegins := h.begins depth
  cases others with
  | nil => simpa [spreadItems, hbegins.skip_append] using hbegins.append _
  | cons w others => simpa [spreadItems, hbegins.skip_append] using hbegins.append _

theorem value?_list (fuel : Nat) {cs : List Char} (h : Begins (skip cs)) :
    value? (fuel + 1) ('[' :: cs) =
      (items? fuel (skip cs)).map fun (items, rest) => (.list items, rest) := by
  obtain ⟨c, hhead, -, hc⟩ := h
  obtain ⟨tail, heq⟩ := List.head?_eq_some_iff.mp hhead
  rw [value?, heq]
  split
  · exact absurd (List.cons.inj ‹_›).1 hc
  · cases items? fuel (c :: tail) <;> rfl

private theorem reads_list {items : List Value} (hitems : ∀ v ∈ items, Expressible v ∧ Reads v) :
    Reads (.list items) := by
  apply (Expressible.list fun v hv => (hitems v hv).1).reads_of_succ
  intro depth fuel rest _ hfuel
  cases items with
  | nil => simp [spread, value?, skip_of_not_isSpace, isSpace]
  | cons v others =>
      have hne := List.cons_ne_nil v others
      rw [toList_spread_list depth hne] at hfuel ⊢
      simp only [List.length_cons, List.length_append] at hfuel
      have hread := items?_lined (depth + 1) depth fuel rest hitems hne (by omega)
      have hbegins := begins_lined others (hitems v List.mem_cons_self).1 (depth + 1)
        (closing depth ']' rest)
      simp only [List.cons_append, List.append_assoc, closing_append]
      rw [value?_list fuel (by simpa using hbegins), skip_newline, hread]
      rfl

private theorem begins_linedMembers (m : String × Value) (others : List (String × Value))
    (depth : Nat) (rest : List Char) :
    ∃ tail, skip (lined (spreadMembers depth (m :: others)) ++ rest) = '"' :: tail := by
  cases others <;> simp [spreadMembers, skip_of_not_isSpace, isSpace]

theorem value?_table (fuel : Nat) {cs tail : List Char} (h : skip cs = '"' :: tail) :
    value? (fuel + 1) ('{' :: cs) =
      (members? fuel (skip cs)).map fun (members, rest) => (.table (lastOfEach members), rest) := by
  rw [value?, h]
  split
  · exact absurd (List.cons.inj ‹_›).1 (by decide)
  · cases members? fuel ('"' :: tail) <;> rfl

theorem lastOfEach_eq_self {members : List (String × Value)}
    (hnames : (members.map Prod.fst).Nodup) : lastOfEach members = members := by
  induction members with
  | nil => rfl
  | cons m rest ih =>
      have hnodup := List.nodup_cons.mp hnames
      have hlast : rest.any (·.1 == m.1) = false := by
        simp only [List.any_eq_false, beq_iff_eq]
        intro other hother heq
        exact hnodup.1 (heq ▸ List.mem_map_of_mem hother)
      rw [lastOfEach, hlast, ih hnodup.2]
      rfl

private theorem reads_table {members : List (String × Value)}
    (hnames : (members.map Prod.fst).Nodup)
    (hmembers : ∀ m ∈ members, Expressible m.2 ∧ Reads m.2) : Reads (.table members) := by
  apply (Expressible.table hnames fun m hm => (hmembers m hm).1).reads_of_succ
  intro depth fuel rest _ hfuel
  cases members with
  | nil => simp [spread, value?, skip_of_not_isSpace, isSpace]
  | cons m others =>
      have hne := List.cons_ne_nil m others
      rw [toList_spread_table depth hne] at hfuel ⊢
      simp only [List.length_cons, List.length_append] at hfuel
      have hread := members?_lined (depth + 1) depth fuel rest hmembers hne (by omega)
      obtain ⟨tail, htail⟩ := begins_linedMembers m others (depth + 1) (closing depth '}' rest)
      simp only [List.cons_append, List.append_assoc, closing_append]
      rw [value?_table fuel ((skip_newline _).trans htail), skip_newline, hread]
      simp [lastOfEach_eq_self hnames]

private theorem reads_integer (n : Int) : Reads (.integer n) := by
  apply (Expressible.integer n).reads_of_succ
  intro depth fuel rest hrest _
  obtain ⟨c, cs, hcs, hc⟩ := toString_begins n
  have hspread : spread depth (.integer n) = toString n := by rw [spread, scalar] <;> nofun
  have hread := number?_toString n hrest
  rw [hspread]
  rw [hcs, List.cons_append] at hread ⊢
  rw [value?_of_beginsNumber fuel _ hc, hread]

theorem Expressible.reads {v : Value} (h : Expressible v) : Reads v := by
  induction h with
  | null => exact Expressible.null.reads_of_succ fun _ _ _ _ _ => by simp [spread, scalar, value?]
  | bool b =>
      refine (Expressible.bool b).reads_of_succ fun _ _ _ _ _ => ?_
      cases b <;> simp [spread, scalar, value?]
  | integer n => exact reads_integer n
  | text s =>
      refine (Expressible.text s).reads_of_succ fun _ _ _ _ _ => ?_
      simp [spread, scalar, value?, textBody_escaped]
  | list hitems ih => exact reads_list fun v hv => ⟨hitems v hv, ih v hv⟩
  | table hnames hmembers ih => exact reads_table hnames fun m hm => ⟨hmembers m hm, ih m hm⟩

/-- A document that is printed, and followed by blanks at most, is read back as it was. -/
theorem parse?_pretty {v : Value} (h : Expressible v) (blanks : String)
    (hblanks : ∀ c ∈ blanks.toList, isSpace c) : parse? (pretty v ++ blanks) = some v := by
  have hends : Ends blanks.toList := by
    intro c hc
    have hblank := hblanks c (List.mem_of_mem_head? hc)
    simp only [isSpace, Bool.or_eq_true, beq_iff_eq] at hblank
    rcases hblank with ((rfl | rfl) | rfl) | rfl <;> decide
  have hskip : skip blanks.toList = [] := List.dropWhile_eq_nil_iff.mpr hblanks
  have hbegins := (h.begins 0).skip_append blanks.toList
  have hread := h.reads 0 (2 * (pretty v ++ blanks).toList.length + 2) blanks.toList hends
    (by simp only [pretty, String.toList_append, List.length_append]; omega)
  simp only [pretty, String.toList_append] at hread
  simp only [parse?, pretty, String.toList_append, hbegins, hread, Option.bind_eq_bind,
    Option.bind_some, hskip, List.isEmpty_nil, if_true]

end DirectoryLogin.Json
