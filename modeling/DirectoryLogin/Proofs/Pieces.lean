import DirectoryLogin.Text.Cut
import DirectoryLogin.Text.Octets
import Mathlib.Data.List.TakeWhile

/-!
# Texts, their octets and their parts

A text is read from octets exactly if they are its own. It has one way to be put together from parts
without commas, and one part that is left when the blank characters around it are taken away.
-/

namespace DirectoryLogin.Text

/-! ## Octets -/

theorem toByteArray_octets (s : String) : (octets s).toByteArray = s.toByteArray := by
  have hencode : s.toList.utf8Encode = s.toByteArray := String.utf8Encode_toList
  rw [← hencode, List.utf8Encode]
  rfl

theorem octets_injective {s t : String} (h : octets s = octets t) : s = t := by
  apply String.toByteArray_inj.mp
  rw [← toByteArray_octets, ← toByteArray_octets, h]

theorem ofOctets?_octets (s : String) : ofOctets? (octets s) = some s := by
  rw [ofOctets?, toByteArray_octets, String.fromUTF8?, dif_pos s.isValidUTF8]
  rfl

theorem ofOctets?_eq_some_iff {bytes : List UInt8} {s : String} :
    ofOctets? bytes = some s ↔ bytes = octets s := by
  constructor
  · intro h
    have harray : bytes.toByteArray = s.toByteArray := by
      rw [ofOctets?, String.fromUTF8?] at h
      split at h
      · cases h
        rfl
      · cases h
    rw [← toByteArray_octets] at harray
    have hlist := congrArg (·.data.toList) harray
    rwa [List.toList_data_toByteArray, List.toList_data_toByteArray] at hlist
  · rintro rfl
    exact ofOctets?_octets s

theorem mapM_ofOctets?_eq_some_iff {values : List (List UInt8)} {texts : List String} :
    values.mapM ofOctets? = some texts ↔ values = texts.map octets := by
  induction values generalizing texts with
  | nil =>
      rw [List.mapM_nil, eq_comm (a := []), List.map_eq_nil_iff, eq_comm (b := [])]
      exact Option.some_inj
  | cons bytes rest ih =>
      rw [List.mapM_cons, eq_comm (a := bytes :: rest), List.map_eq_cons_iff]
      constructor
      · intro h
        obtain ⟨first, hfirst, h⟩ := Option.bind_eq_some_iff.mp h
        obtain ⟨others, hothers, h⟩ := Option.bind_eq_some_iff.mp h
        cases h
        exact ⟨first, others, rfl, (ofOctets?_eq_some_iff.mp hfirst).symm, (ih.mp hothers).symm⟩
      · rintro ⟨first, others, rfl, hfirst, hothers⟩
        rw [ofOctets?_eq_some_iff.mpr hfirst.symm, ih.mpr hothers.symm]
        rfl

/-! ## Parts -/

/-! ## Parts -/

theorem pieces_eq_splitOn (mark : Char) (cs : List Char) : pieces mark cs = cs.splitOn mark := by
  induction cs with
  | nil => rfl
  | cons c rest ih =>
      rw [pieces, List.splitOn_cons_eq_if_modifyHead, ← ih]
      by_cases hc : c = mark
      · simp [hc]
      · cases hp : pieces mark rest with
        | nil => exact absurd hp (pieces_ne_nil mark rest)
        | cons first others => simp [hc]

/-- The text is put together from these parts, with commas between them. -/
structure Parted (text : String) (parts : List String) : Prop where
  joined : text = ",".intercalate parts
  any : parts ≠ []
  whole : ∀ part ∈ parts, ',' ∉ part.toList

theorem Parted.pieces_eq {text : String} {parts : List String} (h : Parted text parts) :
    pieces ',' text.toList = parts.map String.toList := by
  have hwhole : ∀ part ∈ parts.map String.toList, ',' ∉ part := by
    intro part hpart
    obtain ⟨s, hs, rfl⟩ := List.mem_map.mp hpart
    exact h.whole s hs
  have hany : parts.map String.toList ≠ [] := by simpa using h.any
  rw [h.joined, String.toList_intercalate, pieces_eq_splitOn]
  exact List.splitOn_intercalate ',' hwhole hany

theorem Parted.unique {text : String} {parts others : List String} (h : Parted text parts)
    (h' : Parted text others) : parts = others := by
  have hmap := h.pieces_eq.symm.trans h'.pieces_eq
  exact (List.map_inj_right fun _ _ heq => String.toList_injective heq).mp hmap

theorem notMem_of_mem_pieces {mark : Char} {cs piece : List Char} (h : piece ∈ pieces mark cs) :
    mark ∉ piece := by
  induction cs generalizing piece with
  | nil =>
      rw [List.mem_singleton.mp h]
      exact List.not_mem_nil
  | cons c rest ih =>
      rw [pieces] at h
      split at h
      · rcases List.mem_cons.mp h with rfl | h
        · exact List.not_mem_nil
        · exact ih h
      · next hc =>
          cases hp : pieces mark rest with
          | nil => exact absurd hp (pieces_ne_nil mark rest)
          | cons first others =>
              rw [hp] at h ih
              rcases List.mem_cons.mp h with rfl | h
              · intro hmem
                rcases List.mem_cons.mp hmem with heq | hmem
                · exact hc heq.symm
                · exact ih List.mem_cons_self hmem
              · exact ih (List.mem_cons_of_mem _ h)

theorem parted_pieces (text : String) :
    Parted text ((pieces ',' text.toList).map String.ofList) where
  joined := by
    apply String.toList_injective
    have hmap : ((pieces ',' text.toList).map String.ofList).map String.toList =
        pieces ',' text.toList := by
      rw [List.map_map]
      exact List.map_id'' (fun _ => String.toList_ofList) _
    rw [String.toList_intercalate, hmap]
    exact (intercalate_pieces ',' text.toList).symm
  any := by simpa using pieces_ne_nil ',' text.toList
  whole := by
    intro part hpart
    obtain ⟨piece, hpiece, rfl⟩ := List.mem_map.mp hpart
    rw [String.toList_ofList]
    exact notMem_of_mem_pieces hpiece

/-! ## Trimming -/

/-- The second text is what is left of the first without the blank characters around it. -/
structure Trims (text inner : List Char) : Prop where
  around : ∃ front back, text = front ++ (inner ++ back) ∧ (∀ c ∈ front, isBlank c = true) ∧
    ∀ c ∈ back, isBlank c = true
  first : ∀ c ∈ inner.head?, isBlank c = false
  last : ∀ c ∈ inner.getLast?, isBlank c = false

private theorem head?_dropWhile {cs : List Char} {c : Char}
    (h : c ∈ (cs.dropWhile isBlank).head?) : isBlank c = false := by
  have hnot := List.head?_dropWhile_not isBlank cs
  rw [h] at hnot
  exact hnot

private theorem trim_append (text : List Char) :
    trim text ++ ((trimStart text).reverse.takeWhile isBlank).reverse = trimStart text := by
  rw [trim, trimEnd, ← List.reverse_append, List.takeWhile_append_dropWhile, List.reverse_reverse]

theorem trims_trim (text : List Char) : Trims text (trim text) where
  around := by
    refine ⟨text.takeWhile isBlank, ((trimStart text).reverse.takeWhile isBlank).reverse, ?_,
      fun c hc => List.mem_takeWhile_imp hc,
      fun c hc => List.mem_takeWhile_imp (List.mem_reverse.mp hc)⟩
    rw [trim_append]
    exact List.takeWhile_append_dropWhile.symm
  first := by
    intro c hc
    have hhead : c ∈ (trimStart text).head? := by
      rw [← trim_append, List.head?_append, hc]
      rfl
    exact head?_dropWhile hhead
  last := by
    intro c hc
    rw [trim, trimEnd, List.getLast?_reverse] at hc
    exact head?_dropWhile hc

/-- Nothing but the trimmed text is left. -/
theorem Trims.eq_trim {text inner : List Char} (h : Trims text inner) : inner = trim text := by
  obtain ⟨front, back, rfl, hfront, hback⟩ := h.around
  have hdrop : ∀ cs : List Char, (∀ c ∈ cs.head?, isBlank c = false) →
      cs.dropWhile isBlank = cs := by
    intro cs hcs
    cases cs with
    | nil => rfl
    | cons c rest => exact List.dropWhile_cons_of_neg (by simp [hcs c rfl])
  have hend : trimEnd (inner ++ back) = inner := by
    have hlast : ∀ c ∈ inner.reverse.head?, isBlank c = false := by
      rw [List.head?_reverse]
      exact h.last
    rw [trimEnd, List.reverse_append, List.dropWhile_append_of_pos, hdrop _ hlast,
      List.reverse_reverse]
    intro c hc
    exact hback c (List.mem_reverse.mp hc)
  rw [trim, trimStart, List.dropWhile_append_of_pos hfront]
  cases inner with
  | nil =>
      have hnone : ([] ++ back).dropWhile isBlank = [] := List.dropWhile_eq_nil_iff.mpr hback
      rw [hnone]
      rfl
  | cons c rest => rw [hdrop (c :: rest ++ back) h.first, hend]

theorem Trims.of_ends {text : List Char} (first : ∀ c ∈ text.head?, isBlank c = false)
    (last : ∀ c ∈ text.getLast?, isBlank c = false) : Trims text text where
  around := ⟨[], [], (List.append_nil text).symm, by simp, by simp⟩
  first
  last

theorem trim_eq_nil_iff (text : List Char) : trim text = [] ↔ ∀ c ∈ text, isBlank c = true := by
  constructor
  · intro h
    obtain ⟨front, back, heq, hfront, hback⟩ := (trims_trim text).around
    rw [heq, h, List.nil_append]
    exact List.forall_mem_append.mpr ⟨hfront, hback⟩
  · intro h
    have hnone : Trims text [] :=
      ⟨⟨text, [], (List.append_nil text).symm, h, by simp⟩, by simp, by simp⟩
    exact hnone.eq_trim.symm

theorem isBlankText_iff (s : String) : isBlankText s = true ↔ ∀ c ∈ s.toList, isBlank c = true := by
  rw [isBlankText, List.isEmpty_iff, trim_eq_nil_iff]

end DirectoryLogin.Text
