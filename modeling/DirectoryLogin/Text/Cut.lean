/-!
# Trimming and cutting text

Text is trimmed of the characters with the Unicode property `White_Space`, cut at the first place
where a mark stands, and split at every place where a single character stands.
-/

namespace DirectoryLogin.Text

/-! ## Blank text -/

/-- The characters with the property `White_Space`. -/
def isBlank (c : Char) : Bool :=
  let n := c.toNat
  (0x09 ≤ n && n ≤ 0x0D) || n == 0x20 || n == 0x85 || n == 0xA0 || n == 0x1680 ||
    (0x2000 ≤ n && n ≤ 0x200A) || n == 0x2028 || n == 0x2029 || n == 0x202F || n == 0x205F ||
    n == 0x3000

theorem isBlank_of_isWhitespace {c : Char} (h : c.isWhitespace = true) : isBlank c = true := by
  simp only [Char.isWhitespace, Bool.or_eq_true, decide_eq_true_eq] at h
  rcases h with ((h | h) | h) | h <;> subst h <;> decide

def trimStart (cs : List Char) : List Char := cs.dropWhile isBlank

def trimEnd (cs : List Char) : List Char := (cs.reverse.dropWhile isBlank).reverse

/-- Without the blank characters at both ends. -/
def trim (cs : List Char) : List Char := trimEnd (trimStart cs)

/-- Nothing is left after trimming. -/
def isBlankText (s : String) : Bool := (trim s.toList).isEmpty

/-! ## Marks -/

/-- What stands before and after the first occurrence of `mark`; `none` if there is none. -/
def cut (mark : List Char) : List Char → Option (List Char × List Char)
  | [] => if mark.isEmpty then some ([], []) else none
  | c :: rest =>
      match mark.isPrefixOf? (c :: rest) with
      | some after => some ([], after)
      | none => (cut mark rest).map fun (before, after) => (c :: before, after)

/-- The pieces between the marks: one more than there are marks. -/
def pieces (mark : Char) : List Char → List (List Char)
  | [] => [[]]
  | c :: rest =>
      if c = mark then [] :: pieces mark rest
      else match pieces mark rest with
        | [] => [[c]]
        | first :: others => (c :: first) :: others

theorem pieces_ne_nil (mark : Char) (cs : List Char) : pieces mark cs ≠ [] := by
  cases cs with
  | nil => simp [pieces]
  | cons c rest =>
      simp only [pieces]
      split
      · simp
      · split <;> simp

/-- The pieces put together again, with the mark between neighbours, are the text. -/
theorem intercalate_pieces (mark : Char) (cs : List Char) :
    [mark].intercalate (pieces mark cs) = cs := by
  induction cs with
  | nil => rfl
  | cons c rest ih =>
      simp only [pieces]
      split
      · next h =>
          subst h
          cases hp : pieces c rest with
          | nil => exact absurd hp (pieces_ne_nil c rest)
          | cons first others =>
            rw [hp] at ih
            cases others <;> simp_all [List.intercalate, List.intersperse]
      · cases hp : pieces mark rest with
        | nil => exact absurd hp (pieces_ne_nil mark rest)
        | cons first others =>
            rw [hp] at ih
            cases others <;> simp_all [List.intercalate, List.intersperse]

end DirectoryLogin.Text
