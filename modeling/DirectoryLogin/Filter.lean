import DirectoryLogin.Text.Octets

/-!
# Search filters

What the text of a search filter means, and how values are escaped in it, so that a value from
outside always compares as it is. Each reader takes what it can from the front of a text and gives
the rest. A whole text may also be a single comparison without parentheses.
-/

namespace DirectoryLogin

/-! ## Syntax -/

/-- A condition on entries. -/
inductive Filter where
  /-- All of these; of nothing, true. -/
  | and (parts : List Filter)
  /-- Some of these; of nothing, false. -/
  | or (parts : List Filter)
  | not (part : Filter)
  | equal (name : String) (value : List UInt8)
  | atLeast (name : String) (value : List UInt8)
  | atMost (name : String) (value : List UInt8)
  | similar (name : String) (value : List UInt8)
  | present (name : String)
  /-- The value begins with `first`, ends with `last`, and has the others between them in order. -/
  | substrings (name : String) (first : List UInt8) (between : List (List UInt8))
      (last : List UInt8)
  /-- A comparison by a rule of its own, which may take in the parts of the entry's name. -/
  | matching (name : Option String) (rule : Option String) (withNames : Bool)
      (value : List UInt8)
  deriving Inhabited, BEq

end DirectoryLogin

namespace DirectoryLogin.Filter

/-! ## Values in filters -/

/-- How a character of a value is written. -/
def escapedChar (c : Char) : List Char :=
  if c = '*' then ['\\', '2', 'a']
  else if c = '(' then ['\\', '2', '8']
  else if c = ')' then ['\\', '2', '9']
  else if c = '\\' then ['\\', '5', 'c']
  else if c = '\x00' then ['\\', '0', '0']
  else [c]

/-- The character has a meaning of its own. -/
def isSpecial (c : Char) : Bool :=
  c == '*' || c == '(' || c == ')' || c == '\\' || c == '\x00'

theorem escapedChar_eq_self_iff (c : Char) : escapedChar c = [c] ↔ isSpecial c = false := by
  unfold escapedChar isSpecial
  repeat' split
  all_goals simp_all

def escapeChars (value : List Char) : List Char := value.flatMap escapedChar

@[simp] theorem escapeChars_nil : escapeChars [] = [] := rfl

@[simp] theorem escapeChars_cons (c : Char) (rest : List Char) :
    escapeChars (c :: rest) = escapedChar c ++ escapeChars rest := rfl

/-- How a value is written. -/
def escape (value : String) : String := String.ofList (escapeChars value.toList)

/-- The filter for entries that another filter accepts and whose attribute has a value. -/
def equality (base attributeName value : String) : String :=
  "(&" ++ base ++ "(" ++ attributeName ++ "=" ++ escape value ++ "))"

/-! ## Reading filters -/

/-- A reader of something at the front of a text. -/
abbrev Reader (α : Type) := List Char → Option (α × List Char)

def isLetter (c : Char) : Bool := c.isAlpha

def isNamePart (c : Char) : Bool := c.isAlphanum || c == '-'

def number? : Reader (List Char) := fun cs =>
  match cs.span Char.isDigit with
  | ([], _) => none
  | ('0' :: _ :: _, _) => none
  | found => some found

def numbers : Nat → List Char → List Char × List Char
  | 0, cs => ([], cs)
  | fuel + 1, cs =>
      match cs with
      | '.' :: rest =>
          match number? rest with
          | none => ([], cs)
          | some (digits, rest) =>
              let (more, rest) := numbers fuel rest
              ('.' :: digits ++ more, rest)
      | _ => ([], cs)

def identifier? : Reader (List Char) := fun cs => do
  let (first, rest) ← number? cs
  let (more, rest) := numbers rest.length rest
  return (first ++ more, rest)

def descriptor? : Reader (List Char) := fun cs =>
  match cs with
  | c :: rest =>
      if isLetter c then some (c :: rest.takeWhile isNamePart, rest.dropWhile isNamePart) else none
  | [] => none

def type? : Reader (List Char) := fun cs => (identifier? cs).or (descriptor? cs)

def options : Nat → List Char → List Char × List Char
  | 0, cs => ([], cs)
  | fuel + 1, cs =>
      match cs with
      | ';' :: rest =>
          match rest.span isNamePart with
          | ([], _) => ([], cs)
          | (option, rest) =>
              let (more, rest) := options fuel rest
              (';' :: option ++ more, rest)
      | _ => ([], cs)

def attribute? : Reader String := fun cs => do
  let (name, rest) ← type? cs
  let (options, rest) := options rest.length rest
  return (String.ofList (name ++ options), rest)

/-- The octets of a value up to the first character that cannot be part of one. A backslash has to
stand before two hexadecimal digits. -/
def value? : Reader (List UInt8)
  | [] => some ([], [])
  | '\\' :: a :: b :: rest => do
      let octet ← Text.hexNumber? [a, b]
      let (octets, rest) ← value? rest
      return (UInt8.ofNat octet :: octets, rest)
  | c :: rest =>
      if c = '\\' then none
      else if c = '\x00' ∨ c = '(' ∨ c = ')' ∨ c = '*' then some ([], c :: rest)
      else do
        let (octets, rest) ← value? rest
        return (String.utf8EncodeChar c ++ octets, rest)

/-- Further values, each after an asterisk. -/
def starred? : Nat → Reader (List (List UInt8))
  | 0, cs => some ([], cs)
  | fuel + 1, cs =>
      match cs with
      | '*' :: rest => do
          let (octets, rest) ← value? rest
          let (more, rest) ← starred? fuel rest
          return (octets :: more, rest)
      | _ => some ([], cs)

/-- The comparison of an attribute with values that asterisks part. Only the last may be empty. -/
def ofStarred? (name : String) (first : List UInt8) (others : List (List UInt8)) : Option Filter :=
  match others.reverse with
  | [] => some (.equal name first)
  | last :: between =>
      if between.any List.isEmpty then none
      else if first.isEmpty ∧ last.isEmpty ∧ between.isEmpty then some (.present name)
      else some (.substrings name first between.reverse last)

/-- A test for equality, presence or parts. -/
def equality? : Reader Filter := fun cs => do
  let (name, rest) ← attribute? cs
  match rest with
  | '=' :: rest =>
      let (first, rest) ← value? rest
      let (others, rest) ← starred? rest.length rest
      return (← ofStarred? name first others, rest)
  | _ => none

/-- A test for order or similarity. -/
def ordering? : Reader Filter := fun cs => do
  let (name, rest) ← attribute? cs
  match rest with
  | '>' :: '=' :: rest => (value? rest).map fun (octets, rest) => (.atLeast name octets, rest)
  | '<' :: '=' :: rest => (value? rest).map fun (octets, rest) => (.atMost name octets, rest)
  | '~' :: '=' :: rest => (value? rest).map fun (octets, rest) => (.similar name octets, rest)
  | _ => none

def namesMark : List Char → Bool × List Char
  | ':' :: 'd' :: 'n' :: rest => (true, rest)
  | cs => (false, cs)

def rule : List Char → Option String × List Char
  | ':' :: rest =>
      match type? rest with
      | some (name, rest) => (some (String.ofList name), rest)
      | none => (none, ':' :: rest)
  | cs => (none, cs)

def matching? (name : Option String) : Reader Filter := fun cs => do
  let (withNames, rest) := namesMark cs
  let (rule, rest) := rule rest
  match rest with
  | ':' :: '=' :: rest =>
      let (octets, rest) ← value? rest
      if name.isNone ∧ rule.isNone then none
      else return (.matching name rule withNames octets, rest)
  | _ => none

def extensible? : Reader Filter := fun cs =>
  match attribute? cs with
  | some (name, rest) => matching? (some name) rest
  | none => matching? none cs

def item? : Reader Filter := fun cs => ((equality? cs).or (ordering? cs)).or (extensible? cs)

mutual

def filter? : Nat → Reader Filter
  | 0, _ => none
  | fuel + 1, cs =>
      match cs with
      | '(' :: rest =>
          match component? fuel rest with
          | some (f, ')' :: rest) => some (f, rest)
          | _ => none
      | _ => none

/-- What stands inside parentheses. -/
def component? : Nat → Reader Filter
  | 0, _ => none
  | fuel + 1, cs =>
      match cs with
      | '&' :: rest =>
          let (parts, rest) := filters fuel rest
          some (.and parts, rest)
      | '|' :: rest =>
          let (parts, rest) := filters fuel rest
          some (.or parts, rest)
      | '!' :: rest => (filter? fuel rest).map fun (f, rest) => (.not f, rest)
      | cs => item? cs

def filters : Nat → List Char → List Filter × List Char
  | 0, cs => ([], cs)
  | fuel + 1, cs =>
      match filter? fuel cs with
      | none => ([], cs)
      | some (f, rest) =>
          let (more, rest) := filters fuel rest
          (f :: more, rest)

end

/-- Reads a whole filter. Of two nested steps at least one takes a character, so the fuel
suffices. -/
def parse? (text : String) : Option Filter :=
  let cs := text.toList
  match (filter? (2 * cs.length + 2) cs).or (item? cs) with
  | some (f, []) => some f
  | _ => none

end DirectoryLogin.Filter
