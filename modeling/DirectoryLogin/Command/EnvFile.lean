import DirectoryLogin.Config.Environment
import DirectoryLogin.Files
import DirectoryLogin.Text.Alphanumeric

/-!
# Files of variables

A file can give variables that the environment does not have. Each assignment stands on a line of
its own, unless a quoted value spans several. A value can refer to variables that are there already.
Reading ends at the first line that is malformed; what came before it stays.
-/

namespace DirectoryLogin.Command.EnvFile

open Config (Environment)

inductive Place where
  | plain
  | blank
  | escape
  | single
  | singleEscape
  | double
  | doubleEscape
  | comment
  deriving DecidableEq

def Place.outside (c : Char) : Place :=
  if c = '\\' then .escape
  else if c = '"' then .double
  else if c = '\'' then .single
  else .plain

/-- The place after a character. A comment begins after a blank only. -/
def Place.next (place : Place) (c : Char) : Place :=
  match place with
  | .plain => if Text.isBlank c ∧ c ≠ '\n' ∧ c ≠ '\r' then .blank else .outside c
  | .blank => if c = '#' then .comment else .outside c
  | .escape => .plain
  | .single => if c = '\\' then .singleEscape else if c = '\'' then .plain else .single
  | .singleEscape => .single
  | .double => if c = '\\' then .doubleEscape else if c = '"' then .plain else .double
  | .doubleEscape => .double
  | .comment => .comment

/-- Follows a line: the place where it ends, and the line without a comment. -/
def follow (place : Place) : List Char → Place × List Char
  | [] => (place, [])
  | c :: rest =>
      match place.next c with
      | .comment => (.comment, [])
      | next =>
          let (last, kept) := follow next rest
          (last, c :: kept)

/-- The lines of a file, each with the line feed that ends it. -/
def octetLines : List UInt8 → List (List UInt8)
  | [] => []
  | octet :: rest =>
      if octet = 0x0A then [octet] :: octetLines rest
      else match octetLines rest with
        | [] => [[octet]]
        | line :: others => (octet :: line) :: others

/-- The lines as text, up to the first that is not UTF-8. -/
def textLines : List (List UInt8) → List (List Char)
  | [] => []
  | line :: others =>
      match Text.ofOctets? line with
      | some text => text.toList :: textLines others
      | none => []

def dropLineEnd (line : List Char) : List Char :=
  match line.reverse with
  | '\n' :: '\r' :: rest => rest.reverse
  | '\n' :: rest => rest.reverse
  | _ => line

/-- Puts lines together that quotes or escapes span. Lines that only comment are empty. A line that
is not finished at the end of the file is left out. -/
def wholeLines (held : List Char) (place : Place) : List (List Char) → List (List Char)
  | [] => []
  | line :: others =>
      let whole := held ++ line
      if (Text.trimStart whole).head? = some '#' then [] :: wholeLines [] .plain others
      else
        match follow place line with
        | (.plain, _) => dropLineEnd whole :: wholeLines [] .plain others
        | (.comment, kept) => (held ++ kept) :: wholeLines [] .plain others
        | (next, _) => wholeLines whole next others

/-- A part of a value; the flag says that the part stands in double quotes. -/
inductive Part where
  | plain
  | single
  | double
  | escape (quoted : Bool)
  | reference (quoted : Bool) (name : List Char)
  | braced (quoted : Bool) (name : List Char)
  /-- After a blank: only a comment may follow. -/
  | tail

/-- The part around an escape or a reference. -/
def Part.around (quoted : Bool) : Part := if quoted then .double else .plain

def unescape? (c : Char) : Option Char :=
  if c = 'n' then some '\n'
  else if ['\\', '\'', '"', '$', ' '].contains c then some c
  else none

/-- Reads a value from within a part of it, with the texts of variables. -/
def value? (textOf : List Char → List Char) : Part → List Char → Option (List Char)
  | .plain, [] | .escape false, [] | .tail, [] => some []
  | .reference false name, [] => some (textOf name)
  | _, [] => none
  | .tail, c :: rest =>
      if c = '#' then some []
      else if c = ' ' ∨ c = '\t' then value? textOf .tail rest
      else none
  | .escape quoted, c :: rest => do
      return (← unescape? c) :: (← value? textOf (.around quoted) rest)
  | .single, c :: rest =>
      if c = '\'' then value? textOf .plain rest
      else (value? textOf .single rest).map (c :: ·)
  | .reference quoted name, c :: rest =>
      if Text.isAlphanumeric c then value? textOf (.reference quoted (name ++ [c])) rest
      else if c = '{' ∧ name.isEmpty then value? textOf (.braced quoted []) rest
      else if c = '$' then
        (value? textOf (.reference quoted []) rest).map (textOf name ++ ·)
      else (value? textOf (.around quoted) rest).map (textOf name ++ c :: ·)
  | .braced quoted name, c :: rest =>
      if c = '}' then (value? textOf (.around quoted) rest).map (textOf name ++ ·)
      else value? textOf (.braced quoted (name ++ [c])) rest
  | .double, c :: rest =>
      if c = '$' then value? textOf (.reference true []) rest
      else if c = '"' then value? textOf .plain rest
      else if c = '\\' then value? textOf (.escape true) rest
      else (value? textOf .double rest).map (c :: ·)
  | .plain, c :: rest =>
      if c = '$' then value? textOf (.reference false []) rest
      else if c = '\'' then value? textOf .single rest
      else if c = '"' then value? textOf .double rest
      else if c = '\\' then value? textOf (.escape false) rest
      else if c = ' ' ∨ c = '\t' then value? textOf .tail rest
      else (value? textOf .plain rest).map (c :: ·)

/-- A name at the front, and what follows it and blanks. -/
def name? (cs : List Char) : Option (List Char × List Char) :=
  match cs with
  | c :: rest =>
      if c.isAlpha ∨ c = '_' then
        let (more, rest) := rest.span fun c => c.isAlphanum || c == '_' || c == '.'
        some (c :: more, Text.trimStart rest)
      else none
  | [] => none

/-- A name and the text after the equals sign. A word before the name may say that the variable is
for other programs too. -/
def target? (cs : List Char) : Option (List Char × List Char) :=
  match name? cs with
  | some (name, '=' :: rest) => some (name, rest)
  | some (['e', 'x', 'p', 'o', 'r', 't'], rest) =>
      match name? rest with
      | some (name, '=' :: rest) => some (name, rest)
      | _ => none
  | _ => none

inductive Assignment where
  | nothing
  | assign (name value : String)

/-- Reads a line; `none` if it is malformed. -/
def assignment? (env : Environment) (line : List Char) : Option Assignment :=
  match Text.trim line with
  | [] | '#' :: _ => some .nothing
  | cs => do
      let (name, rest) ← target? cs
      let name := String.ofList name
      match Text.trimStart rest with
      | [] | '#' :: _ => some (.assign name "")
      | rest =>
          let textOf := fun name => ((env.text? (String.ofList name)).getD "").toList
          return .assign name (String.ofList (← value? textOf .plain rest))

/-- Adds what lines assign, as long as they are well-formed. -/
def assignAll (env : Environment) : List (List Char) → Environment
  | [] => env
  | line :: others =>
      match assignment? env line with
      | none => env
      | some .nothing => assignAll env others
      | some (.assign name value) =>
          if (env.text? name).isSome then assignAll env others
          else assignAll (env.set name (Text.octets value)) others

/-- Without the byte order mark at the front. -/
def dropMark : List UInt8 → List UInt8
  | 0xEF :: 0xBB :: 0xBF :: rest => rest
  | octets => octets

/-- The environment with the variables of a file. A file that cannot be read gives none. -/
def extend (env : Environment) : FileAnswer → Environment
  | .contents octets =>
      assignAll env (wholeLines [] .plain (textLines (octetLines (dropMark octets))))
  | .unopened _ | .unread _ => env

end DirectoryLogin.Command.EnvFile
