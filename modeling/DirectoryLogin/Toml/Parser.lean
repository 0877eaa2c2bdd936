import DirectoryLogin.Text.Cut
import DirectoryLogin.Toml.Moment
import DirectoryLogin.Toml.Number
import DirectoryLogin.Toml.Quoted
import DirectoryLogin.Toml.Table

/-!
# Reading TOML

Version 1.1 of the format: tables in braces may span lines, also around the equals sign, and end
with a comma. Values nest, and keys are dotted, up to a fixed depth.
-/

namespace DirectoryLogin.Toml

open Document (Value)

/-- How deep lists and tables nest, and how many parts a key has, at most. -/
def maxDepth : Nat := 80

def skipSpaces (cs : List Char) : List Char := cs.dropWhile isSpace

/-- Without the comment at the front, if there is one: up to the end of its line. -/
def skipComment? : List Char → Option (List Char)
  | '#' :: rest =>
      match rest.dropWhile isPlain with
      | [] => some []
      | rest => if (lineBreak? rest).isSome then some rest else none
  | cs => some cs

/-- Without the blanks, line ends and comments at the front. -/
def skipTrivia? : Nat → List Char → Option (List Char)
  | 0, _ => none
  | fuel + 1, cs => do
      let cs ← skipComment? (skipSpaces cs)
      match lineBreak? cs with
      | some rest => skipTrivia? fuel rest
      | none => some cs

/-- The rest after the end of a line, with blanks and a comment before it. -/
def endLine? (cs : List Char) : Option (List Char) := do
  let cs ← skipComment? (skipSpaces cs)
  match cs with
  | [] => some []
  | cs => lineBreak? cs

/-- Characters of keys without quotes. -/
def isBare (c : Char) : Bool := c.isAlphanum || c == '_' || c == '-'

/-- One part of a key. -/
def keyPart? (cs : List Char) : Option (String × List Char) :=
  match cs.span isBare with
  | ([], rest) => (quotedLine? rest).map fun (body, rest) => (String.ofList body, rest)
  | (name, rest) => some (String.ofList name, rest)

/-- The parts of a key, with blanks allowed around the dots, and the blanks after it. -/
def key? : Nat → List Char → Option (List String × List Char)
  | 0, _ => none
  | fuel + 1, cs => do
      let (part, rest) ← keyPart? (skipSpaces cs)
      match skipSpaces rest with
      | '.' :: rest =>
          let (parts, rest) ← key? fuel rest
          return (part :: parts, rest)
      | rest => some ([part], rest)

/-- A key as the way to a table and the name in it. -/
def path? (cs : List Char) : Option (List String × String × List Char) := do
  let (parts, rest) ← key? maxDepth cs
  match parts.reverse with
  | [] => none
  | name :: before => some (before.reverse, name, rest)

/-- Blanks, line ends and the marks that stand around values. -/
def delimiters : List Char := ['=', ',', '[', ']', '{', '}', ' ', '\t', '#', '\r', '\n']

def isWord (c : Char) : Bool := !delimiters.contains c

/-- A value without quotes and brackets. A date may be parted from its time by a blank. -/
def word? (cs : List Char) : Option (Value × List Char) :=
  let (word, rest) := cs.span isWord
  if word = ['t', 'r', 'u', 'e'] then some (.bool true, rest)
  else if word = ['f', 'a', 'l', 's', 'e'] then some (.bool false, rest)
  else
    match number? word with
    | some v => some (v, rest)
    | none =>
        match afterDate? word, rest with
        | some [], ' ' :: c :: more =>
            if c.isDigit then
              let (time, rest) := (c :: more).span isWord
              (moment? (word ++ ' ' :: time)).map (·, rest)
            else (moment? word).map (·, rest)
        | _, rest => (moment? word).map (·, rest)

mutual

/-- A value, in which lists and tables nest at most `depth` deep. -/
def value? : Nat → Nat → List Char → Option (Value × List Char)
  | 0, _, _ => none
  | fuel + 1, depth, cs =>
      match cs with
      | '[' :: rest =>
          match depth with
          | 0 => none
          | depth + 1 => do
              let (items, rest) ← items? fuel depth rest
              return (.list items, rest)
      | '{' :: rest =>
          match depth with
          | 0 => none
          | depth + 1 => do
              let (members, rest) ← inline? fuel depth [] rest
              return (.table (finishAll members), rest)
      | '"' :: _ | '\'' :: _ => do
          let (body, rest) ← quoted? cs
          return (.text (String.ofList body), rest)
      | cs => word? cs

/-- The items of a list and its closing bracket. A comma may follow the last item. -/
def items? : Nat → Nat → List Char → Option (List Value × List Char)
  | 0, _, _ => none
  | fuel + 1, depth, cs => do
      let cs ← skipTrivia? fuel cs
      match cs with
      | ']' :: rest => some ([], rest)
      | cs =>
          let (v, rest) ← value? fuel depth cs
          let rest ← skipTrivia? fuel rest
          match rest with
          | ',' :: rest =>
              let (vs, rest) ← items? fuel depth rest
              return (v :: vs, rest)
          | ']' :: rest => some ([v], rest)
          | _ => none

/-- The members of a table in braces and its closing brace. A comma may follow the last member. -/
def inline? : Nat → Nat → Members → List Char → Option (Members × List Char)
  | 0, _, _, _ => none
  | fuel + 1, depth, ms, cs => do
      let cs ← skipTrivia? fuel cs
      match cs with
      | '}' :: rest => some (ms, rest)
      | cs =>
          let (path, name, rest) ← path? cs
          let rest ← expect? '=' (← skipTrivia? fuel rest)
          let (v, rest) ← value? fuel depth (← skipTrivia? fuel rest)
          let ms ← ms.assign name v path
          let rest ← skipTrivia? fuel rest
          match rest with
          | ',' :: rest => inline? fuel depth ms rest
          | '}' :: rest => some (ms, rest)
          | _ => none

end

/-- The document so far: the whole table, and the header under which lines are read. -/
structure Draft where
  root : Members := []
  header : List String := []

/-- Reads one header or assignment. -/
def Draft.statement? (draft : Draft) (cs : List Char) : Option (Draft × List Char) :=
  match cs with
  | '[' :: '[' :: rest => do
      let (path, name, rest) ← path? rest
      let rest ← expect? ']' rest
      let rest ← expect? ']' rest
      let root ← draft.root.within (Members.append name) path
      return ({ root, header := path ++ [name] }, rest)
  | '[' :: rest => do
      let (path, name, rest) ← path? rest
      let rest ← expect? ']' rest
      let root ← draft.root.within (Members.define name) path
      return ({ root, header := path ++ [name] }, rest)
  | cs => do
      let (path, name, rest) ← path? cs
      let rest ← expect? '=' rest
      let rest := skipSpaces rest
      -- Of two nested steps at least one takes a character.
      let (v, rest) ← value? (2 * rest.length + 2) maxDepth rest
      let root ← draft.root.within (Members.assign name v path) draft.header
      return ({ draft with root }, rest)

def Draft.lines? : Nat → Draft → List Char → Option Draft
  | 0, _, _ => none
  | fuel + 1, draft, cs => do
      let cs ← skipTrivia? (fuel + 1) cs
      match cs with
      | [] => some draft
      | cs =>
          let (draft, rest) ← draft.statement? cs
          lines? fuel draft (← endLine? rest)

/-- Without the byte order mark at the front. -/
def dropMark : List Char → List Char
  | '\uFEFF' :: rest => rest
  | cs => cs

/-- Reads a whole TOML text. Each line takes a character, so the fuel suffices. -/
def parse? (s : String) : Option Value := do
  let cs := dropMark s.toList
  let draft ← Draft.lines? (cs.length + 1) {} cs
  return .table (finishAll draft.root)

end DirectoryLogin.Toml
