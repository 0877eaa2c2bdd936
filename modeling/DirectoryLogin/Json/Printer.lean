import DirectoryLogin.Document.Value
import DirectoryLogin.Text.Octets

/-!
# Printing JSON

A document is printed on one line, or spread out with two blanks for each level. Inside a text the
quote, the backslash and the control characters below the blank are escaped, and nothing else.
-/

namespace DirectoryLogin.Json

open Document (Value)

/-- How one character is written inside a JSON text. -/
def escapedChar (c : Char) : List Char :=
  if c = '"' then ['\\', '"']
  else if c = '\\' then ['\\', '\\']
  else if c = '\x08' then ['\\', 'b']
  else if c = '\t' then ['\\', 't']
  else if c = '\n' then ['\\', 'n']
  else if c = '\x0c' then ['\\', 'f']
  else if c = '\r' then ['\\', 'r']
  else if c.toNat < 0x10 then ['\\', 'u', '0', '0', '0'] ++ Nat.toDigits 16 c.toNat
  else if c.toNat < 0x20 then ['\\', 'u', '0', '0'] ++ Nat.toDigits 16 c.toNat
  else [c]

def text (s : String) : String :=
  String.ofList ('"' :: s.toList.flatMap escapedChar ++ ['"'])

def scalar : Value → String
  | .null => "null"
  | .bool b => if b then "true" else "false"
  | .integer n => toString n
  | .decimal literal => literal
  | .unreadable literal | .moment literal => text literal
  | .text s => text s
  | .list _ | .table _ => ""

mutual

/-- The document on one line, without blanks. -/
def compact : Value → String
  | .list items => "[" ++ String.intercalate "," (compactItems items) ++ "]"
  | .table members => "\x7b" ++ String.intercalate "," (compactMembers members) ++ "\x7d"
  | v => scalar v

def compactItems : List Value → List String
  | [] => []
  | v :: rest => compact v :: compactItems rest

def compactMembers : List (String × Value) → List String
  | [] => []
  | (name, v) :: rest => (text name ++ ":" ++ compact v) :: compactMembers rest

end

/-- Two blanks for each level. -/
def indent (depth : Nat) : String := String.ofList (List.replicate (2 * depth) ' ')

mutual

/-- The document spread over several lines, the first of them without indentation. -/
def spread (depth : Nat) : Value → String
  | .list items =>
      if items.isEmpty then "[]"
      else "[\n" ++ String.intercalate ",\n" (spreadItems (depth + 1) items) ++ "\n" ++
        indent depth ++ "]"
  | .table members =>
      if members.isEmpty then "\x7b\x7d"
      else "\x7b\n" ++ String.intercalate ",\n" (spreadMembers (depth + 1) members) ++ "\n" ++
        indent depth ++ "\x7d"
  | v => scalar v

def spreadItems (depth : Nat) : List Value → List String
  | [] => []
  | v :: rest => (indent depth ++ spread depth v) :: spreadItems depth rest

def spreadMembers (depth : Nat) : List (String × Value) → List String
  | [] => []
  | (name, v) :: rest =>
      (indent depth ++ text name ++ ": " ++ spread depth v) :: spreadMembers depth rest

end

/-- The document spread over several lines. -/
def pretty (v : Value) : String := spread 0 v

end DirectoryLogin.Json
