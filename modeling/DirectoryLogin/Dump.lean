import DirectoryLogin.Text.Quoted

/-!
# Structural dumps

A dump shows a value's structure to a person who looks for a fault: the names of records and their
fields, with texts in quotes. It is written on one line or spread over several, one part a line.
-/

namespace DirectoryLogin

/-- What a dump shows of a value. -/
inductive Dump where
  /-- A number, a truth value or the bare name of a case. -/
  | word (text : String)
  /-- A text, shown in quotes. -/
  | quote (text : String)
  /-- A case that holds one value. -/
  | holding (case : String) (content : Dump)
  | list (items : List Dump)
  | record (name : String) (fields : List (String × Dump))
  deriving Inhabited

namespace Dump

def ofBool (b : Bool) : Dump := .word (if b then "true" else "false")

def ofOption {α : Type} (dump : α → Dump) : Option α → Dump
  | none => .word "None"
  | some a => .holding "Some" (dump a)

mutual

def line : Dump → String
  | .word text => text
  | .quote text => Text.quoted text
  | .holding case content => case ++ "(" ++ content.line ++ ")"
  | .list items => "[" ++ String.intercalate ", " (linesOf items) ++ "]"
  | .record name fields =>
      if fields.isEmpty then name
      else name ++ " \x7b " ++ String.intercalate ", " (fieldLines fields) ++ " \x7d"

def linesOf : List Dump → List String
  | [] => []
  | item :: rest => item.line :: linesOf rest

def fieldLines : List (String × Dump) → List String
  | [] => []
  | (name, content) :: rest => (name ++ ": " ++ content.line) :: fieldLines rest

end

/-- Four blanks for each level. -/
def indent (depth : Nat) : String := String.ofList (List.replicate (4 * depth) ' ')

mutual

/-- Over several lines, the first of them without indentation. -/
def spread (depth : Nat) : Dump → String
  | .word text => text
  | .quote text => Text.quoted text
  | .holding case content =>
      case ++ "(\n" ++ indent (depth + 1) ++ content.spread (depth + 1) ++ ",\n" ++
        indent depth ++ ")"
  | .list items =>
      if items.isEmpty then "[]"
      else "[\n" ++ String.join (spreadItems depth items) ++ indent depth ++ "]"
  | .record name fields =>
      if fields.isEmpty then name
      else
        name ++ " \x7b\n" ++ String.join (spreadFields depth fields) ++ indent depth ++ "\x7d"

def spreadItems (depth : Nat) : List Dump → List String
  | [] => []
  | item :: rest =>
      (indent (depth + 1) ++ item.spread (depth + 1) ++ ",\n") :: spreadItems depth rest

def spreadFields (depth : Nat) : List (String × Dump) → List String
  | [] => []
  | (name, content) :: rest =>
      (indent (depth + 1) ++ name ++ ": " ++ content.spread (depth + 1) ++ ",\n") ::
        spreadFields depth rest

end

def pretty (dump : Dump) : String := dump.spread 0

end Dump

end DirectoryLogin
