import DirectoryLogin.Arithmetic
import DirectoryLogin.Document.Value

/-!
# Dates and times in TOML

A date, a time of day, or both with or without the distance from universal time. Dates have to be in
the calendar, and a minute may have a leap second.
-/

namespace DirectoryLogin.Toml

open Document (Value)

def digits? (n : Nat) (cs : List Char) : Option (Nat × List Char) :=
  let ds := cs.take n
  if ds.length = n ∧ ds.all Char.isDigit then
    some (ds.foldl (fun acc c => acc * 10 + (c.toNat - '0'.toNat)) 0, cs.drop n)
  else none

def expect? (mark : Char) : List Char → Option (List Char)
  | c :: rest => if c = mark then some rest else none
  | [] => none

def afterDate? (cs : List Char) : Option (List Char) := do
  let (year, cs) ← digits? 4 cs
  let cs ← expect? '-' cs
  let (month, cs) ← digits? 2 cs
  let cs ← expect? '-' cs
  let (day, cs) ← digits? 2 cs
  if Calendar.isDay year month day then some cs else none

def afterFraction? (cs : List Char) : Option (List Char) :=
  match cs with
  | '.' :: rest =>
      match rest.span Char.isDigit with
      | ([], _) => none
      | (_, rest) => some rest
  | cs => some cs

def afterTime? (cs : List Char) : Option (List Char) := do
  let (hour, cs) ← digits? 2 cs
  let cs ← expect? ':' cs
  let (minute, cs) ← digits? 2 cs
  if !Calendar.isMinute hour minute then none
  else
    match cs with
    | ':' :: rest => do
        let (second, rest) ← digits? 2 rest
        if 60 < second then none else afterFraction? rest
    | cs => some cs

/-- The rest after a distance from universal time, if there is one. -/
def afterOffset? (cs : List Char) : Option (List Char) :=
  match cs with
  | [] => some []
  | c :: rest =>
      if c = 'Z' ∨ c = 'z' then some rest
      else if c = '+' ∨ c = '-' then do
        let (hour, rest) ← digits? 2 rest
        let rest ← expect? ':' rest
        let (minute, rest) ← digits? 2 rest
        if Calendar.isMinute hour minute then some rest else none
      else none

/-- The literal is a date, a time of day or both. -/
def isMoment (literal : List Char) : Bool :=
  match afterDate? literal with
  | some [] => true
  | some (c :: rest) =>
      (c == 'T' || c == 't' || c == ' ') && ((afterTime? rest).bind afterOffset?) == some []
  | none => afterTime? literal == some []

def moment? (literal : List Char) : Option Value :=
  if isMoment literal then some (.moment (String.ofList literal)) else none

end DirectoryLogin.Toml
