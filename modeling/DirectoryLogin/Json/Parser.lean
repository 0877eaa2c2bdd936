import DirectoryLogin.Document.Value
import DirectoryLogin.Text.Octets

/-!
# Reading JSON

A text is read as a document, without regard to what it is for. A number counts as an integer if it
has neither a fraction nor an exponent and is not a negative zero. Of members with the same name the
last one counts; a reader that knew the members of a record would refuse the second, but no
configuration comes from JSON text except by way of a document.
-/

namespace DirectoryLogin.Json

open Document (Value)

def isSpace (c : Char) : Bool := c == ' ' || c == '\t' || c == '\n' || c == '\r'

def skip (cs : List Char) : List Char := cs.dropWhile isSpace

/-- The character for the letter of a one-letter escape. -/
def unescape? : Char → Option Char
  | '"' => some '"'
  | '\\' => some '\\'
  | '/' => some '/'
  | 'b' => some '\x08'
  | 'f' => some '\x0c'
  | 'n' => some '\n'
  | 'r' => some '\r'
  | 't' => some '\t'
  | _ => none

def isLeading (unit : Nat) : Bool := 0xD800 ≤ unit && unit < 0xDC00

def isTrailing (unit : Nat) : Bool := 0xDC00 ≤ unit && unit < 0xE000

/-- The rest of a text after its opening quote, up to the closing quote. -/
def textBody : List Char → Option (List Char × List Char)
  | [] => none
  | '"' :: rest => some ([], rest)
  | '\\' :: 'u' :: a :: b :: c :: d :: rest => do
      let unit ← Text.hexNumber? [a, b, c, d]
      if isLeading unit then
        match rest with
        | '\\' :: 'u' :: e :: f :: g :: h :: rest => do
            let second ← Text.hexNumber? [e, f, g, h]
            if isTrailing second then
              let (body, rest) ← textBody rest
              let code := 0x10000 + (unit - 0xD800) * 0x400 + (second - 0xDC00)
              return (Char.ofNat code :: body, rest)
            else none
        | _ => none
      else if isTrailing unit then none
      else do
        let (body, rest) ← textBody rest
        return (Char.ofNat unit :: body, rest)
  | '\\' :: c :: rest => do
      let plain ← unescape? c
      let (body, rest) ← textBody rest
      return (plain :: body, rest)
  | c :: rest =>
      if c.toNat < 0x20 then none
      else do
        let (body, rest) ← textBody rest
        return (c :: body, rest)

def digits? (cs : List Char) : Option (List Char × List Char) :=
  match cs.span Char.isDigit with
  | ([], _) => none
  | found => some found

def whole? : List Char → Option (List Char × List Char)
  | '0' :: rest => some (['0'], rest)
  | cs => digits? cs

def decimal (digits : List Char) : Nat :=
  digits.foldl (fun acc c => acc * 10 + (c.toNat - '0'.toNat)) 0

def fraction? : List Char → Option (List Char × List Char)
  | '.' :: rest => (digits? rest).map fun (digits, rest) => ('.' :: digits, rest)
  | cs => some ([], cs)

def exponent? : List Char → Option (List Char × List Char)
  | c :: rest =>
      if c = 'e' ∨ c = 'E' then
        match rest with
        | '+' :: rest => (digits? rest).map fun (digits, rest) => (c :: '+' :: digits, rest)
        | '-' :: rest => (digits? rest).map fun (digits, rest) => (c :: '-' :: digits, rest)
        | rest => (digits? rest).map fun (digits, rest) => (c :: digits, rest)
      else some ([], c :: rest)
  | [] => some ([], [])

def number? (cs : List Char) : Option (Value × List Char) := do
  let (negative, cs) := match cs with
    | '-' :: rest => (true, rest)
    | cs => (false, cs)
  let (whole, cs) ← whole? cs
  let (fraction, cs) ← fraction? cs
  let (exponent, cs) ← exponent? cs
  let n := decimal whole
  if fraction.isEmpty && exponent.isEmpty && !(negative && n == 0) then
    return (.integer (if negative then -(n : Int) else n), cs)
  else
    let sign := if negative then ['-'] else []
    return (.decimal (String.ofList (sign ++ whole ++ fraction ++ exponent)), cs)

/-- Without the members whose name comes again later. -/
def lastOfEach : List (String × Value) → List (String × Value)
  | [] => []
  | m :: rest => if rest.any (·.1 == m.1) then lastOfEach rest else m :: lastOfEach rest

mutual

/-- A value without blanks in front. -/
def value? : Nat → List Char → Option (Value × List Char)
  | 0, _ => none
  | fuel + 1, cs =>
      match cs with
      | 'n' :: 'u' :: 'l' :: 'l' :: rest => some (.null, rest)
      | 't' :: 'r' :: 'u' :: 'e' :: rest => some (.bool true, rest)
      | 'f' :: 'a' :: 'l' :: 's' :: 'e' :: rest => some (.bool false, rest)
      | '"' :: rest => do
          let (body, rest) ← textBody rest
          return (.text (String.ofList body), rest)
      | '[' :: rest =>
          match skip rest with
          | ']' :: rest => some (.list [], rest)
          | rest => do
              let (items, rest) ← items? fuel rest
              return (.list items, rest)
      | '{' :: rest =>
          match skip rest with
          | '}' :: rest => some (.table [], rest)
          | rest => do
              let (members, rest) ← members? fuel rest
              return (.table (lastOfEach members), rest)
      | cs => number? cs

def items? : Nat → List Char → Option (List Value × List Char)
  | 0, _ => none
  | fuel + 1, cs => do
      let (v, rest) ← value? fuel cs
      match skip rest with
      | ']' :: rest => some ([v], rest)
      | ',' :: rest =>
          let (vs, rest) ← items? fuel (skip rest)
          return (v :: vs, rest)
      | _ => none

/-- The members of a table that has one, and the closing brace. -/
def members? : Nat → List Char → Option (List (String × Value) × List Char)
  | 0, _ => none
  | fuel + 1, cs =>
      match cs with
      | '"' :: rest => do
          let (name, rest) ← textBody rest
          match skip rest with
          | ':' :: rest =>
              let (v, rest) ← value? fuel (skip rest)
              match skip rest with
              | '}' :: rest => some ([(String.ofList name, v)], rest)
              | ',' :: rest =>
                  let (ms, rest) ← members? fuel (skip rest)
                  return ((String.ofList name, v) :: ms, rest)
              | _ => none
          | _ => none
      | _ => none

end

/-- Reads a whole JSON text. Of two nested steps at least one takes a character, so the fuel
suffices. -/
def parse? (s : String) : Option Value := do
  let cs := s.toList
  let (v, rest) ← value? (2 * cs.length + 2) (skip cs)
  if (skip rest).isEmpty then some v else none

end DirectoryLogin.Json
