import DirectoryLogin.Document.Value
import DirectoryLogin.Text.Octets

/-!
# Numbers in TOML

Integers are written in decimal with a sign or in another base without one; digits may be parted by
single underscores. A number that is out of range stands in a document as one that cannot be read: a
fractional number whose value is not finite, although it is not written as infinity, and an integer
beyond 128 bits. So does a literal that begins with digits and goes on otherwise.
-/

namespace DirectoryLogin.Toml

open Document (Value)

/-- One or more digits, with single underscores between them, without the underscores. -/
def digitsOf? (isDigit : Char → Bool) : List Char → Option (List Char)
  | [] => none
  | [c] => if isDigit c then some [c] else none
  | c :: '_' :: rest => if isDigit c then (digitsOf? isDigit rest).map (c :: ·) else none
  | c :: rest => if isDigit c then (digitsOf? isDigit rest).map (c :: ·) else none

def ofDigits (base : Nat) (digits : List Char) : Nat :=
  digits.foldl (fun acc c => acc * base + (Text.hexValue? c).getD 0) 0

def isOctal (c : Char) : Bool := '0' ≤ c && c ≤ '7'

def isBinary (c : Char) : Bool := c == '0' || c == '1'

def isHex (c : Char) : Bool := (Text.hexValue? c).isSome

/-- A sign and what follows it. -/
def signed : List Char → Bool × List Char
  | '-' :: rest => (true, rest)
  | '+' :: rest => (false, rest)
  | cs => (false, cs)

/-- The decimal digits of a number without superfluous leading zeros. -/
def wholeDigits? (cs : List Char) : Option (List Char) :=
  match cs with
  | '0' :: _ :: _ => none
  | cs => digitsOf? Char.isDigit cs

/-- The integers of 128 bits, with or without sign. -/
def fits (n : Int) : Bool := -(1 <<< 127 : Nat) ≤ n && n < (1 <<< 128 : Nat)

def integer? : List Char → Option Int
  | '0' :: 'x' :: rest => (digitsOf? isHex rest).map fun ds => (ofDigits 16 ds : Int)
  | '0' :: 'o' :: rest => (digitsOf? isOctal rest).map fun ds => (ofDigits 8 ds : Int)
  | '0' :: 'b' :: rest => (digitsOf? isBinary rest).map fun ds => (ofDigits 2 ds : Int)
  | cs => do
      let (negative, cs) := signed cs
      let n := ofDigits 10 (← wholeDigits? cs)
      return if negative then -(n : Int) else n

/-- Whether `n · 10 ^ e` is finite as a binary number of 64 bits. The bound is the point halfway
between the largest such number and the next power of two. Exponents far from the bound are decided
by the count of digits alone. -/
def isFinite (n : Nat) (e : Int) : Bool :=
  let bound := 1 <<< 1024 - 1 <<< 970
  let size := (Nat.toDigits 10 n).length
  if n == 0 then true
  else if (size : Int) + e > 320 then false
  else if (size : Int) + e < 300 then true
  else if 0 ≤ e then n * Nat.pow 10 e.toNat < bound
  else n < bound * Nat.pow 10 (-e).toNat

def splitExponent (cs : List Char) : List Char × Option (List Char) :=
  match cs.span (fun c => c != 'e' && c != 'E') with
  | (front, _ :: back) => (front, some back)
  | (front, []) => (front, none)

def splitPoint (cs : List Char) : List Char × Option (List Char) :=
  match cs.span (· != '.') with
  | (front, _ :: back) => (front, some back)
  | (front, []) => (front, none)

/-- The digits and the power of ten of a fractional number with a point, an exponent or both. -/
def scaled? (cs : List Char) : Option (Nat × Int) := do
  let (front, exponent) := splitExponent cs
  let (whole, fraction) := splitPoint front
  if fraction.isNone ∧ exponent.isNone then none
  else
    let w ← wholeDigits? whole
    let f ← match fraction with
      | some f => digitsOf? Char.isDigit f
      | none => some []
    let e ← match exponent with
      | some e =>
          let (negative, ds) := signed e
          (digitsOf? Char.isDigit ds).map fun ds =>
            let n : Int := ofDigits 10 ds
            if negative then -n else n
      | none => some 0
    return (ofDigits 10 (w ++ f), e - f.length)

/-- Every underscore stands between two digits of any base. -/
def isParted : List Char → Bool
  | '_' :: _ => false
  | c :: '_' :: d :: rest => isHex c && isHex d && isParted (d :: rest)
  | _ :: rest => isParted rest
  | [] => true

/-- A literal that begins as an integer does, without being one. -/
def isLoose (literal : List Char) : Bool :=
  if literal = ['0', 'x'] ∨ literal = ['0', 'o'] ∨ literal = ['0', 'b'] then true
  else
    let (_, cs) := signed literal
    let rest := cs.dropWhile fun c => c.isDigit || c == '_'
    cs.head?.any (fun c => c.isDigit && c != '0') && !rest.head?.any (['-', ':'].contains ·) &&
      !rest.any (['.', 'e', 'E'].contains ·) && isParted literal

def number? (literal : List Char) : Option Value :=
  let (_, cs) := signed literal
  let text := String.ofList literal
  match integer? literal, scaled? cs with
  | some n, _ => some (if fits n then .integer n else .unreadable text)
  | none, some (n, e) => some (if isFinite n e then .decimal text else .unreadable text)
  | none, none =>
      if cs = ['i', 'n', 'f'] ∨ cs = ['n', 'a', 'n'] then some (.decimal text)
      else if isLoose literal then some (.unreadable text)
      else none

end DirectoryLogin.Toml
