/-!
# Octets as text

Octets are written by two hexadecimal digits each. Strict reading refuses octets that are not UTF-8.
Lossy reading puts the replacement character in the place of every longest part that begins a
character without completing it.
-/

namespace DirectoryLogin.Text

/-! ## Hexadecimal digits -/

def hexValue? (c : Char) : Option Nat :=
  if '0' ≤ c ∧ c ≤ '9' then some (c.toNat - '0'.toNat)
  else if 'a' ≤ c ∧ c ≤ 'f' then some (c.toNat - 'a'.toNat + 10)
  else if 'A' ≤ c ∧ c ≤ 'F' then some (c.toNat - 'A'.toNat + 10)
  else none

/-- The lower-case hexadecimal digits of a number, without leading zeros. -/
def hexDigits (n : Nat) : String := String.ofList (Nat.toDigits 16 n)

/-- The number written by hexadecimal digits, first digit most significant. -/
def hexNumber? (digits : List Char) : Option Nat :=
  digits.foldl (fun acc c => do return (← acc) * 16 + (← hexValue? c)) (some 0)

/-- The octets written by pairs of hexadecimal digits. -/
def hexOctets? : List Char → Option (List UInt8)
  | [] => some []
  | [_] => none
  | a :: b :: rest => do
      let high ← hexValue? a
      let low ← hexValue? b
      return UInt8.ofNat (high * 16 + low) :: (← hexOctets? rest)

/-! ## UTF-8 -/

/-- The UTF-8 octets of a text. -/
def octets (s : String) : List UInt8 := s.toList.flatMap String.utf8EncodeChar

/-- The text whose UTF-8 octets these are, if there is one. -/
def ofOctets? (bytes : List UInt8) : Option String := String.fromUTF8? bytes.toByteArray

/-- The ranges allowed for the octets after a leading octet, in order; `none` if no character
begins with it. -/
def continuation? (lead : UInt8) : Option (List (UInt8 × UInt8)) :=
  let tail : UInt8 × UInt8 := (0x80, 0xBF)
  if lead ≤ 0x7F then some []
  else if 0xC2 ≤ lead ∧ lead ≤ 0xDF then some [tail]
  else if lead = 0xE0 then some [(0xA0, 0xBF), tail]
  else if lead = 0xED then some [(0x80, 0x9F), tail]
  else if 0xE1 ≤ lead ∧ lead ≤ 0xEF then some [tail, tail]
  else if lead = 0xF0 then some [(0x90, 0xBF), tail, tail]
  else if 0xF1 ≤ lead ∧ lead ≤ 0xF3 then some [tail, tail, tail]
  else if lead = 0xF4 then some [(0x80, 0x8F), tail, tail]
  else none

/-- How many of the following octets fit the ranges, and whether all ranges were met. -/
def fitting : List (UInt8 × UInt8) → List UInt8 → Nat × Bool
  | [], _ => (0, true)
  | _ :: _, [] => (0, false)
  | (low, high) :: ranges, b :: rest =>
      if low ≤ b ∧ b ≤ high then
        let (n, complete) := fitting ranges rest
        (n + 1, complete)
      else (0, false)

/-- Reads octets as UTF-8, with U+FFFD for what is not. -/
def lossy : List UInt8 → String := fun bytes => String.ofList (go bytes.length bytes)
where
  go : Nat → List UInt8 → List Char
    | 0, _ => []
    | _, [] => []
    | fuel + 1, lead :: rest =>
        match continuation? lead with
        | none => '\uFFFD' :: go fuel rest
        | some ranges =>
            let (n, complete) := fitting ranges rest
            let here :=
              if complete then
                match ofOctets? (lead :: rest.take n) with
                | some s => s.toList
                | none => ['\uFFFD']
              else ['\uFFFD']
            here ++ go fuel (rest.drop n)

end DirectoryLogin.Text
