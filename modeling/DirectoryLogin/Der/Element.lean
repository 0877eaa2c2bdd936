import DirectoryLogin.Arithmetic

/-!
# DER elements

An element has a tag of one octet, a length and a content. Lengths take the fewest octets that hold
them and stay below 65535. Points in time are compared by the numbers that their calendar digits
write.
-/

namespace DirectoryLogin.Der

def booleanTag : UInt8 := 0x01

def integerTag : UInt8 := 0x02

def bitStringTag : UInt8 := 0x03

def octetStringTag : UInt8 := 0x04

def nullTag : UInt8 := 0x05

def identifierTag : UInt8 := 0x06

def utcTimeTag : UInt8 := 0x17

def generalizedTimeTag : UInt8 := 0x18

def sequenceTag : UInt8 := 0x30

/-- The tag of an element that wraps another one under a number of its own. -/
def contextTag (n : UInt8) : UInt8 := 0xA0 ||| n

structure Element where
  tag : UInt8
  content : List UInt8
  deriving DecidableEq

/-- A length at the front: an octet below 128, or the number of octets that follow and hold it. -/
def length? : List UInt8 → Option (Nat × List UInt8)
  | 0x81 :: a :: rest => if 0x80 ≤ a then some (a.toNat, rest) else none
  | 0x82 :: a :: b :: rest =>
      let n := Octets.natural [a, b]
      if 0x100 ≤ n ∧ n < 0xFFFF then some (n, rest) else none
  | a :: rest => if a < 0x80 then some (a.toNat, rest) else none
  | [] => none

/-- The element at the front, and the rest. -/
def element? : List UInt8 → Option (Element × List UInt8)
  | [] => none
  | tag :: rest => do
      let (n, rest) ← length? rest
      let content := rest.take n
      if tag &&& 0x1F ≠ 0x1F ∧ content.length = n then some (⟨tag, content⟩, rest.drop n) else none

/-- The content of the element at the front, which has this tag, and the rest. -/
def expect? (tag : UInt8) (octets : List UInt8) : Option (List UInt8 × List UInt8) := do
  let (e, rest) ← element? octets
  if e.tag = tag then some (e.content, rest) else none

def optional? (tag : UInt8) (octets : List UInt8) : Option (Option (List UInt8) × List UInt8) :=
  match octets with
  | [] => some (none, [])
  | first :: _ =>
      if first = tag then (expect? tag octets).map fun (content, rest) => (some content, rest)
      else some (none, octets)

def only? (tag : UInt8) (octets : List UInt8) : Option (List UInt8) :=
  match expect? tag octets with
  | some (content, []) => some content
  | _ => none

def naturalContent? : List UInt8 → Option Nat
  | [] => none
  | [b] => if b < 0x80 then some b.toNat else none
  | a :: b :: rest =>
      if 0x80 ≤ a ∨ (a = 0 ∧ b < 0x80) then none else some (Octets.natural (a :: b :: rest))

def natural? (octets : List UInt8) : Option (Nat × List UInt8) := do
  let (content, rest) ← expect? integerTag octets
  return (← naturalContent? content, rest)

/-- The octets of a bit string that holds whole octets. -/
def bitString? (content : List UInt8) : Option (List UInt8) :=
  match content with
  | 0 :: octets => some octets
  | _ => none

/-- The octets of a length below 2 ^ 24. -/
def lengthOctets (n : Nat) : List UInt8 :=
  if n < 0x80 then [UInt8.ofNat n]
  else if n < 0x100 then [0x81, UInt8.ofNat n]
  else if n < 0x10000 then [0x82, UInt8.ofNat (n / 0x100), UInt8.ofNat n]
  else [0x83, UInt8.ofNat (n / 0x10000), UInt8.ofNat (n / 0x100), UInt8.ofNat n]

def octets (tag : UInt8) (content : List UInt8) : List UInt8 :=
  tag :: lengthOctets content.length ++ content

/-- The octets of an integer that is not negative: as few as leave its highest bit clear. -/
def integerOctets (n : Nat) : List UInt8 :=
  octets integerTag (Octets.bigEndian ((n.log2 + 1) / 8 + 1) n)

/-! ## Instants -/

/-- A point in time as the number written by year, month, day, hour, minute and second. -/
abbrev Instant := Nat

/-- The number written by decimal digits. -/
def decimal? (digits : List UInt8) : Option Nat :=
  if digits.all fun b => 0x30 ≤ b && b ≤ 0x39 then
    some (digits.foldl (fun acc b => acc * 10 + (b.toNat - 0x30)) 0)
  else none

/-- The digits write a second of the calendar. -/
def isInstant (n : Nat) : Bool :=
  let day := n / 1000000
  let year := day / 10000
  1970 ≤ year && Calendar.isDay year (day / 100 % 100) (day % 100) &&
    Calendar.isMinute (n / 10000 % 100) (n / 100 % 100) && n % 100 ≤ 59

/-- The instant that digits write. -/
def ofDigits? (n : Nat) : Option Instant := if isInstant n then some n else none

/-- A time of either form. Years of two digits lie between 1950 and 2049. -/
def instant? (e : Element) : Option Instant := do
  let n ← decimal? e.content.dropLast
  if e.content.getLast? ≠ some 0x5A then none
  else if e.tag = utcTimeTag ∧ e.content.length = 13 then
    ofDigits? (n + if n < 500000000000 then 20000000000000 else 19000000000000)
  else if e.tag = generalizedTimeTag ∧ e.content.length = 15 then ofDigits? n
  else none

/-- The instant at the front, and the rest. -/
def nextInstant? (octets : List UInt8) : Option (Instant × List UInt8) := do
  let (e, rest) ← element? octets
  return (← instant? e, rest)

end DirectoryLogin.Der
