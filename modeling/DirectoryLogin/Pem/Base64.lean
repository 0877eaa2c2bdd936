/-!
# Base64

Four symbols hold three octets. Padding may stand at the end only, and may be left out there. Blanks
are passed over. Symbols are taken in groups of eight, and padding in a full group is noticed when a
further symbol comes.
-/

namespace DirectoryLogin.Pem.Base64

/-- Why a text is no Base64. -/
inductive Fault where
  | invalidCharacter (octet : UInt8)
  /-- Padding before the end. -/
  | prematurePadding
  /-- An end that no octets have. -/
  | trailingPadding
  deriving DecidableEq

def Fault.message : Fault → String
  | .invalidCharacter octet => s!"InvalidCharacter({octet})"
  | .prematurePadding => "PrematurePadding"
  | .trailingPadding => "InvalidTrailingPadding"

/-- What one octet of the text stands for. -/
inductive Symbol where
  | digit (value : Nat)
  | padding
  | blank
  | invalid

def symbol (octet : UInt8) : Symbol :=
  let n := octet.toNat
  if 'A'.toNat ≤ n ∧ n ≤ 'Z'.toNat then .digit (n - 'A'.toNat)
  else if 'a'.toNat ≤ n ∧ n ≤ 'z'.toNat then .digit (n - 'a'.toNat + 26)
  else if '0'.toNat ≤ n ∧ n ≤ '9'.toNat then .digit (n - '0'.toNat + 52)
  else if n = '+'.toNat then .digit 62
  else if n = '/'.toNat then .digit 63
  else if n = '='.toNat then .padding
  else if (9 ≤ n ∧ n ≤ 13) ∨ n = 32 then .blank
  else .invalid

def symbols : List UInt8 → List (Option Nat) × Option UInt8
  | [] => ([], none)
  | octet :: rest =>
      match symbol octet with
      | .invalid => ([], some octet)
      | .blank => symbols rest
      | .digit n => let (found, last) := symbols rest; (some n :: found, last)
      | .padding => let (found, last) := symbols rest; (none :: found, last)

/-- The three octets of four digits. -/
def octets (a b c d : Nat) : List UInt8 :=
  let n := ((a * 64 + b) * 64 + c) * 64 + d
  [UInt8.ofNat (n / 65536), UInt8.ofNat (n / 256), UInt8.ofNat n]

/-- The octets of the last four symbols or fewer. -/
def lastOctets : List (Option Nat) → Except Fault (List UInt8)
  | [] => .ok []
  | [some a, some b] | [some a, some b, none, none] => .ok ((octets a b 0 0).take 1)
  | [some a, some b, some c] | [some a, some b, some c, none] => .ok ((octets a b c 0).take 2)
  | [some a, some b, some c, some d] => .ok (octets a b c d)
  | _ => .error .trailingPadding

def lastGroup : List (Option Nat) → Except Fault (List UInt8)
  | a :: b :: c :: d :: e :: rest =>
      match a, b, c, d with
      | some a, some b, some c, some d => (lastOctets (e :: rest)).map (octets a b c d ++ ·)
      | _, _, _, _ => .error .prematurePadding
  | group => lastOctets group

/-- The octets of a group of eight symbols that is not the last. -/
def fullGroup : List (Option Nat) → Except Fault (List UInt8)
  | [some a, some b, some c, some d, some e, some f, some g, some h] =>
      .ok (octets a b c d ++ octets e f g h)
  | _ => .error .prematurePadding

def ofSymbols (invalid : Option UInt8) : List (Option Nat) → Except Fault (List UInt8)
  | a :: b :: c :: d :: e :: f :: g :: h :: i :: rest =>
      match fullGroup [a, b, c, d, e, f, g, h] with
      | .error fault => .error fault
      | .ok front => (ofSymbols invalid (i :: rest)).map (front ++ ·)
  | group =>
      match invalid with
      | some octet => .error (.invalidCharacter octet)
      | none => lastGroup group

/-- The octets that a text stands for. -/
def decode (text : List UInt8) : Except Fault (List UInt8) :=
  let (found, invalid) := symbols text
  ofSymbols invalid found

end DirectoryLogin.Pem.Base64
