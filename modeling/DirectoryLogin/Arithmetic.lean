/-!
# Dates, numbers as octets, and powers

The days of the Gregorian calendar, numbers written by octets with the most significant one first,
and multiples and powers that are found by doubling, in as many steps as the factor or the exponent
has binary digits. Main statements: `natural_bigEndian` and `power_eq`.
-/

namespace DirectoryLogin.Calendar

/-! ## The calendar -/

/-- Years with a twenty-ninth of February. -/
def isLeap (year : Nat) : Bool := year % 4 == 0 && (year % 100 != 0 || year % 400 == 0)

def daysIn (year month : Nat) : Nat :=
  if month = 2 then (if isLeap year then 29 else 28)
  else if month = 4 ∨ month = 6 ∨ month = 9 ∨ month = 11 then 30
  else 31

def isDay (year month day : Nat) : Bool :=
  1 ≤ month && month ≤ 12 && 1 ≤ day && day ≤ daysIn year month

def isMinute (hour minute : Nat) : Bool := hour ≤ 23 && minute ≤ 59

end DirectoryLogin.Calendar

namespace DirectoryLogin.Octets

/-! ## Numbers as octets -/

/-- The number written by octets. -/
def natural (octets : List UInt8) : Nat := octets.foldl (fun acc octet => acc * 256 + octet.toNat) 0

/-- The `size` last octets of a number. -/
def bigEndian : Nat → Nat → List UInt8
  | 0, _ => []
  | size + 1, n => bigEndian size (n / 256) ++ [UInt8.ofNat n]

theorem natural_append_singleton (octets : List UInt8) (octet : UInt8) :
    natural (octets ++ [octet]) = natural octets * 256 + octet.toNat := by
  simp [natural]

@[simp] theorem length_bigEndian (size n : Nat) : (bigEndian size n).length = size := by
  induction size generalizing n with
  | zero => rfl
  | succ size ih => simp [bigEndian, ih]

theorem natural_bigEndian (size n : Nat) : natural (bigEndian size n) = n % Nat.pow 256 size := by
  change _ = n % 256 ^ size
  induction size generalizing n with
  | zero => simp [bigEndian, natural, Nat.mod_one]
  | succ size ih =>
      rw [bigEndian, natural_append_singleton, ih, Nat.pow_succ, Nat.mul_comm (256 ^ size),
        Nat.mod_mul]
      simp only [UInt8.toNat_ofNat']
      omega

end DirectoryLogin.Octets

namespace DirectoryLogin.Modular

/-! ## Powers and inverses modulo a number -/

/-- The `n`-fold sum of `a`, by doubling. -/
def multiple {α : Type} (add : α → α → α) (zero : α) (n : Nat) (a : α) : α :=
  if n = 0 then zero
  else
    let half := multiple add zero (n / 2) a
    let twice := add half half
    if n % 2 = 1 then add twice a else twice
  termination_by n

def power (m base exponent : Nat) : Nat :=
  multiple (fun x y => x * y % m) (1 % m) exponent base

theorem power_eq (m base exponent : Nat) : power m base exponent = Nat.pow base exponent % m := by
  change _ = base ^ exponent % m
  induction exponent using Nat.strongRecOn with
  | ind e ih =>
      rw [power, multiple]
      split
      · next h => simp [h]
      · next h =>
          have half : multiple (fun x y => x * y % m) (1 % m) (e / 2) base =
              base ^ (e / 2) % m := ih (e / 2) (by omega)
          have twice : base ^ (e / 2) % m * (base ^ (e / 2) % m) % m =
              base ^ (2 * (e / 2)) % m := by
            rw [← Nat.mul_mod, ← Nat.pow_add, Nat.two_mul]
          simp only [half, twice]
          split
          · next odd =>
              have step : e = 2 * (e / 2) + 1 := by omega
              rw [Nat.mod_mul_mod, ← Nat.pow_succ, Nat.succ_eq_add_one, ← step]
          · next even =>
              have step : e = 2 * (e / 2) := by omega
              rw [← step]

/-- The inverse of a number modulo a prime. -/
def inverse (prime n : Nat) : Nat := power prime n (prime - 2)

end DirectoryLogin.Modular
