import DirectoryLogin.Arithmetic
import DirectoryLogin.Digest.Sha2

/-!
# Elliptic curves

The curves `y² = x³ + a·x + b` over a prime field on which signing keys live, and the signing curve
in Edwards form, `y² - x² = 1 + d·x²·y²` over the field of `2²⁵⁵ - 19` elements. On each, one
formula adds any two points.
-/

namespace DirectoryLogin.Curve

/-! ## Curves in short form -/

/-- A curve with a point that generates it. -/
structure Weierstrass where
  prime : Nat
  a : Int
  b : Int
  /-- The generating point, in the plane. -/
  base : Nat × Nat
  /-- The number of points. -/
  order : Nat

/-- A point by three coordinates. -/
structure Point where
  x : Int
  y : Int
  z : Int
  deriving DecidableEq

namespace Weierstrass

def add (curve : Weierstrass) (p q : Point) : Point :=
  let xx := p.x * q.x
  let yy := p.y * q.y
  let zz := p.z * q.z
  let xy := p.x * q.y + q.x * p.y
  let yz := p.y * q.z + q.y * p.z
  let xz := p.x * q.z + q.x * p.z
  let u := curve.a * xz + 3 * curve.b * zz
  let v := curve.a * xx + 3 * curve.b * xz - curve.a * curve.a * zz
  let w := 3 * xx + curve.a * zz
  ⟨(xy * (yy - u) - yz * v) % curve.prime, ((yy + u) * (yy - u) + w * v) % curve.prime,
    (yz * (yy + u) + xy * w) % curve.prime⟩

def neutral : Point := ⟨0, 1, 0⟩

def multiple (curve : Weierstrass) (n : Nat) (point : Nat × Nat) : Point :=
  Modular.multiple curve.add neutral n ⟨point.1, point.2, 1⟩

/-- The point in the plane, if it is not the neutral one. -/
def plane? (curve : Weierstrass) (p : Point) : Option (Nat × Nat) :=
  if p.z = 0 then none
  else
    let scale := Modular.inverse curve.prime p.z.toNat
    some (p.x.toNat * scale % curve.prime, p.y.toNat * scale % curve.prime)

def contains (curve : Weierstrass) (point : Nat × Nat) : Bool :=
  let x : Int := point.1
  let y : Int := point.2
  point.1 < curve.prime && point.2 < curve.prime &&
    (y * y - (x * x * x + curve.a * x + curve.b)) % curve.prime == 0

/-- Secret numbers and the parts of signatures are positive and below the order. -/
def isScalar (curve : Weierstrass) (n : Nat) : Bool := 0 < n && n < curve.order

/-- The point that belongs to a secret number. -/
def publicPoint? (curve : Weierstrass) (secret : Nat) : Option (Nat × Nat) :=
  if curve.isScalar secret then curve.plane? (curve.multiple secret curve.base) else none

/-- The numbers `r` and `s` sign a digest by the secret number of a point. -/
def verifies (curve : Weierstrass) (point : Nat × Nat) (digest r s : Nat) : Bool :=
  curve.isScalar r && curve.isScalar s &&
    let inverse := Modular.inverse curve.order s
    let sum := curve.add (curve.multiple (digest * inverse % curve.order) curve.base)
      (curve.multiple (r * inverse % curve.order) point)
    (curve.plane? sum).any fun (x, _) => x % curve.order == r

def p256 : Weierstrass where
  prime := 0xffffffff00000001000000000000000000000000ffffffffffffffffffffffff
  a := -3
  b := 0x5ac635d8aa3a93e7b3ebbd55769886bc651d06b0cc53b0f63bce3c3e27d2604b
  base := (0x6b17d1f2e12c4247f8bce6e563a440f277037d812deb33a0f4a13945d898c296,
    0x4fe342e2fe1a7f9b8ee7eb4a7c0f9e162bce33576b315ececbb6406837bf51f5)
  order := 0xffffffff00000000ffffffffffffffffbce6faada7179e84f3b9cac2fc632551

def p384 : Weierstrass where
  prime :=
    0xffffffffffffffffffffffffffffffffffffffffffffffff <<< 192 +
      0xfffffffffffffffeffffffff0000000000000000ffffffff
  a := -3
  b :=
    0xb3312fa7e23ee7e4988e056be3f82d19181d9c6efe814112 <<< 192 +
      0x0314088f5013875ac656398d8a2ed19d2a85c8edd3ec2aef
  base :=
    (0xaa87ca22be8b05378eb1c71ef320ad746e1d3b628ba79b98 <<< 192 +
      0x59f741e082542a385502f25dbf55296c3a545e3872760ab7,
     0x3617de4a96262c6f5d9e98bf9292dc29f8f41dbd289a147c <<< 192 +
      0xe9da3113b5f0b8c00a60b1ce1d7e819d7a431d7c90ea0e5f)
  order :=
    0xffffffffffffffffffffffffffffffffffffffffffffffff <<< 192 +
      0xc7634d81f4372ddf581a0db248b0a77aecec196accc52973

end Weierstrass

end DirectoryLogin.Curve

namespace DirectoryLogin.Curve.Edwards

/-! ## The signing curve in Edwards form -/

/-- The size of the field. -/
def prime : Nat := 1 <<< 255 - 19

def d : Int := 0x52036cee2b6ffe738cc740797779e89800700a4d4141d8ab75eb4dca135978a3

def base : Point where
  x := 0x216936d3cd6e53fec0a4e231fdd6dc5c692cc7609525a7b2c9562d608f25d51a
  y := 0x6666666666666666666666666666666666666666666666666666666666666658
  z := 1

def neutral : Point := ⟨0, 1, 1⟩

def add (p q : Point) : Point :=
  let zz := p.z * q.z % prime
  let xx := p.x * q.x % prime
  let yy := p.y * q.y % prime
  let mixed := d * xx * yy % prime
  let square := zz * zz
  let cross := (p.x + p.y) * (q.x + q.y) - xx - yy
  ⟨zz * (square - mixed) % prime * cross % prime, zz * (square + mixed) % prime * (yy + xx) % prime,
    (square - mixed) * (square + mixed) % prime⟩

/-- The secret number of a seed: half of its digest, read from the last octet on, as a multiple of
eight with its highest bit set. -/
def secret (seed : List UInt8) : Nat :=
  let half := (Digest.sha512.digest seed).take 32
  1 <<< 254 + Octets.natural half.reverse % 1 <<< 254 / 8 * 8

def encode (p : Point) : List UInt8 :=
  let scale := Modular.inverse prime p.z.toNat
  let x := p.x.toNat * scale % prime
  let y := p.y.toNat * scale % prime
  (Octets.bigEndian 32 ((x % 2) <<< 255 + y)).reverse

/-- The point with these octets. A square root is found by one power, up to a factor whose square is
`-1`. -/
def decode? (octets : List UInt8) : Option Point :=
  let n := Octets.natural octets.reverse
  let y := n % 1 <<< 255
  let top := (y * y + (prime - 1)) % prime
  let bottom := (d.toNat * y * y + 1) % prime
  let square := top * Modular.inverse prime bottom % prime
  let first := Modular.power prime square ((prime + 3) / 8)
  let factor := Modular.power prime 2 ((prime - 1) / 4)
  let root := if first * first % prime = square then first else first * factor % prime
  let x := if root % 2 = n >>> 255 then root else prime - root
  if octets.length = 32 ∧ root * root % prime = square then some ⟨x, y, 1⟩ else none

def order : Nat := 1 <<< 252 + 0x14def9dea2f79cd65812631a5cf5d3ed

def publicKey (seed : List UInt8) : List UInt8 :=
  encode (Modular.multiple add neutral (secret seed) base)

/-- The octets sign a message by the seed of a public key. -/
def verifies (key message signature : List UInt8) : Bool :=
  let first := signature.take 32
  let s := Octets.natural (signature.drop 32).reverse
  signature.length == 64 && s < order &&
    (decode? key).any fun point =>
      let n := Octets.natural (Digest.sha512.digest (first ++ key ++ message)).reverse % order
      let sum := add (Modular.multiple add neutral s base)
        (Modular.multiple add neutral n ⟨-point.x, point.y, point.z⟩)
      encode sum == first

end DirectoryLogin.Curve.Edwards
