import DirectoryLogin.Curve
import DirectoryLogin.Der.Element
import DirectoryLogin.Pem.Section

/-!
# Public and private keys

A private key is usable if it is an RSA key, a key on one of two elliptic curves, or a seed of the
signing curve in Edwards form, and if its parts belong together. Its public key is what a
certificate has to certify. An RSA modulus has one of the usual lengths up to 4096 bits; primes are
not tested for being prime.
-/

namespace DirectoryLogin.Der

/-! ## Public keys -/

/-- The curves on which keys are usable. -/
inductive NamedCurve where
  | p256
  | p384
  deriving DecidableEq

namespace NamedCurve

def all : List NamedCurve := [.p256, .p384]

def identifier : NamedCurve → List UInt8
  | .p256 => octets identifierTag [0x2A, 0x86, 0x48, 0xCE, 0x3D, 0x03, 0x01, 0x07]
  | .p384 => octets identifierTag [0x2B, 0x81, 0x04, 0x00, 0x22]

def size : NamedCurve → Nat
  | .p256 => 32
  | .p384 => 48

def curve : NamedCurve → Curve.Weierstrass
  | .p256 => .p256
  | .p384 => .p384

end NamedCurve

inductive PublicKey where
  | rsa (modulus exponent : Nat)
  | curve (named : NamedCurve) (point : Nat × Nat)
  /-- A point of the curve in Edwards form, by its octets. -/
  | edwards (point : List UInt8)
  deriving DecidableEq

def rsaAlgorithm : List UInt8 :=
  octets identifierTag [0x2A, 0x86, 0x48, 0x86, 0xF7, 0x0D, 0x01, 0x01, 0x01] ++ octets nullTag []

def NamedCurve.algorithm (named : NamedCurve) : List UInt8 :=
  octets identifierTag [0x2A, 0x86, 0x48, 0xCE, 0x3D, 0x02, 0x01] ++ named.identifier

def edwardsAlgorithm : List UInt8 := octets identifierTag [0x2B, 0x65, 0x70]

namespace PublicKey

def algorithm : PublicKey → List UInt8
  | .rsa _ _ => rsaAlgorithm
  | .curve named _ => named.algorithm
  | .edwards _ => edwardsAlgorithm

def keyOctets : PublicKey → List UInt8
  | .rsa modulus exponent =>
      octets sequenceTag (integerOctets modulus ++ integerOctets exponent)
  | .curve named point =>
      0x04 :: Octets.bigEndian named.size point.1 ++ Octets.bigEndian named.size point.2
  | .edwards point => point

/-- The certified form of a key. -/
def certified (key : PublicKey) : List UInt8 :=
  octets sequenceTag key.algorithm ++ octets bitStringTag (0 :: key.keyOctets)

def readRsa? (key : List UInt8) : Option PublicKey := do
  let (modulus, rest) ← natural? (← only? sequenceTag key)
  let (exponent, rest) ← natural? rest
  if rest.isEmpty then some (.rsa modulus exponent) else none

/-- Reads a point that lies on a curve. -/
def readPoint? (named : NamedCurve) (key : List UInt8) : Option PublicKey :=
  let numbers := key.tail
  let point :=
    (Octets.natural (numbers.take named.size), Octets.natural (numbers.drop named.size))
  if key.head? = some 0x04 ∧ numbers.length = 2 * named.size ∧ named.curve.contains point then
    some (.curve named point)
  else none

def read? (certified : List UInt8) : Option PublicKey := do
  let (algorithm, rest) ← expect? sequenceTag certified
  let key ← bitString? (← only? bitStringTag rest)
  if algorithm = rsaAlgorithm then readRsa? key
  else if algorithm = edwardsAlgorithm then some (.edwards key)
  else readPoint? (← NamedCurve.all.find? (·.algorithm == algorithm)) key

end PublicKey

/-! ## RSA keys -/

/-- The numbers of an RSA key. -/
structure RsaKey where
  modulus : Nat
  publicExponent : Nat
  privateExponent : Nat
  p : Nat
  q : Nat
  /-- The private exponent modulo `p - 1`. -/
  exponentOfP : Nat
  /-- The private exponent modulo `q - 1`. -/
  exponentOfQ : Nat
  /-- The inverse of `q` modulo `p`. -/
  inverse : Nat
  deriving DecidableEq

def bits (n : Nat) : Nat := if n = 0 then 0 else n.log2 + 1

def isOdd (n : Nat) : Bool := n % 2 == 1

/-- The modulus fills 2048 bits or more, up to a last octet, and is odd. The exponent is odd, too,
and not larger than any that is in use. -/
def isRsaSize (most modulus least exponent : Nat) : Bool :=
  2048 ≤ (bits modulus + 7) / 8 * 8 && bits modulus ≤ most && isOdd modulus &&
    least ≤ exponent && exponent < 1 <<< 33 && isOdd exponent

namespace RsaKey

def read? (octets : List UInt8) : Option RsaKey := do
  let (version, rest) ← natural? (← only? sequenceTag octets)
  let (modulus, rest) ← natural? rest
  let (publicExponent, rest) ← natural? rest
  let (privateExponent, rest) ← natural? rest
  let (p, rest) ← natural? rest
  let (q, rest) ← natural? rest
  let (exponentOfP, rest) ← natural? rest
  let (exponentOfQ, rest) ← natural? rest
  let (inverse, rest) ← natural? rest
  if version = 0 ∧ rest.isEmpty then
    some { modulus, publicExponent, privateExponent, p, q, exponentOfP, exponentOfQ, inverse }
  else none

def half (key : RsaKey) : Nat := (bits key.modulus + 1) / 2

/-- A number that may be one of the primes, with its exponent. -/
def mayBePrime (key : RsaKey) (prime exponent : Nat) : Bool :=
  bits prime == key.half && key.half % 512 == 0 && isOdd prime && prime < key.modulus &&
    exponent < prime && isOdd exponent

/-- The private exponent is odd and longer than the primes. -/
def hasPrivateExponent (key : RsaKey) : Bool :=
  key.half < bits key.privateExponent && key.privateExponent < key.modulus &&
    isOdd key.privateExponent

/-- The inverse belongs to the primes. If the second prime is the larger one, the inverse is not
used, but the first prime has to have one. -/
def hasInverse (key : RsaKey) : Bool :=
  if key.q < key.p then key.inverse < key.p && key.q * key.inverse % key.p == 1
  else key.p * Modular.inverse key.q key.p % key.q == 1

def isUsable (key : RsaKey) : Bool :=
  isRsaSize 4096 key.modulus 65537 key.publicExponent && key.mayBePrime key.p key.exponentOfP &&
    key.mayBePrime key.q key.exponentOfQ && key.p * key.q % key.modulus == 0 &&
    key.hasPrivateExponent && key.hasInverse

def publicKey (key : RsaKey) : PublicKey := .rsa key.modulus key.publicExponent

end RsaKey

/-! ## Private keys -/

/-- The tag of a bit string under the number of a public key. -/
def publicKeyTag : UInt8 := 0x81

def rsaPublicKey? (key : List UInt8) : Option PublicKey := do
  let key ← RsaKey.read? key
  if key.isUsable then some key.publicKey else none

/-- The public key of a key on a curve: it has to carry the point that belongs to its secret
number. -/
def curvePublicKey? (named : NamedCurve) (key : List UInt8) : Option PublicKey := do
  let (version, rest) ← natural? (← only? sequenceTag key)
  let (secret, rest) ← expect? octetStringTag rest
  let (parameters, rest) ← optional? (contextTag 0) rest
  let wrapped ← only? (contextTag 1) rest
  let carried ← bitString? (← only? bitStringTag wrapped)
  if version = 1 ∧ secret.length = named.size ∧
      parameters.getD named.identifier = named.identifier then
    let found := PublicKey.curve named (← named.curve.publicPoint? (Octets.natural secret))
    if carried = found.keyOctets then some found else none
  else none

structure WrappedKey where
  algorithm : List UInt8
  key : List UInt8
  /-- The public key that wrapped keys of the second version carry. -/
  carried? : Option (List UInt8)
  deriving DecidableEq

namespace WrappedKey

def readCarried? (rest : List UInt8) : Option (List UInt8) := do
  if rest.head? = some (contextTag 1) then
    bitString? (← only? bitStringTag (← only? (contextTag 1) rest))
  else bitString? (← only? publicKeyTag rest)

/-- Reads a wrapped key. Further attributes of it are passed over. -/
def read? (octets : List UInt8) : Option WrappedKey := do
  let (version, rest) ← natural? (← only? sequenceTag octets)
  let (algorithm, rest) ← expect? sequenceTag rest
  let (key, rest) ← expect? octetStringTag rest
  let (_, rest) ← optional? (contextTag 0) rest
  match version with
  | 0 => if rest.isEmpty then some ⟨algorithm, key, none⟩ else none
  | 1 => (readCarried? rest).map fun carried => ⟨algorithm, key, some carried⟩
  | _ => none

def edwardsPublicKey? (wrapped : WrappedKey) : Option PublicKey := do
  let seed ← only? octetStringTag wrapped.key
  let point := Curve.Edwards.publicKey seed
  if seed.length = 32 ∧ wrapped.carried?.getD point = point then some (.edwards point) else none

/-- The public key of a wrapped key, according to its algorithm. Only seeds may carry it beside the
key. -/
def publicKey? (wrapped : WrappedKey) : Option PublicKey :=
  if wrapped.algorithm = edwardsAlgorithm then wrapped.edwardsPublicKey?
  else if wrapped.carried?.isSome then none
  else if wrapped.algorithm = rsaAlgorithm then rsaPublicKey? wrapped.key
  else do
    let named ← NamedCurve.all.find? (·.algorithm == wrapped.algorithm)
    curvePublicKey? named wrapped.key

end WrappedKey

/-- The public key of a usable private key. -/
def publicKey? (item : Pem.Item) : Option PublicKey :=
  match item.kind with
  | .rsaKey => rsaPublicKey? item.octets
  | .pkcs8Key => (WrappedKey.read? item.octets).bind (·.publicKey?)
  | .ecKey => NamedCurve.all.findSome? fun named => curvePublicKey? named item.octets
  | _ => none

end DirectoryLogin.Der
