import DirectoryLogin.Der.Element
import DirectoryLogin.Der.Key
import DirectoryLogin.Digest.Sha2

/-!
# Signatures of certificates

The ways in which certificates are signed, and whether a public key verifies a signature. The power
of an RSA signature holds a digest of the message: it stands behind its name and a fixed padding, or
it is mixed with a salt and hides the padding.
-/

namespace DirectoryLogin.Der

/-! ## Named digests -/

inductive Hash where
  | sha256
  | sha384
  | sha512
  deriving DecidableEq

namespace Hash

def digest : Hash → List UInt8 → List UInt8
  | .sha256 => Digest.sha256.digest
  | .sha384 => Digest.sha384.digest
  | .sha512 => Digest.sha512.digest

def size : Hash → Nat
  | .sha256 => Digest.sha256.size
  | .sha384 => Digest.sha384.size
  | .sha512 => Digest.sha512.size

def number : Hash → UInt8
  | .sha256 => 1
  | .sha384 => 2
  | .sha512 => 3

/-- The identifier of a digest, followed by an element that says nothing. -/
def algorithm (hash : Hash) : List UInt8 :=
  let identifier := [0x60, 0x86, 0x48, 0x01, 0x65, 0x03, 0x04, 0x02, hash.number]
  octets sequenceTag (octets identifierTag identifier ++ octets nullTag [])

/-- Octets that hide others: the digests of a seed with the numbers from zero on. -/
def mask (hash : Hash) (seed : List UInt8) (length : Nat) : List UInt8 :=
  let count := (length + hash.size - 1) / hash.size
  ((List.range count).flatMap fun i => hash.digest (seed ++ Octets.bigEndian 4 i)).take length

end Hash

/-! ## RSA signatures -/

/-- How a digest stands in the power of a signature. -/
inductive Padding where
  | fixed
  | salted
  deriving DecidableEq

/-- A digest behind its name and a padding that fills `size` octets. -/
def fixedBlock (hash : Hash) (message : List UInt8) (size : Nat) : List UInt8 :=
  let marked := octets sequenceTag (hash.algorithm ++ octets octetStringTag (hash.digest message))
  [0x00, 0x01] ++ List.replicate (size - marked.length - 3) 0xFF ++ 0x00 :: marked

/-- The block, which holds a number of binary digits, consists of a hidden padding with a salt, the
digest of both the message and the salt, and a mark. The salt is as long as a digest. -/
def isSaltedBlock (hash : Hash) (message : List UInt8) (digits : Nat) (block : List UInt8) : Bool :=
  let size := block.length - hash.size - 1
  let (hidden, rest) := block.splitAt size
  let (found, mark) := rest.splitAt hash.size
  let shown := List.zipWith (· ^^^ ·) hidden (hash.mask found size)
  let padding := Octets.natural (shown.take (size - hash.size))
  let salt := shown.drop (size - hash.size)
  let digest := hash.digest (List.replicate 8 0x00 ++ hash.digest message ++ salt)
  2 * hash.size + 2 ≤ block.length && mark == [0xBC] && digest == found &&
    padding % 1 <<< (digits - 8 * (2 * hash.size + 1)) == 1

/-- Verifies an RSA signature. A salted block holds a binary digit less than the modulus. -/
def verifiesRsa (padding : Padding) (modulus exponent : Nat) (hash : Hash)
    (message signature : List UInt8) : Bool :=
  let size := (bits modulus + 7) / 8
  let n := Octets.natural signature
  let power := Modular.power modulus n exponent
  let holds := match padding with
    | .fixed => Octets.bigEndian size power == fixedBlock hash message size
    | .salted =>
        let digits := bits modulus - 1
        let block := Octets.bigEndian ((digits + 7) / 8) power
        power < 1 <<< digits && isSaltedBlock hash message digits block
  isRsaSize 8192 modulus 3 exponent && signature.length == size && n < modulus && holds

/-! ## Schemes -/

inductive SignatureScheme where
  | curve (hash : Hash)
  | rsa (padding : Padding) (hash : Hash)
  | edwards
  deriving DecidableEq

namespace SignatureScheme

def rsaIdentifier (number : UInt8) : List UInt8 :=
  octets identifierTag [0x2A, 0x86, 0x48, 0x86, 0xF7, 0x0D, 0x01, 0x01, number]

def curveIdentifier (number : UInt8) : List UInt8 :=
  octets identifierTag [0x2A, 0x86, 0x48, 0xCE, 0x3D, 0x04, 0x03, number]

/-- The parameters of a salted scheme: the digest, the same one for the mask, and the length of the
salt. -/
def saltedParameters (hash : Hash) : List UInt8 :=
  octets sequenceTag
    (octets (contextTag 0) hash.algorithm ++
      octets (contextTag 1) (octets sequenceTag (rsaIdentifier 0x08 ++ hash.algorithm)) ++
      octets (contextTag 2) (integerOctets hash.size))

/-- The algorithms of RSA signatures. If the padding is fixed, an element that says nothing may
follow the identifier. -/
def rsaAlgorithms (hash : Hash) : List (List UInt8 × SignatureScheme) :=
  let identifier := rsaIdentifier (hash.number + 0x0A)
  [(identifier, .rsa .fixed hash), (identifier ++ octets nullTag [], .rsa .fixed hash),
   (rsaIdentifier 0x0A ++ saltedParameters hash, .rsa .salted hash)]

/-- The algorithms by which certificates may be signed, with their schemes. -/
def all : List (List UInt8 × SignatureScheme) :=
  [(curveIdentifier 0x02, .curve .sha256), (curveIdentifier 0x03, .curve .sha384),
   (edwardsAlgorithm, .edwards)] ++
    [Hash.sha256, Hash.sha384, Hash.sha512].flatMap rsaAlgorithms

def ofAlgorithm? (algorithm : List UInt8) : Option SignatureScheme := all.lookup algorithm

end SignatureScheme

def curveNumbers? (signature : List UInt8) : Option (Nat × Nat) := do
  let (r, rest) ← natural? (← only? sequenceTag signature)
  let (s, rest) ← natural? rest
  if rest.isEmpty then some (r, s) else none

/-- Verifies a signature on a curve. Of a digest too long for the curve, the front counts. -/
def verifiesCurve (named : NamedCurve) (point : Nat × Nat) (hash : Hash)
    (message signature : List UInt8) : Bool :=
  let digest := Octets.natural ((hash.digest message).take named.size)
  (curveNumbers? signature).any fun (r, s) => named.curve.verifies point digest r s

def PublicKey.verifies (key : PublicKey) (scheme : SignatureScheme)
    (message signature : List UInt8) : Bool :=
  match scheme, key with
  | .rsa padding hash, .rsa modulus exponent =>
      verifiesRsa padding modulus exponent hash message signature
  | .curve hash, .curve named point => verifiesCurve named point hash message signature
  | .edwards, .edwards point => Curve.Edwards.verifies point message signature
  | _, _ => false

end DirectoryLogin.Der
