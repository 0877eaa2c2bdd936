import DirectoryLogin.Der.Element

/-!
# Certificates

What an X.509 certificate states: whose it is, who issued it, when it is valid, which key it
certifies and what its extensions say. Certificates are of the third version; an authority may also
show one of the first.
-/

namespace DirectoryLogin.Der

/-- Why an encoding is no certificate that can be used. -/
inductive CertificateFault where
  /-- An element is malformed, missing or superfluous. -/
  | encoding
  /-- The certificate is not of the third version. -/
  | version
  /-- It does not name the algorithm that it is signed by. -/
  | algorithm
  /-- An extension stands in it twice. -/
  | repeatedExtension
  /-- An unknown extension may not be passed over. -/
  | criticalExtension
  deriving DecidableEq

def CertificateFault.name : CertificateFault → String
  | .encoding => "BadEncoding"
  | .version => "Other(OtherError(UnsupportedCertVersion))"
  | .algorithm => "Other(OtherError(SignatureAlgorithmMismatch))"
  | .repeatedExtension => "Other(OtherError(ExtensionValueInvalid))"
  | .criticalExtension => "Other(OtherError(UnsupportedCriticalExtension))"

def CertificateFault.message (fault : CertificateFault) : String :=
  "invalid peer certificate: " ++ fault.name

def demand {α : Type} (found : Option α) : Except CertificateFault α :=
  found.elim (.error .encoding) .ok

/-- What becomes of unknown extensions that say that they may not be passed over. -/
inductive Critical where
  | refused
  | ignored
  deriving DecidableEq

/-- The extensions of a certificate that matter, by the last number of their identifiers. -/
abbrev Extensions := List (UInt8 × List UInt8)

namespace Extensions

/-- The use of the certified key. -/
def keyUse : UInt8 := 15

/-- Further names of the subject. -/
def otherNames : UInt8 := 17

/-- Whether the subject may issue certificates. -/
def constraints : UInt8 := 19

/-- Constraints on the names of those for whom the subject vouches. -/
def nameConstraints : UInt8 := 30

/-- What the key is for. -/
def purposes : UInt8 := 37

/-- The numbers of the extensions that matter: these, and that of lists of revoked certificates. -/
def known : List UInt8 := [keyUse, otherNames, constraints, nameConstraints, 31, purposes]

/-- Adds an extension. The use of the key is kept as it is, and every other value is a sequence of
which the content is kept. -/
def add (kept : Extensions) (number : UInt8) (value : List UInt8) :
    Except CertificateFault Extensions :=
  if (kept.lookup number).isSome then .error .repeatedExtension
  else if number = keyUse then .ok (kept ++ [(number, value)])
  else do return kept ++ [(number, ← demand (only? sequenceTag value))]

def addKnown (critical : Critical) (kept : Extensions) (identifier : List UInt8)
    (isCritical : Bool) (value : List UInt8) : Except CertificateFault Extensions :=
  match known.find? fun number => identifier == [0x55, 0x1D, number] with
  | some number => kept.add number value
  | none => if isCritical ∧ critical = .refused then .error .criticalExtension else .ok kept

def flag? (octets : List UInt8) : Option (Bool × List UInt8) := do
  match ← optional? booleanTag octets with
  | (none, rest) | (some [0x00], rest) => some (false, rest)
  | (some [0xFF], rest) => some (true, rest)
  | _ => none

/-- Reads an extension: its identifier, whether it is critical, and its value. -/
def addElement (critical : Critical) (kept : Extensions) (content : List UInt8) :
    Except CertificateFault Extensions := do
  let (identifier, rest) ← demand (expect? identifierTag content)
  let (isCritical, rest) ← demand (flag? rest)
  let (value, rest) ← demand (expect? octetStringTag rest)
  let kept ← kept.addKnown critical identifier isCritical value
  if rest.isEmpty then .ok kept else .error .encoding

def addAll (critical : Critical) (kept : Extensions) :
    Nat → List UInt8 → Except CertificateFault Extensions
  | _, [] => .ok kept
  | 0, _ => .error .encoding
  | fuel + 1, octets => do
      let (content, rest) ← demand (expect? sequenceTag octets)
      let kept ← kept.addElement critical content
      addAll critical kept fuel rest

/-- Reads what follows the key of a certificate: nothing, or a list of extensions. An element takes
an octet at least, so the fuel suffices. -/
def read (critical : Critical) (octets : List UInt8) : Except CertificateFault Extensions :=
  if octets.isEmpty then .ok []
  else do
    let (wrapped, after) ← demand (expect? (contextTag 3) octets)
    let (items, rest) ← demand (expect? sequenceTag wrapped)
    let kept ← addAll critical [] items.length items
    if rest.isEmpty ∧ after.isEmpty then .ok kept else .error .encoding

end Extensions

/-- What a certificate states. Names and keys are kept in their encoded form. -/
structure Certificate where
  issuer : List UInt8
  subject : List UInt8
  validity : List UInt8
  /-- The certified key with its algorithm. -/
  publicKey : List UInt8
  extensions : Extensions := []
  /-- All of this in its encoded form, which is what is signed. -/
  statement : List UInt8
  /-- How it is signed. -/
  algorithm : List UInt8
  signature : List UInt8
  deriving DecidableEq

/-- The statement, the algorithm and the signature of a certificate of any version. -/
def signed? (octets : List UInt8) : Option (List UInt8 × List UInt8 × List UInt8) := do
  let whole ← only? sequenceTag octets
  let (body, rest) ← expect? sequenceTag whole
  let (algorithm, rest) ← expect? sequenceTag rest
  return (body, algorithm, ← only? bitStringTag rest)

/-- Passes over the number of the third version. -/
def afterVersion (body : List UInt8) : Except CertificateFault (List UInt8) :=
  match expect? (contextTag 0) body with
  | none => .error .version
  | some (content, rest) =>
      match natural? content with
      | none => .error .encoding
      | some (n, after) =>
          if 256 ≤ n then .error .encoding
          else if n = 2 ∧ after.isEmpty then .ok rest
          else .error .version

namespace Certificate

/-- Reads a certificate of the third version. -/
def read (critical : Critical) (encoded : List UInt8) :
    Except CertificateFault Certificate := do
  let (body, algorithm, signature) ← demand (signed? encoded)
  let signature ← demand (bitString? signature)
  let statement := octets sequenceTag body
  let body ← afterVersion body
  let (_, body) ← demand (expect? integerTag body)
  let (named, body) ← demand (expect? sequenceTag body)
  if named ≠ algorithm then throw .algorithm
  let (issuer, body) ← demand (expect? sequenceTag body)
  let (validity, body) ← demand (expect? sequenceTag body)
  let (subject, body) ← demand (expect? sequenceTag body)
  let (publicKey, body) ← demand (expect? sequenceTag body)
  let extensions ← Extensions.read critical body
  return { issuer, subject, validity, publicKey, extensions, statement, algorithm, signature }

end Certificate

def Certificate.nameConstraints (c : Certificate) : Option (List UInt8) :=
  c.extensions.lookup Extensions.nameConstraints

/-- Who vouches for others, with the key by which that is checked and with constraints on the names
of those others, all in their encoded form. -/
structure Authority where
  subject : List UInt8
  publicKey : List UInt8
  nameConstraints : Option (List UInt8) := none
  deriving DecidableEq

namespace Authority

/-- Reads the certificate of an authority of the first version, which has neither a number of its
version nor extensions. -/
def ofFirstVersion? (octets : List UInt8) : Option Authority := do
  let (body, _, _) ← signed? octets
  let (_, body) ← expect? integerTag body
  let (_, body) ← expect? sequenceTag body
  let (_, body) ← expect? sequenceTag body
  let (_, body) ← expect? sequenceTag body
  let (subject, body) ← expect? sequenceTag body
  let publicKey ← only? sequenceTag body
  return { subject, publicKey }

/-- Reads the certificate of an authority, which may have any extensions. -/
def read (octets : List UInt8) : Except CertificateFault Authority :=
  match Certificate.read .ignored octets with
  | .ok c => .ok ⟨c.subject, c.publicKey, c.nameConstraints⟩
  | .error .version => demand (ofFirstVersion? octets)
  | .error fault => .error fault

end Authority

end DirectoryLogin.Der
