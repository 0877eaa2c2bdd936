import DirectoryLogin.Der.Element
import DirectoryLogin.Der.Names
import DirectoryLogin.Der.Signature
import DirectoryLogin.Transport.Material

/-!
# Trust in servers

A client that verifies accepts a server's certificate if a chain of signatures leads from it to one
of the authorities, directly or by way of the other certificates that the server shows, and if it
names the address that was dialled. Every certificate of the chain has to be valid at the time and
fit its place: the first must not be an authority, and the others have to be. The names in a chain
satisfy the constraints of all who vouch for them.
-/

namespace DirectoryLogin.Wire

open Der (Authority Certificate CertificateFault Extensions Instant NameConstraints NameFault)
open Transport (Material)

/-- Why a server is not trusted. -/
inductive Distrust where
  | malformed (fault : CertificateFault)
  | unknownIssuer
  | badSignature
  | endBeforeStart
  | notYetValid
  | expired
  /-- An authority shows its certificate as that of a server. -/
  | authority
  /-- A certificate that is none of an authority stands in the place of one. -/
  | noAuthority
  /-- There are more authorities below one than it allows. -/
  | longChain
  /-- The key is for nothing. -/
  | noPurpose
  /-- The key is not for servers. -/
  | otherPurpose
  /-- Names do not satisfy the constraints of an authority. -/
  | names (fault : NameFault)
  /-- The certificate names other servers. -/
  | otherName
  deriving DecidableEq

def Distrust.name : Distrust → String
  | .malformed fault => fault.name
  | .unknownIssuer => "UnknownIssuer"
  | .badSignature => "BadSignature"
  | .notYetValid => "NotValidYet"
  | .endBeforeStart | .expired => "Expired"
  | .authority => "Other(OtherError(CaUsedAsEndEntity))"
  | .noAuthority => "Other(OtherError(EndEntityUsedAsCa))"
  | .longChain => "Other(OtherError(PathLenConstraintViolated))"
  | .noPurpose => "Other(OtherError(EmptyEkuExtension))"
  | .otherPurpose => "InvalidPurpose"
  | .names fault => fault.name
  | .otherName => "NotValidForName"

def Distrust.message (reason : Distrust) : String := "invalid peer certificate: " ++ reason.name

def demand {α : Type} (found : Option α) : Except Distrust α :=
  found.elim (.error (.malformed .encoding)) .ok

/-- The place of a certificate in a chain. -/
inductive Place where
  | server
  /-- With the number of authorities between this one and the server. -/
  | issuer (below : Nat)
  deriving DecidableEq

def Place.above : Place → Place
  | .server => .issuer 0
  | .issuer below => .issuer (below + 1)

/-- The certificate is valid at an instant: from the first one that it names to the second, both
included. -/
def checkValidity (now : Instant) (c : Certificate) : Except Distrust Unit := do
  let (first, rest) ← demand (Der.nextInstant? c.validity)
  let (last, rest) ← demand (Der.nextInstant? rest)
  if last < first then throw .endBeforeStart
  if now < first then throw .notYetValid
  if last < now then throw .expired
  if !rest.isEmpty then throw (.malformed .encoding)

/-- Whether a certificate is that of an authority, and how many others may stand below it. -/
def authority? (c : Certificate) : Option (Bool × Option Nat) :=
  match c.extensions.lookup Extensions.constraints with
  | none => some (false, none)
  | some content => do
      let (isAuthority, rest) ← Extensions.flag? content
      if rest.isEmpty then some (isAuthority, none)
      else
        let (most, rest) ← Der.natural? rest
        if rest.isEmpty ∧ most < 256 then some (isAuthority, some most) else none

def checkPlace (place : Place) (c : Certificate) : Except Distrust Unit := do
  let (isAuthority, most?) ← demand (authority? c)
  match place with
  | .server => if isAuthority then throw .authority
  | .issuer below =>
      if !isAuthority then throw .noAuthority
      if most?.any (· < below) then throw .longChain

def serverPurpose : List UInt8 := [0x2B, 0x06, 0x01, 0x05, 0x05, 0x07, 0x03, 0x01]

/-- Servers are among the purposes. Those behind are not read. -/
def checkPurposes : Nat → List UInt8 → Except Distrust Unit
  | _, [] | 0, _ => .error .otherPurpose
  | fuel + 1, octets => do
      let (purpose, rest) ← demand (Der.expect? Der.identifierTag octets)
      if purpose = serverPurpose then .ok () else checkPurposes fuel rest

/-- The certificate can stand in its place. If it states no purposes, it is for all. -/
def check (now : Instant) (place : Place) (c : Certificate) : Except Distrust Unit := do
  checkValidity now c
  checkPlace place c
  match c.extensions.lookup Extensions.purposes with
  | none => .ok ()
  | some [] => .error .noPurpose
  | some purposes => checkPurposes purposes.length purposes

def checkSignature (c : Certificate) (key : List UInt8) : Except Distrust Unit :=
  let verified := do
    let key ← Der.PublicKey.read? key
    let scheme ← Der.SignatureScheme.ofAlgorithm? c.algorithm
    return key.verifies scheme c.statement c.signature
  if verified = some true then .ok () else .error .badSignature

/-- The names in certificates satisfy the constraints of who vouches for them. -/
def checkNames (constraints : Option (List UInt8)) (below : List Certificate) :
    Except Distrust Unit :=
  match constraints with
  | none => .ok ()
  | some content => do
      let constraints ← demand (NameConstraints.read? content)
      below.forM fun c => (constraints.checkAll c).mapError .names

/-- The better of two outcomes. That the issuer is unknown says least. -/
def better : Except Distrust Unit → Except Distrust Unit → Except Distrust Unit
  | .error .unknownIssuer, other => other
  | .error _, .ok () => .ok ()
  | one, _ => one

def best : List (Except Distrust Unit) → Except Distrust Unit :=
  List.foldl better (.error .unknownIssuer)

/-- Checks a certificate that an authority issued, or that others of bounded number issued one after
the other, the last of them by an authority. Those below it in the chain come along. -/
def checkChain (authorities : List Authority) (others : List Certificate) (now : Instant) :
    Nat → Place → List Certificate → Certificate → Except Distrust Unit
  | more, place, below, c => do
      check now place c
      let direct := (authorities.filter (·.subject == c.issuer)).map fun a => do
        checkSignature c a.publicKey
        checkNames a.nameConstraints (c :: below)
      let indirect := match more with
        | 0 => []
        | more + 1 => (others.filter (·.subject == c.issuer)).map fun issuer => do
            checkChain authorities others now more place.above (c :: below) issuer
            checkSignature c issuer.publicKey
            checkNames issuer.nameConstraints (c :: below)
      best (direct ++ indirect)

/-- How many certificates may stand between a server and an authority. -/
def longestChain : Nat := 6

def checkName (address : List UInt8) (c : Certificate) : Except Distrust Unit :=
  if c.names.contains (some (.address address)) then .ok ()
  else if c.names.contains none then .error (.malformed .encoding)
  else .error .otherName

/-- Decides whether to go on with a server that shows certificates, its own first. -/
def trust (material : Material) (now : Instant) (address : List UInt8)
    (shown : List (List UInt8)) : Except Distrust Unit :=
  if !material.verifies then .ok ()
  else do
    let c ← (Certificate.read .refused (shown.headD [])).mapError .malformed
    let others := shown.tail.filterMap fun octets => (Certificate.read .refused octets).toOption
    checkChain (material.authorities.getD []) others now longestChain .server [] c
    checkName address c

end DirectoryLogin.Wire
