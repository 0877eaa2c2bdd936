import DirectoryLogin.Config.Settings
import DirectoryLogin.Der.Key
import DirectoryLogin.Dump
import DirectoryLogin.Log

/-!
# Certificates and keys for secure connections

What secures a connection is made from PEM files in a fixed order: the authorities, then the client
certificate, then its key. The first fault ends it, so files of later stages do not matter then. An
operation decides on its security once, for every server that it tries.

Without a file of their own the authorities are those of the platform. These are left open here:
which there are, and what is noted of them and of those that cannot be used, depends on nothing that
is modelled, and no fault comes of it.
-/

namespace DirectoryLogin.Transport

/-- A client certificate with the certificates that vouch for it, and its key. -/
structure Identity where
  certificates : List (List UInt8)
  key : Pem.Item
  deriving DecidableEq

/-- What secures a connection. -/
structure Material where
  /-- The certificates that vouch for servers; those of the platform if none are given. -/
  authorities : Option (List Der.Authority) := none
  identity : Option Identity := none
  /-- Server certificates are accepted only if an authority vouches for them. -/
  verifies : Bool := true
  deriving DecidableEq

/-- Where the certificates and keys are. -/
structure MaterialRequest where
  caPath : Option String := none
  certPath : Option String := none
  keyPath : Option String := none
  skipVerify : Bool := false
  deriving DecidableEq

def MaterialRequest.ofSettings (settings : Config.TlsSettings) : MaterialRequest :=
  ⟨settings.caPath, settings.certPath, settings.keyPath, settings.skipVerify⟩

namespace Material

def loadCertificates (files : Files) (path : String) : Except Fault (List (List UInt8)) :=
  match files path with
  | .unopened fault => .error (.certificatesUnopened path fault)
  | .unread fault => .error (.certificatesUnread fault)
  | .contents file =>
      match (Pem.read file).certificates with
      | .error fault => .error (.certificatesMalformed fault)
      | .ok [] => .error (.noCertificates path)
      | .ok found => .ok found

/-- The first private key in a file. -/
def loadKey (files : Files) (path : String) : Except Fault Pem.Item :=
  match files path with
  | .unopened fault => .error (.keyUnopened path fault)
  | .unread fault => .error (.keyUnread fault)
  | .contents file =>
      match (Pem.read file).key? with
      | .error fault => .error (.keyMalformed fault)
      | .ok none => .error (.noKey path)
      | .ok (some item) => .ok item

/-- The authorities in a file. Every certificate in it has to be one. -/
def loadAuthorities (files : Files) (path : String) : Except Fault (List Der.Authority) := do
  let found ← loadCertificates files path
  match found.mapM Der.Authority.read with
  | .error fault => .error (.badAuthority path fault)
  | .ok read => .ok read

/-- The key fits the first certificate. -/
def matchKey (key : Pem.Item) (certificates : List (List UInt8)) : Except IdentityFault Unit :=
  match Der.publicKey? key with
  | none => .error .unusableKey
  | some key =>
      match Der.Certificate.read .refused (certificates.headD []) with
      | .error fault => .error (.certificate fault)
      | .ok certificate =>
          if certificate.publicKey = key.certified then .ok () else .error .otherKey

def loadIdentity (files : Files) (certPath keyPath : String) : Except Fault Identity := do
  let certificates ← loadCertificates files certPath
  let key ← loadKey files keyPath
  match matchKey key certificates with
  | .error fault => .error (.identity fault)
  | .ok () => .ok { certificates, key }

def requestedIdentity (files : Files) (request : MaterialRequest) :
    Except Fault (Option Identity) :=
  match request.certPath, request.keyPath with
  | some certPath, some keyPath => (loadIdentity files certPath keyPath).map some
  | none, none => .ok none
  | _, _ => .error .unpaired

/-- The authorities that a request asks for; none are for the platform to choose. -/
def requestedAuthorities (files : Files) (request : MaterialRequest) :
    Except Fault (Option (List Der.Authority)) :=
  match request.caPath with
  | none => .ok none
  | some path => (loadAuthorities files path).map some

def authorityEvents (request : MaterialRequest) : Option (List Der.Authority) → List Log.Event
  | none => []
  | some read => [.authoritiesLoaded read.length (request.caPath.getD "")]

/-- Makes what secures a connection, and what is noted on the way. -/
def build (files : Files) (request : MaterialRequest) : List Log.Event × Except Fault Material :=
  match requestedAuthorities files request with
  | .error fault => ([], .error fault)
  | .ok authorities =>
      let noted := authorityEvents request authorities
      match requestedIdentity files request with
      | .error fault => (noted, .error fault)
      | .ok identity =>
          (noted ++ (if request.skipVerify then [.verificationDisabled] else []),
            .ok { authorities, identity, verifies := !request.skipVerify })

end Material

/-! ## Security -/

/-- How the connections of an operation are secured. -/
structure Security where
  mode : Mode
  /-- There in the secure modes. -/
  material? : Option Material := none
  deriving DecidableEq

def Security.plain : Security := { mode := .plain }

def Security.dump (s : Security) : Dump :=
  .record "TransportSecurity"
    [("mode", .word s.mode.dumpName), ("config", .ofBool s.material?.isSome)]

end DirectoryLogin.Transport
