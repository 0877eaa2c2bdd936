import DirectoryLogin.Der.Certificate
import DirectoryLogin.Files
import DirectoryLogin.Pem.Section

/-!
# Unusable certificates and keys
-/

namespace DirectoryLogin.Transport

/-- Why a client certificate and its key are not accepted. -/
inductive IdentityFault where
  | unusableKey
  | certificate (fault : Der.CertificateFault)
  /-- The certificate certifies another key. -/
  | otherKey
  deriving DecidableEq

def IdentityFault.message : IdentityFault → String
  | .unusableKey => "unexpected error: failed to parse private key as RSA, ECDSA, or EdDSA"
  | .certificate fault => fault.message
  | .otherKey => "keys may not be consistent: KeyMismatch"

/-- Why certificates and keys on disk cannot secure a connection. -/
inductive Fault where
  | certificatesUnopened (path : String) (fault : FileFault)
  | certificatesUnread (fault : FileFault)
  | certificatesMalformed (fault : Pem.Fault)
  | noCertificates (path : String)
  /-- A certificate that cannot vouch for servers. -/
  | badAuthority (path : String) (fault : Der.CertificateFault)
  /-- A client certificate without its key, or the other way round. -/
  | unpaired
  | keyUnopened (path : String) (fault : FileFault)
  | keyUnread (fault : FileFault)
  | keyMalformed (fault : Pem.Fault)
  | noKey (path : String)
  | identity (fault : IdentityFault)
  deriving DecidableEq

def Fault.message : Fault → String
  | .certificatesUnopened path fault =>
      "Failed to open certificate file " ++ Text.quoted path ++ ": " ++ fault.message
  | .certificatesUnread fault => "Failed to parse certificates: " ++ fault.message
  | .certificatesMalformed fault => "Failed to parse certificates: " ++ fault.message
  | .noCertificates path => "No certificates found in " ++ Text.quoted path
  | .badAuthority path fault =>
      "Invalid CA certificate in " ++ Text.quoted path ++ ": " ++ fault.message
  | .unpaired => "TLS client certificate and key must be given together"
  | .keyUnopened path fault =>
      "Failed to open key file " ++ Text.quoted path ++ ": " ++ fault.message
  | .keyUnread fault => "Failed to parse private key: " ++ fault.message
  | .keyMalformed fault => "Failed to parse private key: " ++ fault.message
  | .noKey path => "No private key found in " ++ Text.quoted path
  | .identity fault => "TLS client cert error: " ++ fault.message

end DirectoryLogin.Transport
