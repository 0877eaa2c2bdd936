import DirectoryLogin.Config.Validation
import DirectoryLogin.Session.Connection
import DirectoryLogin.Session.Program

/-!
# Opening and closing

Every operation opens a connection of its own: it checks the settings, decides on the security once
for all servers, and connects. What it uses the connection for, it closes it afterwards. Its
searches go through an ordered list of bases; what a failing base does to the whole depends on what
the search is for.
-/

namespace DirectoryLogin.Client

open Config (Settings)
open Directory (SessionError)
open Session (Connection Program establish)
open Transport (MaterialRequest Mode Security)

/-- Decides how connections are secured. Plain connections need no certificates. -/
def negotiate (settings : Config.TlsSettings) : Program (Except Directory.Error Security) :=
  if (Mode.ofSettings settings).isSecure then do
    match ← Program.call (.build (.ofSettings settings)) with
    | .error e => return .error e
    | .ok material =>
        return .ok { mode := .ofSettings settings, material? := some material }
  else return .ok .plain

/-- Opens a connection. Faults of the settings and of certificates come before any attempt. -/
def acquire (settings : Settings) : Program (Except Directory.Error Connection) :=
  match settings.validate with
  | .error violation => return .error (.ofConfig (.ofViolation violation))
  | .ok () => do
      match ← negotiate settings.tls with
      | .error e => return .error e
      | .ok security => establish security settings.connectTimeout settings.urls

/-- Opens a connection, uses it, closes it whatever came of the use, and takes note of that. -/
def withConnection {ε α : Type} (settings : Settings) (lift : Directory.Error → ε)
    (use : Connection → Program (Except ε α)) (note : Except ε α → Program Unit) :
    Program (Except ε α) := do
  match ← acquire settings with
  | .error e => return .error (lift e)
  | .ok connection =>
      let result ← use connection
      connection.close
      note result
      return result

def silently {α : Type} : α → Program Unit := fun _ => return ()

/-- Binds as the service account, unless searches are anonymous. -/
def bindReader (settings : Settings) (connection : Connection) :
    Program (Except Directory.Error Unit) :=
  if settings.anonymous then return .ok ()
  else do
    Program.log (.binding connection.url settings.readerDn)
    match ← connection.simpleBind settings.readerDn settings.password with
    | .ok () => return .ok ()
    | .error cause =>
        Program.log (.readerRefused settings.readerDn cause)
        return .error (.config (.reader cause))

def asReader {ε α : Type} (settings : Settings) (lift : Directory.Error → ε)
    (use : Connection → Program (Except ε α)) (connection : Connection) :
    Program (Except ε α) := do
  match ← bindReader settings connection with
  | .error e => return .error (lift e)
  | .ok () => use connection

/-! ## Failing bases -/

/-- What a failed search under one base does to the operation. -/
inductive Policy where
  /-- Goes on with the next base. -/
  | bestEffort
  /-- Ends the operation. -/
  | failFast
  deriving DecidableEq

namespace Policy

def dumpName : Policy → String
  | .bestEffort => "BestEffort"
  | .failFast => "FailFast"

def userResolution : Policy := .bestEffort

def userGroups : Policy := .bestEffort

def userEnumeration : Policy := .failFast

def groupEnumeration : Policy := .failFast

def absorb (policy : Policy) (base : String) (cause : SessionError) :
    Program (Except Directory.Error Unit) :=
  match policy with
  | .bestEffort => do
      Program.log (.baseSkipped base cause)
      return .ok ()
  | .failFast => do
      Program.log (.baseFailed base cause)
      return .error (.operation (.search base cause))

end Policy

end DirectoryLogin.Client
