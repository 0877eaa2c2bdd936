import DirectoryLogin.Config.Validation
import DirectoryLogin.Directory.Session
import DirectoryLogin.Dump
import DirectoryLogin.Transport.Fault

/-!
# Errors of directory operations

An operation fails in one of five ways. Faults of sessions never reach the caller as they are: they
become part of one of these.
-/

namespace DirectoryLogin.Directory

/-- Why an operation failed on an open connection. -/
inductive OperationFault where
  /-- The search under a base failed. -/
  | search (base : String) (cause : SessionError)
  | stated (reason : String)
  deriving DecidableEq

def OperationFault.message : OperationFault → String
  | .search base cause => "search under " ++ base ++ " failed: " ++ cause.message
  | .stated reason => reason

/-- Why the configuration does not serve. -/
inductive ConfigFault where
  | settings (error : Config.Error)
  | material (fault : Transport.Fault)
  /-- The service account was not let in. -/
  | reader (cause : SessionError)
  /-- The anonymous bind was not let in. -/
  | anonymous (cause : SessionError)
  | stated (reason : String)
  deriving DecidableEq

def ConfigFault.message : ConfigFault → String
  | .settings error => error.message
  | .material fault => fault.message
  | .reader cause => "service account bind failed: " ++ cause.message
  | .anonymous cause => "anonymous bind rejected: " ++ cause.message
  | .stated reason => reason

/-- How a directory operation fails. -/
inductive Error where
  /-- None of the configured servers could be reached. -/
  | noReachableServer
  | operation (fault : OperationFault)
  | config (fault : ConfigFault)
  /-- The credentials of the user were not accepted. -/
  | unauthorized
  /-- No user search gave exactly one entry. -/
  | userNotFound
  deriving DecidableEq

/-- The kinds of errors that callers tell apart. -/
inductive ErrorKind where
  | connection
  | config
  | unauthorized
  | userNotFound
  deriving DecidableEq

namespace ErrorKind

def dumpName : ErrorKind → String
  | .connection => "Connection"
  | .config => "Config"
  | .unauthorized => "Unauthorized"
  | .userNotFound => "UserNotFound"

def code : ErrorKind → String
  | .connection => "ConnectionError"
  | .config => "ConfigError"
  | .unauthorized => "Unauthorized"
  | .userNotFound => "UserNotFound"

end ErrorKind

namespace Error

def kind : Error → ErrorKind
  | .noReachableServer | .operation _ => .connection
  | .config _ => .config
  | .unauthorized => .unauthorized
  | .userNotFound => .userNotFound

def code (error : Error) : String := error.kind.code

def message : Error → String
  | .noReachableServer => "No reachable directory server"
  | .operation fault => "Directory operation failed: " ++ fault.message
  | .config fault => "Invalid directory configuration: " ++ fault.message
  | .unauthorized => "Unauthorized"
  | .userNotFound => "User not found or too many entries returned"

def dump : Error → Dump
  | .noReachableServer => .word "NoReachableServer"
  | .operation fault => .holding "Operation" (.quote fault.message)
  | .config fault => .holding "Config" (.quote fault.message)
  | .unauthorized => .word "Unauthorized"
  | .userNotFound => .word "UserNotFound"

def ofConfig (error : Config.Error) : Error := .config (.settings error)

end Error

/-- What an enumeration had collected when it failed. -/
structure Partial (α : Type) where
  collected : List α
  error : Error
  deriving DecidableEq

namespace Partial

def ofError {α : Type} (error : Error) : Partial α := ⟨[], error⟩

def kind {α : Type} (failure : Partial α) : ErrorKind := failure.error.kind

def message {α : Type} (failure : Partial α) : String :=
  s!"{failure.error.message} ({failure.collected.length} entries collected before failure)"

end Partial

end DirectoryLogin.Directory
