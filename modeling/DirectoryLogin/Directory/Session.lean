/-!
# Faults of a session

What a session with a directory server can meet, and the error in which it is reported. The code of
an error is there exactly if the server answered.
-/

namespace DirectoryLogin.Directory

/-- A failed connection, bind, search or close. -/
structure SessionError where
  /-- The result code of the server's answer. -/
  code? : Option UInt32 := none
  message : String
  deriving DecidableEq, Inhabited

/-- What a session can meet. -/
inductive Fault where
  /-- The server answered with a code other than success. -/
  | result (code : UInt32) (text : String)
  | emptySocketPath
  | portInSocketPath
  | mismatchedStream
  | io (reason : String)
  | malformedFilter
  | endOfStream
  | unknownScheme (scheme : String)
  | nothingToAdd
  | adapter (reason : String)
  | malformedText
  | invalidScope (scope : String)
  | unknownExtension (name : String)
  | security (reason : String)
  /-- A server address that cannot be read. -/
  | address (reason : String)
  /-- The other side is gone before a request was sent. -/
  | sending
  /-- The other side is gone before an answer came. -/
  | receiving
  deriving DecidableEq

namespace Fault

def message : Fault → String
  | .result code text => if text.isEmpty then s!"rc={code}" else s!"rc={code}: {text}"
  | .emptySocketPath => "empty Unix domain socket path"
  | .portInSocketPath => "the port must be empty in the ldapi scheme"
  | .mismatchedStream => "the stream type in LdapConnSettings does not match the URL"
  | .io reason => "I/O error: " ++ reason
  | .malformedFilter => "filter parse error"
  | .endOfStream => "premature end of search stream"
  | .unknownScheme scheme => "unknown LDAP URL scheme: " ++ scheme
  | .nothingToAdd => "empty value set for Add"
  | .adapter reason => "adapter init error: " ++ reason
  | .malformedText => "utf8 decoding error"
  | .invalidScope scope => "invalid scope string in LDAP URL: " ++ scope
  | .unknownExtension name => "unrecognized critical LDAP URL extension: " ++ name
  | .security reason => "rustls error: unexpected error: " ++ reason
  | .address reason => "url parse error: " ++ reason
  | .sending => "op send error: channel closed"
  | .receiving => "result recv error: channel closed"

/-- The code of the server's answer. -/
def code? : Fault → Option UInt32
  | .result code _ => some code
  | _ => none

def toError (fault : Fault) : SessionError := ⟨fault.code?, fault.message⟩

theorem toError_code?_isSome_iff (fault : Fault) :
    fault.toError.code?.isSome ↔ ∃ code text, fault = .result code text := by
  cases fault <;> simp [toError, code?]

end Fault

end DirectoryLogin.Directory
