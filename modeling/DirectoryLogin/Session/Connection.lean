import DirectoryLogin.Session.Program
import DirectoryLogin.Session.World

/-!
# Connections

A connection holds the session with one server for the length of one operation. It ends with a
close, or is dropped. Both take the session out of the connection first, so that it is ended once. A
close that fails is followed by an abort, so that the session ends either way. A caller can give up
an operation while an answer is pending; the connection that the operation has then is dropped.
-/

namespace DirectoryLogin.Session

open Directory (Entry SearchRequest SessionError)

namespace Connection

/-- The answer of a connection without a session. -/
def alreadyClosed : SessionError := { message := "connection already closed" }

def ask (connection : Connection) (c : Call) : Program c.Answer := .ask (some connection) c .done

def onSession {α : Type} (connection : Connection) (asked : Program (Except SessionError α)) :
    Program (Except SessionError α) :=
  match connection.session? with
  | none => return .error alreadyClosed
  | some _ => asked

def simpleBind (connection : Connection) (dn password : String) :
    Program (Except SessionError Unit) :=
  connection.onSession (connection.ask (.simpleBind dn password))

def anonymousBind (connection : Connection) : Program (Except SessionError Unit) :=
  connection.onSession (connection.ask .anonymousBind)

def search (connection : Connection) (request : SearchRequest) :
    Program (Except SessionError (List Entry)) :=
  connection.onSession (connection.ask (.search request))

section Opened

variable (url : String)

@[simp] theorem simpleBind_opened (dn password : String) :
    (opened url).simpleBind dn password =
      .ask (some (opened url)) (.simpleBind dn password) .done := rfl

@[simp] theorem anonymousBind_opened :
    (opened url).anonymousBind = .ask (some (opened url)) .anonymousBind .done := rfl

@[simp] theorem search_opened (request : SearchRequest) :
    (opened url).search request = .ask (some (opened url)) (.search request) .done := rfl

end Opened

/-- Takes leave of the server and ends the session. -/
def close (connection : Connection) : Program Unit :=
  match connection.session? with
  | none => return ()
  | some _ => do
      -- While the answer is pending, the session is held by nobody who would end it.
      match ← connection.taken.ask .close with
      | .ok () => pure ()
      | .error cause =>
          Program.log (.closeFailed connection.url cause)
          connection.taken.ask .abort
      Program.log (.closed connection.url)

/-- Ends the session of a connection that is given up. -/
def drop (connection : Connection) : Program Unit :=
  match connection.session? with
  | none => return ()
  | some _ => do
      Program.log (.dropped connection.url)
      connection.taken.ask .abort

end Connection

/-- Connects to the first server that can be reached, trying them in order. -/
def establish (security : Transport.Security) (timeout : Option UInt64) :
    List String → Program (Except Directory.Error Connection)
  | [] => return .error .noReachableServer
  | url :: others => do
      match ← Program.call (.connect url security timeout) with
      | .ok () =>
          Program.log (.connected url security.mode)
          return .ok (.opened url)
      | .error cause =>
          Program.log (.connectFailed url cause)
          establish security timeout others

/-! ## Abandoned operations -/

/-- The answer to the call takes time, so that the caller can give up meanwhile. -/
def Call.waits : Call → Bool
  | .build _ | .abort => false
  | .connect .. | .simpleBind .. | .anonymousBind | .search _ | .close => true

/-- What is done with what a given up operation leaves behind. -/
def leave : Option Connection → Program Unit
  | none => .done ()
  | some connection => connection.drop

variable {σ α : Type}

/-- Runs a program until `n` calls are answered, and gives it up at the next one that waits. Ends
with the result if there is none. -/
def Program.abandon (world : World σ) : Nat → Program α → σ → Run σ (Option α)
  | _, .done result, state => ⟨some result, [], state⟩
  | n, .note event next, state => (abandon world n next state).after [.noted event]
  | n, .ask connection? call next, state =>
      if n = 0 ∧ call.waits then
        let rest := (leave connection?).run world state
        ⟨none, rest.steps, rest.state⟩
      else
        match world.reply call state with
        | (reply, state) =>
            (abandon world (n - 1) (next reply.answer) state).after
              (reply.events.map .noted ++ [.asked call reply.answer])

end DirectoryLogin.Session
