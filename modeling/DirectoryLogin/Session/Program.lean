import DirectoryLogin.Directory.Entry
import DirectoryLogin.Transport.Material

/-!
# Calls and programs

What an operation asks of the world around it, and the tree that an operation is: it ends with a
result, notes an event, or asks something and goes on according to the answer. Programs are put
together in sequence, and sequence is associative.
-/

namespace DirectoryLogin.Session

open Directory (Entry SearchRequest SessionError)

/-! ## Calls -/

/-- Something asked of the world. An operation has one session at a time, so that the calls after a
connection name none. -/
inductive Call where
  /-- Make what secures the connections. -/
  | build (request : Transport.MaterialRequest)
  /-- Open a session with a server. -/
  | connect (url : String) (security : Transport.Security) (timeout : Option UInt64)
  | simpleBind (dn password : String)
  | anonymousBind
  | search (request : SearchRequest)
  /-- Take leave of the server. -/
  | close
  /-- End the session without taking leave. -/
  | abort

abbrev Call.Answer : Call → Type
  | .build _ => Except Directory.Error Transport.Material
  | .search _ => Except SessionError (List Entry)
  | .connect .. | .simpleBind .. | .anonymousBind | .close => Except SessionError Unit
  | .abort => Unit

/-- What a connection holds of a session. -/
structure Handle where
  deriving DecidableEq

structure Connection where
  /-- The server as it is configured. -/
  url : String
  /-- Taken out before the session is ended. -/
  session? : Option Handle
  deriving DecidableEq

namespace Connection

def opened (url : String) : Connection := ⟨url, some {}⟩

def taken (connection : Connection) : Connection := { connection with session? := none }

end Connection

/-! ## Programs -/

/-- What remains to be done of an operation. -/
inductive Program (α : Type) where
  | done (result : α)
  | note (event : Log.Event) (next : Program α)
  /-- Nothing but the connection, if there is one, is left behind when the operation is given up
  before the answer. -/
  | ask (connection? : Option Connection) (call : Call) (next : call.Answer → Program α)

namespace Program

variable {α β γ : Type}

/-- First this program, then the one for its result. -/
def bind (program : Program α) (next : α → Program β) : Program β :=
  match program with
  | .done result => next result
  | .note event rest => .note event (rest.bind next)
  | .ask connection? call rest => .ask connection? call fun answer => (rest answer).bind next

instance : Monad Program where
  pure := .done
  bind := bind

@[simp] theorem pure_eq_done (a : α) : (pure a : Program α) = .done a := rfl

@[simp] theorem done_bind (a : α) (next : α → Program β) : (done a >>= next) = next a := rfl

@[simp] theorem note_bind (event : Log.Event) (rest : Program α) (next : α → Program β) :
    (note event rest >>= next) = .note event (rest >>= next) := rfl

@[simp] theorem ask_bind (connection? : Option Connection) (call : Call)
    (rest : call.Answer → Program α) (next : α → Program β) :
    (ask connection? call rest >>= next) =
      .ask connection? call fun answer => rest answer >>= next := rfl

theorem bind_done (program : Program α) : (program >>= done) = program := by
  induction program with
  | done => rfl
  | note event rest ih => rw [note_bind, ih]
  | ask connection? call rest ih => simp only [ask_bind, ih]

theorem bind_assoc (program : Program α) (first : α → Program β) (second : β → Program γ) :
    (program >>= first) >>= second = program >>= fun a => first a >>= second := by
  induction program with
  | done => rfl
  | note event rest ih => simp only [note_bind, ih]
  | ask connection? call rest ih => simp only [ask_bind, ih]

instance : LawfulMonad Program := LawfulMonad.mk' Program bind_done (fun _ _ => rfl) bind_assoc

/-- Asks one thing before there is a connection. -/
def call (c : Call) : Program c.Answer := .ask none c .done

def log (event : Log.Event) : Program Unit := .note event (.done ())

end Program

end DirectoryLogin.Session
