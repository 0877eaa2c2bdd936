import DirectoryLogin.Server.Address
import DirectoryLogin.Session.World
import DirectoryLogin.Wire.Protocol
import DirectoryLogin.Wire.Trust

/-!
# Sessions over the wire

A world in which connections lead to servers: what each call sends, and how the server's messages
become its answer. Servers that are not known refuse every connection.
-/

namespace DirectoryLogin.Wire

open Der (Instant)
open Directory (Entry Fault SearchRequest SessionError)
open Session (Call Reply World)
open Transport (Material Scheme Security)

/-- What the library is told of a connection before it dials. -/
structure ConnectionSettings where
  /-- The connection is upgraded before anything else is sent. -/
  startTls : Bool := false
  material? : Option Material := none
  timeout? : Option UInt64 := none
  deriving DecidableEq

def ConnectionSettings.of (security : Security) (timeout : Option UInt64) :
    ConnectionSettings where
  startTls := security.mode == .startTls
  material? := security.material?
  timeout? := timeout

/-- What the library collects of a server's answer to a search. -/
structure Collected where
  messages : List Message
  result : Result

/-- The servers, what has reached each of them, and the server at the other end. Servers answer at
once, so that no timeout elapses. -/
structure Link where
  servers : List Server
  /-- What has reached the servers, by position, latest first. -/
  received : List (Nat × Request) := []
  /-- The targets that the library was to connect to, with the settings, latest first. -/
  attempts : List (String × ConnectionSettings) := []
  /-- The server of the open connection. -/
  peer? : Option Nat := none
  deriving Inhabited

namespace Link

def requests (link : Link) (position : Nat) : List Request :=
  (link.received.reverse.filter (·.1 == position)).map (·.2)

/-- A request reaches the server at a position. -/
def reach (link : Link) (position : Nat) (request : Request) : Link :=
  { link with received := (position, request) :: link.received }

/-- The other side is gone. -/
def hangUp (link : Link) : Link := { link with peer? := none }

/-- The address that all servers share. -/
def host : String := "127.0.0.1"

def address : List UInt8 := [127, 0, 0, 1]

/-- The server that listens at a port. -/
def listener? (link : Link) (port : Nat) : Option (Nat × Server) :=
  (link.servers.zipIdx.map fun (server, position) => (position, server)).find? fun
    (position, server) => !server.isDown && server.port position == port

def refused : Fault := .io "Connection refused (os error 111)"

/-- Secures the connection to a server. -/
def secure (link : Link) (now : Instant) (material : Material) (position : Nat) (server : Server) :
    Except Fault Unit × Link :=
  let link := link.reach position .tlsHello
  if server.certificates.isEmpty then (.error (.io "tls handshake eof"), link)
  else
    match trust material now address server.certificates with
    | .error reason => (.error (.io reason.message), link)
    | .ok () => (.ok (), { link with peer? := some position })

/-- Connects to the server that listens at a port. With the scheme `ldaps` there is nothing to
upgrade. -/
def dial (link : Link) (now : Instant) (settings : ConnectionSettings) (scheme : Scheme)
    (port : Nat) : Except Fault Unit × Link :=
  match link.listener? port with
  | none => (.error refused, link)
  | some (position, server) =>
      let link := link.reach position .accept
      let material := settings.material?.getD {}
      match scheme, settings.startTls with
      | .ldaps, _ => link.secure now material position server
      | .ldap, false => (.ok (), { link with peer? := some position })
      | .ldap, true =>
          let link := link.reach position (.extended upgradeIdentifier)
          if server.upgrade.code = 0 then link.secure now material position server
          else (.error (.result server.upgrade.code server.upgrade.text), link)

def connect (link : Link) (now : Instant) (settings : ConnectionSettings) (target : String) :
    Except Fault Unit × Link :=
  let link := { link.hangUp with attempts := (target, settings) :: link.attempts }
  match Server.Endpoint.ofTarget target with
  | .error fault => (.error (.address fault.message), link)
  | .ok endpoint =>
      match Scheme.ofText? endpoint.scheme with
      | none => (.error (.unknownScheme endpoint.scheme), link)
      | some scheme =>
          if endpoint.host = host then
            link.dial now settings scheme (endpoint.port?.getD scheme.port)
          else (.error refused, link)

def peer (link : Link) : Option (Nat × Server) := do
  let position ← link.peer?
  return (position, ← link.servers[position]?)

/-- The outcome that a result stands for. -/
def outcome {α : Type} (result : Result) (value : α) : Except Fault α :=
  if result.code = 0 then .ok value else .error (.result result.code result.text)

def bind (link : Link) (dn password : String) : Except Fault Unit × Link :=
  match link.peer with
  | none => (.error .sending, link)
  | some (position, server) =>
      let link := link.reach position (.bind protocolVersion dn password)
      if server.hangsUpOnBind then (.error .receiving, link.hangUp)
      else (outcome (server.bindResult dn password) (), link)

/-- What the library makes of a search, whatever its result. A filter that cannot be read is not
sent. -/
def collect (link : Link) (query : Query) : Except Fault Collected × Link :=
  match query.message? with
  | none => (.error .malformedFilter, link)
  | some message =>
      match link.peer with
      | none => (.error .sending, link)
      | some (position, server) =>
          let link := link.reach position (.search message)
          let rule := server.searchRule message.base
          if rule.hangsUp then (.error .endOfStream, link.hangUp)
          else (.ok ⟨rule.messages, rule.result⟩, link)

def entries (messages : List Message) : List Entry :=
  messages.filterMap fun message => message.entry?.map fun raw =>
    (ReceivedEntry.construct raw).toEntry

/-- Searches. References and intermediate messages are left out. -/
def search (link : Link) (request : SearchRequest) : Except Fault (List Entry) × Link :=
  match link.collect (.of request) with
  | (.error fault, link) => (.error fault, link)
  | (.ok collected, link) => ((outcome collected.result collected.messages).map entries, link)

def close (link : Link) : Except Fault Unit × Link :=
  match link.peer with
  | none => (.error .sending, link)
  | some (position, _) => (.ok (), (link.reach position .unbind).hangUp)

end Link

/-- The reply with a fault reported as the session reports it. -/
def report {α : Type} (answer : Except Fault α × Link) : Except SessionError α × Link :=
  (answer.1.mapError Fault.toError, answer.2)

/-- How certificates and keys are made. -/
abbrev Builder :=
  Transport.MaterialRequest → List Log.Event × Except Directory.Error Material

def Builder.ofFiles (files : Files) : Builder := fun request =>
  let (events, built) := Material.build files request
  (events, built.mapError fun fault => .config (.material fault))

/-- Makes none, so that no server is trusted. -/
def Builder.untrusting : Builder := fun _ => ([], .ok { authorities := some [] })

def world (builder : Builder) (now : Instant) : World Link where
  reply
    | .build request, link =>
        let (events, built) := builder request
        (⟨events, built⟩, link)
    | .connect url security timeout, link =>
        let target := Server.target url security.mode
        let (answer, link) := report (link.connect now (.of security timeout) target)
        (⟨[.connecting target security.mode], answer⟩, link)
    | .simpleBind dn password, link =>
        let (answer, link) := report (link.bind dn password)
        (⟨[], answer⟩, link)
    | .anonymousBind, link =>
        let (answer, link) := report (link.bind "" "")
        (⟨[], answer⟩, link)
    | .search request, link =>
        let (answer, link) := report (link.search request)
        (⟨[], answer⟩, link)
    | .close, link =>
        let (answer, link) := report link.close
        (⟨[], answer⟩, link)
    | .abort, link => (⟨[.released], ()⟩, link.hangUp)

end DirectoryLogin.Wire
