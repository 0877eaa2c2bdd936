import DirectoryLogin.Directory.Entry
import DirectoryLogin.Filter
import DirectoryLogin.Text.Octets

/-!
# Messages between clients and servers

What a client sends to a server and what the server answers. A search is sent only if its filter can
be read; a server answers it with messages, of which the entries count.
-/

namespace DirectoryLogin.Wire

open Directory (Entry SearchRequest)

/-! ## Answers -/

/-- An entry as it is sent. The values of its attributes are octets. -/
structure RawEntry where
  dn : String
  attributes : List (String × List (List UInt8)) := []

/-- An entry as the library constructs it, with its text and binary attributes apart. An attribute
is text if all its values are. -/
structure ReceivedEntry where
  dn : String
  text : List (String × List String) := []
  binary : List (String × List (List UInt8)) := []

namespace ReceivedEntry

def construct (raw : RawEntry) : ReceivedEntry where
  dn := raw.dn
  text := raw.attributes.filterMap fun (name, values) =>
    (values.mapM Text.ofOctets?).map (name, ·)
  binary := raw.attributes.filter fun (_, values) => (values.mapM Text.ofOctets?).isNone

/-- What reaches the caller. Of attributes with one name the last one counts. -/
def toEntry (received : ReceivedEntry) : Entry := .ofAttributes received.dn received.text

end ReceivedEntry

/-- A message that answers a search. -/
inductive Message where
  | entry (raw : RawEntry)
  /-- Other servers that hold more. -/
  | reference (urls : List String)
  | intermediate (identifier : String)

def Message.entry? : Message → Option RawEntry
  | .entry raw => some raw
  | .reference _ | .intermediate _ => none

/-! ## Requests -/

/-- How far below its base a search goes. -/
inductive Scope where
  | base
  | oneLevel
  | subtree
  deriving DecidableEq

def Scope.number : Scope → Nat
  | .base => 0
  | .oneLevel => 1
  | .subtree => 2

/-- When a search follows aliases. -/
inductive AliasUse where
  | never
  /-- Below the base. -/
  | below
  /-- On the way to the base. -/
  | toBase
  | always
  deriving DecidableEq

def AliasUse.number : AliasUse → Nat
  | .never => 0
  | .below => 1
  | .toBase => 2
  | .always => 3

/-- What the library is asked to search for, the filter as a text. -/
structure Query where
  base : String
  scope : Scope
  aliases : AliasUse
  limits : Config.Limits
  filter : String
  attributes : List String

/-- A search covers the whole subtree under its base and never follows aliases. -/
def Query.of (request : SearchRequest) : Query where
  base := request.base
  scope := .subtree
  aliases := .never
  limits := request.limits
  filter := request.filter
  attributes := request.attributes

/-- A search as it is sent. -/
structure SearchMessage where
  base : String
  scope : Scope
  aliases : AliasUse
  limits : Config.Limits
  /-- Names of attributes are asked for without their values. -/
  typesOnly : Bool
  filter : Filter
  attributes : List String

/-- None if the filter cannot be read. -/
def Query.message? (query : Query) : Option SearchMessage :=
  (Filter.parse? query.filter).map fun filter => { query with typesOnly := false, filter }

/-- What reaches a server. -/
inductive Request where
  | accept
  /-- A client begins to secure the connection. -/
  | tlsHello
  | extended (identifier : String)
  | bind (version : Nat) (dn password : String)
  | search (message : SearchMessage)
  | unbind

def upgradeIdentifier : String := "1.3.6.1.4.1.1466.20037"

def protocolVersion : Nat := 3

/-! ## Servers -/

/-- A result code with the server's own words. -/
structure Result where
  code : UInt32 := 0
  text : String := ""
  deriving DecidableEq

/-- How a server answers a bind with a name and a password. -/
structure BindRule where
  dn : String
  password : String
  result : Result

/-- How a server answers searches under a base. -/
structure SearchRule where
  base : String
  messages : List Message := []
  result : Result := {}
  /-- The server hangs up after the messages. -/
  hangsUp : Bool := false

structure Server where
  /-- Nothing listens there. -/
  isDown : Bool := false
  binds : List BindRule := []
  hangsUpOnBind : Bool := false
  searches : List SearchRule := []
  /-- The answer to the request to secure a connection. -/
  upgrade : Result := { code := 2 }
  /-- The certificates that the server shows, its own first. It hangs up on a secure client if there
  are none. -/
  certificates : List (List UInt8) := []

def invalidCredentials : UInt32 := 49

namespace Server

def bindResult (server : Server) (dn password : String) : Result :=
  match server.binds.find? fun rule => rule.dn == dn && rule.password == password with
  | some rule => rule.result
  | none => { code := invalidCredentials }

def searchRule (server : Server) (base : String) : SearchRule :=
  (server.searches.find? fun rule => rule.base == base).getD { base }

def port (server : Server) (position : Nat) : Nat := if server.isDown then 1 else 20000 + position

end Server

end DirectoryLogin.Wire
