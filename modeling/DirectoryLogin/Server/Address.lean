import DirectoryLogin.Text.Cut
import DirectoryLogin.Text.Octets
import DirectoryLogin.Transport.Mode

/-!
# Server addresses

A server is configured by its host, with or without a port, and with or without a scheme. The scheme
in force is that of the transport mode, whatever the configured text says. When the target of a
connection is read, the host is kept as it is written; characters that no host holds are refused,
and a host in brackets has to be a network address of the sixth version.
-/

namespace DirectoryLogin.Server

/-! ## Targets -/

open Transport (Mode)

/-- What parts a scheme from an address. -/
def schemeMark : List Char := [':', '/', '/']

/-- The host and the port of a configured server: all that follows the first scheme mark. -/
def address (url : List Char) : List Char :=
  match Text.cut schemeMark url with
  | some (_, after) => after
  | none => url

/-- The port that an address without one gets. -/
def portSuffix (mode : Mode) (address : List Char) : List Char :=
  if address.contains ':' then [] else ':' :: (toString mode.defaultPort).toList

/-- The target of a connection to a configured server. -/
def target (url : String) (mode : Mode) : String :=
  let host := address url.toList
  String.ofList (mode.scheme.text.toList ++ schemeMark ++ host ++ portSuffix mode host)

/-- What a warning calls the server: the text before the first colon. -/
def name (url : String) : String := String.ofList (url.toList.takeWhile (· != ':'))

/-! ## Reading targets -/

/-- Why a target cannot be read. -/
inductive UrlFault where
  | noScheme
  | invalidPort
  | invalidHost
  | emptyHost
  | invalidAddress
  deriving DecidableEq

def UrlFault.message : UrlFault → String
  | .noScheme => "relative URL without a base"
  | .invalidPort => "invalid port number"
  | .invalidHost => "invalid domain character"
  | .emptyHost => "empty host"
  | .invalidAddress => "invalid IPv6 address"

/-- Where a connection leads. -/
structure Endpoint where
  /-- In lower case. -/
  scheme : String
  /-- Empty if the target names no host. -/
  host : String
  port? : Option Nat
  deriving DecidableEq

/-- Characters that no host holds. -/
def isForbidden (c : Char) : Bool :=
  ['\x00', '\t', '\n', '\r', ' ', '#', '/', ':', '<', '>', '?', '@', '[', '\\', ']', '^',
    '|'].contains c

def isIgnored (c : Char) : Bool := c == '\t' || c == '\n' || c == '\r'

def isTrailing (c : Char) : Bool := c.toNat ≤ 0x20

def decimal (digits : List Char) : Nat :=
  digits.foldl (fun acc c => acc * 10 + (c.toNat - '0'.toNat)) 0

def isOctet (digits : List Char) : Bool :=
  match digits with
  | [] | '0' :: _ :: _ => false
  | digits => digits.all Char.isDigit && decimal digits ≤ 255

/-- The number of groups that a part of an address stands for; `none` if it is malformed. -/
def groups? (isLast : Bool) (part : List Char) : Option Nat :=
  if isLast && part.contains '.' then
    let numbers := Text.pieces '.' part
    if numbers.length = 4 ∧ numbers.all isOctet then some 2 else none
  else if 1 ≤ part.length ∧ part.length ≤ 4 ∧ (Text.hexNumber? part).isSome then some 1
  else none

def countGroups (isEnd : Bool) : List (List Char) → Option Nat
  | [] => some 0
  | [part] => groups? isEnd part
  | part :: others => do return (← groups? false part) + (← countGroups isEnd others)

def groupsOf (isEnd : Bool) (cs : List Char) : Option Nat :=
  if cs.isEmpty then some 0 else countGroups isEnd (Text.pieces ':' cs)

/-- The text is a network address of the sixth version. -/
def isAddress (cs : List Char) : Bool :=
  match Text.cut [':', ':'] cs with
  | none => groupsOf true cs == some 8
  | some (before, after) =>
      match groupsOf false before, groupsOf true after with
      | some a, some b => a + b ≤ 7
      | _, _ => false

/-- The character ends the part of a target that names a user, a host and a port. -/
def endsAuthority (c : Char) : Bool := c == '/' || c == '?' || c == '#'

/-- A host has to follow a user. One that consists of a colon alone counts as none, and the mark of
a user alone may end a target. -/
def needsHost (user rest : List Char) : Bool :=
  if user.isEmpty then !rest.isEmpty else user != [':']

/-- Passes over a user: all up to the last `@` of the authority. -/
def afterUser (cs : List Char) : Except UrlFault (List Char) :=
  let (authority, rest) := cs.span fun c => !endsAuthority c
  match authority.reverse.span (· != '@') with
  | (_, []) => .ok cs
  | (host, _ :: user) =>
      if host.isEmpty ∧ needsHost user rest then .error .emptyHost
      else .ok (host.reverse ++ rest)

/-- How much of a text a host takes: all up to the end of the authority or the first colon outside
of brackets. -/
def hostLength (inBrackets : Bool) : List Char → Nat
  | [] => 0
  | c :: rest =>
      if endsAuthority c ∨ c = ':' ∧ !inBrackets then 0
      else hostLength (c = '[' ∨ inBrackets ∧ c ≠ ']') rest + 1

/-- The text names a host: in brackets an address, otherwise anything without a character that no
host holds. -/
def checkHost : List Char → Except UrlFault Unit
  | '[' :: rest =>
      match rest.reverse with
      | ']' :: inner => if isAddress inner.reverse then .ok () else .error .invalidAddress
      | _ => .error .invalidAddress
  | cs => if cs.any isForbidden then .error .invalidHost else .ok ()

/-- The port after a host: digits up to the end of the text or to a slash of either kind, a question
mark or a number sign. -/
def readPort (cs : List Char) : Except UrlFault (Option Nat) :=
  match cs with
  | ':' :: rest =>
      let (digits, after) := rest.span Char.isDigit
      let port := decimal digits
      if port ≥ 65536 ∨ !(after.head?.all fun c => endsAuthority c || c == '\\') then
        .error .invalidPort
      else .ok (if digits.isEmpty then none else some port)
  | _ => .ok none

/-- Reads a target. A user before the host and a path after it are passed over. -/
def Endpoint.ofTarget (target : String) : Except UrlFault Endpoint :=
  let cs := (target.toList.reverse.dropWhile isTrailing).reverse.filter fun c => !isIgnored c
  match Text.cut schemeMark cs with
  | none => .error .noScheme
  | some (scheme, rest) => do
      let rest ← afterUser rest
      let (name, after) := rest.splitAt (hostLength false rest)
      checkHost name
      if name.isEmpty ∧ after.head? = some ':' then throw .emptyHost
      let port? ← readPort after
      let scheme := String.ofList (scheme.map Char.toLower)
      return { scheme, host := String.ofList name, port? }

end DirectoryLogin.Server
