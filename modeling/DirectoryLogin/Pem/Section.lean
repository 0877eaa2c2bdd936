import DirectoryLogin.Pem.Base64
import DirectoryLogin.Text.Quoted
import DirectoryLogin.Text.Octets

/-!
# PEM files

A file holds sections between a line that begins a label and a line that ends it. Between them
stands Base64, around them anything. The items of a file are those of its sections with a known
label, up to the first section that is malformed.
-/

namespace DirectoryLogin.Pem

/-- What a section holds, by its label. -/
inductive Kind where
  | certificate
  | publicKey
  | rsaKey
  | pkcs8Key
  | ecKey
  | revocationList
  | certificateRequest
  | encryptedHello
  deriving DecidableEq

def Kind.label : Kind → String
  | .certificate => "CERTIFICATE"
  | .publicKey => "PUBLIC KEY"
  | .rsaKey => "RSA PRIVATE KEY"
  | .pkcs8Key => "PRIVATE KEY"
  | .ecKey => "EC PRIVATE KEY"
  | .revocationList => "X509 CRL"
  | .certificateRequest => "CERTIFICATE REQUEST"
  | .encryptedHello => "ECHCONFIG"

def Kind.all : List Kind :=
  [.certificate, .publicKey, .rsaKey, .pkcs8Key, .ecKey, .revocationList, .certificateRequest,
   .encryptedHello]

def Kind.ofLabel? (label : List UInt8) : Option Kind :=
  Kind.all.find? fun kind => Text.octets kind.label == label

def Kind.isKey : Kind → Bool
  | .rsaKey | .pkcs8Key | .ecKey => true
  | _ => false

/-- The contents of a section. -/
structure Item where
  kind : Kind
  octets : List UInt8
  deriving DecidableEq

/-- Why a section is malformed. -/
inductive Fault where
  /-- The line that begins the section does not end as it should. -/
  | sectionStart (line : List UInt8)
  /-- The file ends inside the section. -/
  | sectionEnd (label : List UInt8)
  | encoding (fault : Base64.Fault)
  deriving DecidableEq

def Fault.message : Fault → String
  | .sectionStart line => "illegal section start: " ++ Text.quoted (Text.lossy line)
  | .sectionEnd label => "section end " ++ Text.quoted (Text.lossy label) ++ " missing"
  | .encoding fault => fault.message

/-- The lines of a file, each with the line feed or carriage return that ends it. -/
def lines : List UInt8 → List (List UInt8)
  | [] => []
  | octet :: rest =>
      if octet = 0x0A ∨ octet = 0x0D then [octet] :: lines rest
      else match lines rest with
        | [] => [[octet]]
        | line :: others => (octet :: line) :: others

/-- What begins the line at which a section begins. -/
def beginMark : List UInt8 := Text.octets "-----BEGIN "

/-- What begins the line at which a section ends, before its label. -/
def endMark : List UInt8 := Text.octets "-----END "

def dashes : List UInt8 := Text.octets "-----"

/-- Takes dashes from the front of a reversed line, passing over blanks and line ends: their number,
and the rest after the last of them. -/
def trailingDashes : List UInt8 → Nat → List UInt8 → Nat × List UInt8
  | [], n, after => (n, after)
  | octet :: rest, n, after =>
      if octet = 0x2D then trailingDashes rest (n + 1) rest
      else if octet = 0x0A ∨ octet = 0x0D ∨ octet = 0x20 then trailingDashes rest n after
      else (n, after)

/-- The label of a line that begins a section; an error if it ends in other than five dashes. -/
def label (line : List UInt8) : Except Fault (List UInt8) :=
  let reversed := line.reverse
  match trailingDashes reversed 0 reversed with
  | (5, before) => .ok (before.reverse.drop beginMark.length)
  | _ => .error (.sectionStart line)

/-- The section that is being read. -/
structure Draft where
  /-- The label of the open section. -/
  label? : Option (List UInt8) := none
  /-- The Base64 text so far. -/
  text : List UInt8 := []

inductive Progress where
  | on (draft : Draft)
  | found (item : Item)
  | failed (fault : Fault)

/-- Reads one line. A section that begins inside another one takes its place, but keeps its text. -/
def Draft.step (draft : Draft) (line : List UInt8) : Progress :=
  if beginMark.isPrefixOf line then
    match label line with
    | .error fault => .failed fault
    | .ok label => .on { draft with label? := some label }
  else
    match draft.label? with
    | none => .on draft
    | some label =>
        if (endMark ++ label ++ dashes).isPrefixOf line then
          match Kind.ofLabel? label with
          | none => .on {}
          | some kind =>
              match Base64.decode draft.text with
              | .error fault => .failed (.encoding fault)
              | .ok octets => .found ⟨kind, octets⟩
        else .on { draft with text := draft.text ++ line }

/-- The items of a file before the first malformed section, and the fault of that section. -/
structure Contents where
  items : List Item := []
  fault? : Option Fault := none

/-- Reads the remaining lines of a file. -/
def Draft.contents (draft : Draft) : List (List UInt8) → Contents
  | [] =>
      match draft.label? with
      | none => {}
      | some label => { fault? := some (.sectionEnd label) }
  | line :: rest =>
      match draft.step line with
      | .failed fault => { fault? := some fault }
      | .on draft => draft.contents rest
      | .found item =>
          let remaining := Draft.contents {} rest
          { remaining with items := item :: remaining.items }

def read (file : List UInt8) : Contents := Draft.contents {} (lines file)

namespace Contents

def certificates (c : Contents) : Except Fault (List (List UInt8)) :=
  match c.fault? with
  | some fault => .error fault
  | none => .ok ((c.items.filter (·.kind = .certificate)).map (·.octets))

def key? (c : Contents) : Except Fault (Option Item) :=
  match c.items.find? (·.kind.isKey), c.fault? with
  | some item, _ => .ok (some item)
  | none, some fault => .error fault
  | none, none => .ok none

end Contents

end DirectoryLogin.Pem
