import DirectoryLogin.Der.Certificate
import DirectoryLogin.Text.Cut

/-!
# Names in certificates

A certificate can name its subject in several forms. Domains and network addresses are compared with
others; of a name in another form only the form matters. An authority can be confined to some names
and excluded from others: a name has to be among the permitted ones if there are any of its form,
and must not be among the excluded ones.
-/

namespace DirectoryLogin.Der

/-! ## Domains -/

/-- The labels of a domain in lower case. -/
abbrev Labels := List (List Char)

namespace Labels

def ofOctets (octets : List UInt8) : Labels :=
  Text.pieces '.' (octets.map fun octet => (Char.ofNat octet.toNat).toLower)

/-- Letters, digits, underscores, and hyphens inside. -/
def isLabel (label : List Char) : Bool :=
  label.length ≤ 63 && label.all (fun c => c.isAlphanum || c == '-' || c == '_') &&
    label.head?.any (· != '-') && label.getLast?.any (· != '-')

/-- There are labels, and the last is not a number. -/
def isDomain (labels : Labels) : Bool :=
  labels.all isLabel && labels.getLast?.any fun label => !label.all Char.isDigit

/-- The first label is any one. -/
def isWild (labels : Labels) : Bool := labels.head? == some ['*']

def longest : Nat := 253

/-- The labels of the domain that a certificate names. Two labels at least follow an asterisk. -/
def ofName? (octets : List UInt8) : Option Labels :=
  let labels := ofOctets octets
  let isNamed := if labels.isWild then isDomain labels.tail && 3 ≤ labels.length
    else labels.isDomain
  if octets.length ≤ longest ∧ isNamed then some labels else none

/-- The domains below a point. -/
structure Zone where
  labels : Labels
  /-- The point itself is not among them. -/
  isStrict : Bool
  deriving DecidableEq

/-- The zone that octets write: that of all domains if there are none. A dot at the front leaves out
the point itself. -/
def Zone.ofOctets? (octets : List UInt8) : Option Zone :=
  if octets.isEmpty then some ⟨[], false⟩
  else
    let isStrict := octets.head? = some 0x2E
    let labels := ofOctets (if isStrict then octets.tail else octets)
    if octets.length ≤ longest ∧ labels.isDomain then some ⟨labels, isStrict⟩ else none

/-- All that the labels stand for lies in the zone. -/
def isWithin (labels : Labels) (zone : Zone) : Bool :=
  zone.labels.isSuffixOf labels && (!zone.isStrict || zone.labels.length < labels.length)

/-- Some of what the labels stand for may lie in the zone. -/
def mayTouch (labels : Labels) (zone : Zone) : Bool :=
  labels.isWithin zone || labels.isWild && !zone.labels.isEmpty && labels.tail == zone.labels.tail

theorem isWithin_all (labels : Labels) : labels.isWithin ⟨[], false⟩ = true := by
  simp [isWithin, List.isSuffixOf]

theorem mayTouch_of_isWithin {labels : Labels} {zone : Zone} (h : labels.isWithin zone = true) :
    labels.mayTouch zone = true := by
  simp [mayTouch, h]

end Labels

/-! ## Names -/

inductive GeneralName where
  | domain (octets : List UInt8)
  | address (octets : List UInt8)
  /-- A name in another form, which is known by its tag. -/
  | other (tag : UInt8)
  deriving DecidableEq

namespace GeneralName

/-- The name of the subject in a directory, which every certificate has. -/
def directory : GeneralName := .other 0xA4

/-- The tags of the other forms. -/
def otherTags : List UInt8 := [0x81, 0x86, 0x88, 0xA0, 0xA3, 0xA4, 0xA5]

def ofElement? (e : Element) : Option GeneralName :=
  if e.tag = 0x82 then some (.domain e.content)
  else if e.tag = 0x87 then some (.address e.content)
  else if otherTags.contains e.tag then some (.other e.tag)
  else none

/-- The name at the front, and the rest. -/
def next? (octets : List UInt8) : Option (GeneralName × List UInt8) := do
  let (e, rest) ← element? octets
  return (← ofElement? e, rest)

/-- The names one after the other, up to the first malformed one, in the place of which there is
none. -/
def readAll : Nat → List UInt8 → List (Option GeneralName)
  | _, [] => []
  | 0, _ => [none]
  | fuel + 1, octets =>
      match next? octets with
      | none => [none]
      | some (name, rest) => some name :: readAll fuel rest

end GeneralName

/-- The further names of the subject. A name takes an octet at least, so the fuel suffices. -/
def Certificate.names (c : Certificate) : List (Option GeneralName) :=
  let octets := (c.extensions.lookup Extensions.otherNames).getD []
  GeneralName.readAll octets.length octets

/-! ## Constraints on names -/

/-- Why names do not satisfy constraints. -/
inductive NameFault where
  | encoding
  /-- A name is not a domain. -/
  | domain
  /-- A constraint on domains is malformed. -/
  | zone
  /-- The mask of a constraint on addresses is malformed. -/
  | mask
  | violation
  deriving DecidableEq

def NameFault.name : NameFault → String
  | .encoding => "BadEncoding"
  | .domain => "Other(OtherError(MalformedDnsIdentifier))"
  | .zone => "Other(OtherError(MalformedNameConstraint))"
  | .mask => "Other(OtherError(InvalidNetworkMaskConstraint))"
  | .violation => "Other(OtherError(NameConstraintViolation))"

/-- What there is, or else a fault. -/
def NameFault.unless {α : Type} (fault : NameFault) (found : Option α) : Except NameFault α :=
  found.elim (.error fault) .ok

inductive Constraint where
  | permitted
  | excluded
  deriving DecidableEq

def maskOctets : List UInt8 := [0x00, 0x80, 0xC0, 0xE0, 0xF0, 0xF8, 0xFC, 0xFE, 0xFF]

/-- Whether octets agree with others behind masks. Only cleared octets follow one of the mask that
is not full. The masks are read up to the first disagreement. -/
def agree (isOver : Bool) : List (UInt8 × UInt8 × UInt8) → Except NameFault Bool
  | [] => .ok true
  | (octet, base, mask) :: rest =>
      if !maskOctets.contains mask ∨ isOver ∧ mask ≠ 0 then .error .mask
      else if (octet ^^^ base) &&& mask ≠ 0 then .ok false
      else agree (mask ≠ 0xFF) rest

/-- Whether an address lies in a network, which is written by an address and a mask. -/
def liesIn (address network : List UInt8) : Except NameFault Bool :=
  let size := address.length
  if size ≠ 4 ∧ size ≠ 16 then .error .encoding
  else if network.length = 2 * size then
    agree false (address.zip ((network.take size).zip (network.drop size)))
  else if network.length = 8 ∨ network.length = 32 then .ok false
  else .error .mask

/-- Whether a constraint applies to a name; `none` if it is about names of another form. Names of
the other forms are not compared, so a constraint on their form is violated. -/
def Constraint.applies? (kind : Constraint) : GeneralName → GeneralName →
    Except NameFault (Option Bool)
  | .domain name, .domain zone => do
      let labels ← NameFault.domain.unless (Labels.ofName? name)
      let zone ← NameFault.zone.unless (Labels.Zone.ofOctets? zone)
      return some (if kind = .permitted then labels.isWithin zone else labels.mayTouch zone)
  | .address address, .address network => do return some (← liesIn address network)
  | .other form, .other form' => if form = form' then .error .violation else .ok none
  | _, _ => .ok none

/-- The names to which an authority is confined, and those from which it is excluded. -/
structure NameConstraints where
  permitted : List GeneralName
  excluded : List GeneralName
  deriving DecidableEq

namespace NameConstraints

/-- Reads bases: sequences of one name each. -/
def bases? : Nat → List UInt8 → Option (List GeneralName)
  | _, [] => some []
  | 0, _ => none
  | fuel + 1, octets => do
      let (content, rest) ← expect? sequenceTag octets
      let (name, after) ← GeneralName.next? content
      if after.isEmpty then return name :: (← bases? fuel rest) else none

def read? (content : List UInt8) : Option NameConstraints := do
  let (permitted, rest) ← optional? (contextTag 0) content
  let (excluded, rest) ← optional? (contextTag 1) rest
  let permitted ← bases? content.length (permitted.getD [])
  let excluded ← bases? content.length (excluded.getD [])
  if rest.isEmpty then some { permitted, excluded } else none

/-- A name satisfies the constraints. -/
def check (constraints : NameConstraints) (name : GeneralName) : Except NameFault Unit := do
  let permitted ← constraints.permitted.mapM (Constraint.permitted.applies? name)
  if permitted.contains (some false) ∧ !permitted.contains (some true) then throw .violation
  let excluded ← constraints.excluded.mapM (Constraint.excluded.applies? name)
  if excluded.contains (some true) then throw .violation

/-- The names of a certificate satisfy the constraints. -/
def checkAll (constraints : NameConstraints) (c : Certificate) : Except NameFault Unit := do
  c.names.forM fun name => do constraints.check (← NameFault.encoding.unless name)
  constraints.check .directory

end NameConstraints

end DirectoryLogin.Der
