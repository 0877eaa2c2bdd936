import DirectoryLogin.Text.Cut
import DirectoryLogin.Text.Octets

/-!
# Files

What opening and reading a file by its path gives, and the answers that a tree of directories gives
to every path. A directory can be opened, but not read.
-/

namespace DirectoryLogin

/-- Why a file could not be opened or read. -/
inductive FileFault where
  | missing
  | notDirectory
  | isDirectory
  | nameTooLong
  | nulInName
  | notText
  /-- Any other reason, in the words of the system. -/
  | stated (reason : String)
  deriving DecidableEq

/-- The system's words for the fault. -/
def FileFault.message : FileFault → String
  | .missing => "No such file or directory (os error 2)"
  | .notDirectory => "Not a directory (os error 20)"
  | .isDirectory => "Is a directory (os error 21)"
  | .nameTooLong => "File name too long (os error 36)"
  | .nulInName => "file name contained an unexpected NUL byte"
  | .notText => "stream did not contain valid UTF-8"
  | .stated reason => reason

/-- What becomes of a file that is to be read. -/
inductive FileAnswer where
  | unopened (fault : FileFault)
  | unread (fault : FileFault)
  | contents (bytes : List UInt8)

def FileAnswer.bytes : FileAnswer → Except FileFault (List UInt8)
  | .unopened fault | .unread fault => .error fault
  | .contents bytes => .ok bytes

def FileAnswer.text (answer : FileAnswer) : Except FileFault String :=
  match answer.bytes with
  | .error fault => .error fault
  | .ok bytes =>
      match Text.ofOctets? bytes with
      | some s => .ok s
      | none => .error .notText

/-- The answers to all paths. -/
abbrev Files := String → FileAnswer

inductive FileNode where
  | file (bytes : List UInt8)
  | directory (entries : List (String × FileNode))

namespace FileNode

def maxName : Nat := 255

def maxPath : Nat := 4095

/-- Follows the names of a path from a node, of which `above` are the directories on the way. Above
the topmost directory nothing is known but that it is a directory. -/
def follow (above : List FileNode) (node : FileNode) : List String → Except FileFault FileNode
  | [] => .ok node
  | name :: names =>
      match node with
      | .file _ => .error .notDirectory
      | .directory entries =>
          if name = "" ∨ name = "." then follow above node names
          else if name = ".." then
            match above with
            | [] => follow [] (.directory []) names
            | parent :: above => follow above parent names
          else if maxName < name.utf8ByteSize then .error .nameTooLong
          else
            match entries.lookup name with
            | none => .error .missing
            | some inner => follow (node :: above) inner names

/-- The node that a path leads to from the current directory. -/
def resolve (current : FileNode) (path : String) : Except FileFault FileNode :=
  let names := (Text.pieces '/' path.toList).map String.ofList
  if path.toList.contains '\x00' then .error .nulInName
  else if path.isEmpty then .error .missing
  else if maxPath < path.utf8ByteSize then .error .nameTooLong
  else if path.toList.head? = some '/' then follow [] (.directory []) names
  else follow [] current names

def files (current : FileNode) : Files := fun path =>
  match current.resolve path with
  | .error fault => .unopened fault
  | .ok (.directory _) => .unread .isDirectory
  | .ok (.file bytes) => .contents bytes

end FileNode

end DirectoryLogin
