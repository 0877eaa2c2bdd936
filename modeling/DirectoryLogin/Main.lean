import DirectoryLogin.Command.Launch

/-!
# The program

Reads the arguments, the environment and the files that they name, and prints what the command
gives. There is no network transport in this program: every server counts as one that refuses
connections.
-/

open DirectoryLogin Command Config

/-- The number and the words of an error of the system. -/
def systemError : IO.Error → UInt32 × String
  | .noFileOrDirectory _ code details | .inappropriateType _ code details
  | .permissionDenied _ code details | .invalidArgument _ code details
  | .resourceExhausted _ code details | .noSuchThing _ code details
  | .alreadyExists _ code details | .interrupted _ code details | .otherError code details
  | .hardwareFault code details | .unsupportedOperation code details => (code, details)
  | e => (0, toString e)

/-- Opens and reads a file. A directory can be opened, but not read. -/
def answerTo (path : String) : IO FileAnswer := do
  if path.toList.contains '\x00' then return .unopened .nulInName
  try return .contents (← IO.FS.readBinFile path).toList
  catch e =>
    let (code, details) := systemError e
    if code = 21 then return .unread .isDirectory
    return .unopened (.stated s!"{details} (os error {code})")

def snapshot (paths : List String) : IO Files := do
  let answers ← paths.mapM fun path => return (path, ← answerTo path)
  return fun path => (answers.lookup path).getD (.unopened .missing)

def environment : IO Environment := do
  let entries := split (← IO.FS.readBinFile "/proc/self/environ").toList
  return entries.filterMap fun entry =>
    match entry.span (· != 0x3D) with
    | (name, _ :: value) => (Text.ofOctets? name).map (·, value)
    | (_, []) => none
where
  /-- The entries between the zero octets. -/
  split : List UInt8 → List (List UInt8)
    | [] => []
    | octet :: rest =>
        if octet = 0 then [] :: split rest
        else match split rest with
          | [] => [[octet]]
          | entry :: others => (octet :: entry) :: others

/-- Each round of reading can name more files: the file of variables, the configuration, and the
certificates. -/
def main (args : List String) : IO UInt32 := do
  let env ← environment
  let mut files ← snapshot []
  for _ in [1, 2, 3] do
    files ← snapshot (filesRead files env args)
  let exit := launch files env args
  IO.print exit.stdout
  IO.eprint exit.stderr
  return exit.status
