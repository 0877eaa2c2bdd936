import DirectoryLogin.Command.Arguments
import DirectoryLogin.Command.EnvFile
import DirectoryLogin.Config.Environment
import DirectoryLogin.Wire.Link

/-!
# Launching the program

From the arguments, the environment and the files of a process to what it prints and the status that
it ends with. Without a network no server answers, so that every operation ends at the latest when
it has tried all of them.
-/

namespace DirectoryLogin.Command

open Config (Configuration Environment)

structure Exit where
  status : UInt32
  stdout : String := ""
  stderr : String := ""

def programVersion : String := "0.1.0"

def usage : String :=
  "Usage: dirauth [-c FILE] [--log-level LEVEL] [-o text|json] COMMAND\n\n" ++
    "Commands:\n" ++
    "  test                           Connect and bind without searching\n" ++
    "  auth -u USERNAME -p PASSWORD   Check a password\n" ++
    "  user-groups -u USERNAME        List the groups of a user\n" ++
    "  users                          List all users\n" ++
    "  groups                         List the members of all groups\n"

def Stop.exit : Stop → Exit
  | .help => { status := 0, stdout := usage }
  | .version => { status := 0, stdout := "dirauth " ++ programVersion ++ "\n" }
  | .misuse => { status := 2, stderr := usage }

def indented (s : String) : String :=
  "    " ++ String.ofList (s.toList.flatMap fun c => if c = '\n' then "\n    ".toList else [c])

def failureText : List String → String
  | [] => ""
  | [error] => "Error: " ++ error ++ "\n"
  | error :: causes =>
      "Error: " ++ error ++ "\n\nCaused by:\n" ++ String.intercalate "\n" (causes.map indented) ++
        "\n"

def Report.exit (report : Report) : Exit where
  status := if report.ok then 0 else 1
  stdout := report.stdout
  stderr := report.stderr ++ failureText report.failure

/-- The file of variables in the current directory. -/
def envFile : String := ".env"

def configuration (files : Files) (env : Environment) (invocation : Invocation) :
    Except Report Configuration :=
  match invocation.configPath? with
  | none => .ok (.ofEnvironment env)
  | some path =>
      match Configuration.ofFile files path with
      | .ok config => .ok config
      | .error e =>
          .error { failure := ["Failed to load configuration from " ++ path, e.message] }

def carryOut (files : Files) (config : Configuration) (invocation : Invocation) : Report :=
  ((invocation.command.run { format := invocation.format } config.settings).run
    (Wire.world (.ofFiles files) 0) { servers := [] }).result

def launch (files : Files) (env : Environment) (args : List String) : Exit :=
  let env := EnvFile.extend env (files envFile)
  match Invocation.read args env with
  | .error stop => stop.exit
  | .ok invocation =>
      match configuration files env invocation with
      | .error report => report.exit
      | .ok config => (carryOut files config invocation).exit

def filesRead (files : Files) (env : Environment) (args : List String) : List String :=
  let env := EnvFile.extend env (files envFile)
  let more :=
    match Invocation.read args env with
    | .error _ => []
    | .ok invocation =>
        let tlsPaths :=
          match configuration files env invocation with
          | .error _ => []
          | .ok config =>
              let tls := config.settings.tls
              [tls.caPath, tls.certPath, tls.keyPath].filterMap id
        invocation.configPath?.toList ++ tlsPaths
  envFile :: more

end DirectoryLogin.Command
