import DirectoryLogin.Command.Report
import DirectoryLogin.Config.Environment

/-!
# Command lines

A command line holds options and one command, which may have options of its own. The options for all
commands may stand before or after the command, once each; after it they count more. What the
command line leaves out is taken from the environment.
-/

namespace DirectoryLogin.Command

open Config (Environment)

/-- The names of an option with a value. -/
structure OptionName where
  long : String
  short? : Option Char := none
  deriving DecidableEq

def configOption : OptionName := ⟨"config", some 'c'⟩

def levelOption : OptionName := ⟨"log-level", none⟩

def outputOption : OptionName := ⟨"output", some 'o'⟩

def usernameOption : OptionName := ⟨"username", some 'u'⟩

def passwordOption : OptionName := ⟨"password", some 'p'⟩

/-- The options that may stand anywhere. -/
def globalOptions : List OptionName := [configOption, levelOption, outputOption]

/-- Why a command line does not lead to a command. -/
inductive Stop where
  | help
  | version
  | misuse
  deriving DecidableEq

/-- What may stand at one level of a command line. -/
structure Grammar where
  options : List OptionName
  /-- The level knows the switch for the version. -/
  hasVersion : Bool := false

/-- The values of options by their long names. -/
abbrev Values := List (String × String)

/-- The text can be the value of an option that stands before it. -/
def isValue (arg : String) : Bool := arg == "-" || arg.toList.head? != some '-'

def format? : String → Option Format
  | "text" => some .text
  | "json" => some .json
  | _ => none

/-- Adds the value of an option, which must be new and, for the form of the output, known. -/
def addValue (found : Values) (option : OptionName) (value : String) : Except Stop Values :=
  if (found.lookup option.long).isSome then .error .misuse
  else if option = outputOption ∧ (format? value).isNone then .error .misuse
  else .ok ((option.long, value) :: found)

inductive Role where
  | stop (reason : Stop)
  /-- An option with its value. -/
  | complete (option : OptionName) (value : String)
  /-- An option whose value is the next argument. -/
  | pending (option : OptionName)
  /-- The end of the options. -/
  | separator
  | plain

def longRole (grammar : Grammar) (body : List Char) : Role :=
  let name := String.ofList (body.takeWhile (· != '='))
  let value? := match body.dropWhile (· != '=') with
    | _ :: value => some (String.ofList value)
    | [] => none
  match grammar.options.find? (·.long == name), value? with
  | some option, some value => .complete option value
  | some option, none => .pending option
  | none, none =>
      if name = "help" then .stop .help
      else if name = "version" ∧ grammar.hasVersion then .stop .version
      else .stop .misuse
  | none, some _ => .stop .misuse

/-- Reads an argument that begins with one dash. The value may follow at once, or after an equals
sign. -/
def shortRole (grammar : Grammar) (letter : Char) (body : List Char) : Role :=
  match grammar.options.find? (·.short? == some letter), body with
  | some option, [] => .pending option
  | some option, '=' :: value => .complete option (String.ofList value)
  | some option, value => .complete option (String.ofList value)
  | none, _ =>
      if letter = 'h' then .stop .help
      else if letter = 'V' ∧ grammar.hasVersion then .stop .version
      else .stop .misuse

def role (grammar : Grammar) (arg : String) : Role :=
  match arg.toList with
  | ['-', '-'] => .separator
  | '-' :: '-' :: body => longRole grammar body
  | '-' :: letter :: body => shortRole grammar letter body
  | _ => .plain

/-- How the options at the front of a command line end. -/
inductive Ending where
  | stop (reason : Stop)
  /-- What follows the options. -/
  | rest (args : List String)

/-- The options at the front of a command line with their values, in order, and how they end. The
value of `pending` is the next argument. -/
def scan (grammar : Grammar) (pending : Option OptionName) :
    List String → List (OptionName × String) × Ending
  | [] => ([], if pending.isSome then .stop .misuse else .rest [])
  | arg :: args =>
      match pending with
      | some option =>
          if isValue arg then
            let (found, ending) := scan grammar none args
            ((option, arg) :: found, ending)
          else ([], .stop .misuse)
      | none =>
          match role grammar arg with
          | .stop reason => ([], .stop reason)
          | .separator => ([], if args.isEmpty then .rest [] else .stop .misuse)
          | .plain => ([], .rest (arg :: args))
          | .pending option => scan grammar (some option) args
          | .complete option value =>
              let (found, ending) := scan grammar none args
              ((option, value) :: found, ending)

/-- Reads the options at the front of a command line: their values, and what follows. -/
def readOptions (grammar : Grammar) (args : List String) : Except Stop (Values × List String) := do
  let (found, ending) := scan grammar none args
  let values ← found.foldlM (fun values (option, value) => addValue values option value) []
  match ending with
  | .stop reason => .error reason
  | .rest args => .ok (values, args)

/-- The options of a command beside the global ones; `none` if there is no such command. -/
def ownOptions? : String → Option (List OptionName)
  | "test" | "users" | "groups" => some []
  | "auth" => some [usernameOption, passwordOption]
  | "user-groups" => some [usernameOption]
  | _ => none

/-- The value of an option at one level, or else that of a variable, which has to be text. -/
def valueOr (values : Values) (option : OptionName) (env : Environment) (variableName : String) :
    Except Stop (Option String) :=
  match values.lookup option.long, env.lookup variableName with
  | some value, _ => .ok (some value)
  | none, none => .ok none
  | none, some octets =>
      match Text.ofOctets? octets with
      | some value => .ok (some value)
      | none => .error .misuse

/-- The value of a global option, before and after the command, or else that of a variable. -/
def globalValue (before after : Values) (option : OptionName) (env : Environment)
    (variableName : String) : Except Stop (Option String) := do
  let outer ← valueOr before option env variableName
  let inner ← valueOr after option env variableName
  return ((after.lookup option.long).or (before.lookup option.long)).or (inner.or outer)

def needed (value? : Option String) : Except Stop String :=
  match value? with
  | some value => .ok value
  | none => .error .misuse

def command (name : String) (values : Values) (env : Environment) : Except Stop Command :=
  match name with
  | "test" => .ok .test
  | "users" => .ok .users
  | "groups" => .ok .groups
  | "auth" => do
      let username ← needed (values.lookup usernameOption.long)
      let password ← valueOr values passwordOption env "DIRAUTH_USER_PASSWORD"
      return .auth username (← needed password)
  | "user-groups" => do return .userGroups (← needed (values.lookup usernameOption.long))
  | _ => .error .misuse

/-- What a command line asks for. -/
structure Invocation where
  command : Command
  /-- The configuration file; the environment configures if there is none. -/
  configPath? : Option String := none
  logLevel? : Option String := none
  format : Format := .text

/-- Reads a request for help on a command. -/
def helpOn : List String → Stop
  | [] | ["help"] => .help
  | [name] => if (ownOptions? name).isSome then .help else .misuse
  | _ => .misuse

def Invocation.read (args : List String) (env : Environment) : Except Stop Invocation := do
  let (before, rest) ← readOptions { options := globalOptions, hasVersion := true } args
  match rest with
  | [] => .error .misuse
  | "help" :: topic => .error (helpOn topic)
  | name :: rest =>
      match ownOptions? name with
      | none => .error .misuse
      | some own =>
          let (after, rest) ← readOptions { options := own ++ globalOptions } rest
          if !rest.isEmpty then .error .misuse
          else
            let command ← Command.command name after env
            let configPath? ← globalValue before after configOption env "DIRAUTH_CONFIG"
            let logLevel? ← globalValue before after levelOption env "DIRAUTH_LOG_LEVEL"
            let output := (after.lookup outputOption.long).or (before.lookup outputOption.long)
            return { command, configPath?, logLevel?, format := (output.bind format?).getD .text }

end DirectoryLogin.Command
