import DirectoryLogin.Client.Operation
import DirectoryLogin.Config.Encoding
import DirectoryLogin.Json.Printer

/-!
# Commands and their output

Each command carries out one directory operation and prints its result, as text for people or as
JSON for programs, and the error it ends with. A command fails exactly if its operation did; an
enumeration that stopped prints what it had collected.
-/

namespace DirectoryLogin.Text

/-! ## Terminal styles -/

/-- The styles that command output uses. -/
inductive Style where
  | bold
  | cyan
  | boldGreen
  deriving DecidableEq

namespace Style

def reset : List Char := ['\x1b', '[', '0', 'm']

def start : Style → List Char
  | .bold => ['\x1b', '[', '1', 'm']
  | .cyan => ['\x1b', '[', '3', '6', 'm']
  | .boldGreen => ['\x1b', '[', '1', ';', '3', '2', 'm']

/-- Sets the style again after every reset. -/
def renew (style : Style) : List Char → List Char
  | '\x1b' :: '[' :: '0' :: 'm' :: rest => reset ++ style.start ++ renew style rest
  | c :: rest => c :: renew style rest
  | [] => []

/-- The text in this style; plain where the output takes no colours. -/
def paint (style : Style) (colours : Bool) (s : String) : String :=
  if colours then String.ofList (style.start ++ style.renew s.toList ++ reset) else s

@[simp] theorem paint_plain (style : Style) (s : String) : style.paint false s = s := rfl

end Style

end DirectoryLogin.Text

namespace DirectoryLogin.Command

/-! ## Output -/

open Config (Settings)
open Directory (Membership Partial)
open Document (Value)
open Text (Style)

inductive Format where
  | text
  | json
  deriving DecidableEq

structure Manner where
  format : Format := .text
  /-- Text is styled. -/
  colours : Bool := false

/-- What a command prints, and the error with its causes if it fails. -/
structure Report where
  stdout : String := ""
  stderr : String := ""
  /-- Empty if the command succeeds. -/
  failure : List String := []
  deriving DecidableEq

namespace Report

def ok (report : Report) : Bool := report.failure.isEmpty

def line (s : String) : String := s ++ "\n"

def lines (items : List String) : String := String.join (items.map line)

def document (v : Value) : String := line (Json.pretty v)

def success (manner : Manner) (rest : String) : String :=
  line (Style.boldGreen.paint manner.colours "OK" ++ rest)

def ofProbe (manner : Manner) (settings : Settings) : Except Directory.Error Unit → Report
  | .error e =>
      { failure :=
          ["Connectivity test against " ++ String.intercalate ", " settings.urls ++ " failed",
           e.message] }
  | .ok () =>
      match manner.format with
      | .json =>
          { stdout := document (.table [("status", .text "ok"),
              ("servers", .list (settings.urls.map .text)),
              ("anonymous", .bool settings.anonymous)]) }
      | .text =>
          let name := if settings.anonymous then "anonymous" else settings.readerDn
          { stdout := success manner (" bound as " ++ Style.cyan.paint manner.colours name) }

/-- The members of the JSON object for a password check. -/
def loginMembers (username : String) : Except Directory.Error Unit → List (String × Value)
  | .ok () => [("username", .text username), ("authenticated", .bool true)]
  | .error e =>
      [("username", .text username), ("authenticated", .bool false), ("error", .text e.code)]

def ofLogin (manner : Manner) (username : String) (result : Except Directory.Error Unit) :
    Report where
  stdout :=
    match manner.format, result with
    | .json, result => document (.table (loginMembers username result))
    | .text, .ok () => success manner (" " ++ username ++ " authenticated")
    | .text, .error _ => ""
  failure :=
    match result with
    | .ok () => []
    | .error e => ["Authentication of " ++ username ++ " failed: " ++ e.message]

def ofUserGroups (manner : Manner) (username : String) :
    Except Directory.Error (List String) → Report
  | .error e => { failure := ["Group lookup for " ++ username ++ " failed", e.message] }
  | .ok groups =>
      match manner.format with
      | .json => { stdout := document (.list (groups.map .text)) }
      | .text =>
          if groups.isEmpty then
            { stderr :=
                line (Style.cyan.paint manner.colours username ++ " belongs to no groups") }
          else { stdout := lines groups }

/-- What an enumeration collected. -/
def collected {α : Type} : Except (Partial α) (List α) → List α
  | .ok items => items
  | .error failure => failure.collected

/-- The error of an enumeration that stopped. -/
def stopped {α : Type} (what items : String) : Except (Partial α) (List α) → List String
  | .ok _ => []
  | .error failure =>
      [s!"{what} enumeration stopped after {failure.collected.length} {items}: " ++
        failure.error.message]

def ofUsers (manner : Manner) (result : Except (Partial String) (List String)) : Report :=
  let users := collected result
  { stdout :=
      match manner.format with
      | .json => document (.list (users.map .text))
      | .text => lines users
    stderr :=
      match manner.format, result with
      | .text, .ok _ =>
          line (Style.cyan.paint manner.colours "Total:" ++ s!" {users.length} users")
      | _, _ => ""
    failure := stopped "User" "users" result }

def membershipValue (m : Membership) : Value :=
  .table [("name", .text m.name), ("group", .text m.group)]

def membershipLine (manner : Manner) (m : Membership) : String :=
  Style.bold.paint manner.colours m.group ++ "\t" ++ m.name

def ofGroups (manner : Manner) (result : Except (Partial Membership) (List Membership)) : Report :=
  let members := collected result
  { stdout :=
      match manner.format with
      | .json => document (.list (members.map membershipValue))
      | .text => lines (members.map (membershipLine manner))
    failure := stopped "Group" "memberships" result }

end Report

end DirectoryLogin.Command

namespace DirectoryLogin

/-! ## Commands -/

/-- What the program is asked to do. -/
inductive Command where
  /-- Connect and bind. -/
  | test
  /-- Check a password. -/
  | auth (username password : String)
  /-- List the groups of a user. -/
  | userGroups (username : String)
  /-- List all users. -/
  | users
  /-- List the members of all groups. -/
  | groups
  deriving DecidableEq

namespace Command

open Config (Settings)
open Session (Program)

def run (manner : Manner) (settings : Settings) : Command → Program Report
  | .test => do return .ofProbe manner settings (← Client.testConnectivity settings)
  | .auth username password => do
      return .ofLogin manner username (← Client.authenticate settings username password)
  | .userGroups username => do
      return .ofUserGroups manner username (← Client.userGroups settings username)
  | .users => do return .ofUsers manner (← Client.searchUsers settings)
  | .groups => do return .ofGroups manner (← Client.searchGroups settings)

end Command

end DirectoryLogin
