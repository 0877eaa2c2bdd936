import DirectoryLogin.Command.Launch
import DirectoryLogin.Proofs.Operation
import DirectoryLogin.Proofs.RoundTrip
import DirectoryLogin.Scripted.Directory

/-!
# What commands report

A command does what its operation does and reports the result: it fails exactly if the operation
did, and an enumeration that stopped prints what it collected as one that came to its end would.
-/

namespace DirectoryLogin.Command

open Client (Operation)
open Config (Settings)
open Directory (Membership Partial)
open Document (Value)

namespace Report

theorem parse?_document {v : Value} (h : Json.Expressible v) :
    Json.parse? (document v) = some v := Json.parse?_pretty h "\n" (by simp [Json.isSpace])

/-- The output has the text of each item, once and in order, with the end of a line behind each. -/
inductive Listing {α : Type} (text : α → String) : List α → String → Prop
  | empty : Listing text [] ""
  | line (item : α) {items : List α} {rest : String} (h : Listing text items rest) :
      Listing text (item :: items) (text item ++ "\n" ++ rest)

theorem listing_lines {α : Type} (text : α → String) (items : List α) :
    Listing text items (lines (items.map text)) := by
  induction items with
  | nil => exact .empty
  | cons item rest ih =>
      have hlines : lines ((item :: rest).map text) =
          text item ++ "\n" ++ lines (rest.map text) := by
        rw [List.map_cons, lines, List.map_cons, String.join_cons]
        rfl
      rw [hlines]
      exact .line item ih

/-- The report shows the items that an enumeration found, in the same way whether or not it stopped
with an error. -/
structure Lists {α : Type} (format : Format) (what items : String) (text : α → String)
    (value : α → Value) (found : List α) (error? : Option Directory.Error) (report : Report) :
    Prop where
  listed : format = .text → Listing text found report.stdout
  written : format = .json → report.stdout = Json.pretty (.list (found.map value)) ++ "\n"
  decoded : format = .json → Json.parse? report.stdout = some (.list (found.map value))
  counted : ∀ e, error? = some e → report.failure =
    [what ++ " enumeration stopped after " ++ toString found.length ++ " " ++ items ++ ": " ++
      e.message]

/-- The report of an enumeration lists what it found, and the error that stopped it if any did. -/
def Enumerates {α : Type} (format : Format) (what items : String) (text : α → String)
    (value : α → Value) : Except (Partial α) (List α) → Report → Prop
  | .ok found, report => Lists format what items text value found none report
  | .error ⟨found, e⟩, report => Lists format what items text value found (some e) report

/-- The document says whether the password of the user was accepted. -/
structure SaysLogin (username : String) (result : Except Directory.Error Unit) (v : Value) :
    Prop where
  username : v.member? "username" = some (.text username)
  authenticated : v.member? "authenticated" = some (.bool result.isOk)
  error : v.member? "error" =
    match result with
    | .ok () => none
    | .error e => some (.text e.code)

end Report

/-- The operation that a command carries out. -/
def operation : Command → Operation
  | .test => .testConnectivity
  | .auth username password => .authenticate username password
  | .userGroups username => .userGroups username
  | .users => .searchUsers
  | .groups => .searchGroups

/-- The report of a command on the result of its operation. -/
def report (manner : Manner) (settings : Settings) : (command : Command) →
    Except command.operation.Failure command.operation.Value → Report
  | .test, result => .ofProbe manner settings result
  | .auth username _, result => .ofLogin manner username result
  | .userGroups username, result => .ofUserGroups manner username result
  | .users, result => .ofUsers manner result
  | .groups, result => .ofGroups manner result

/-- What the output of a command says of the result. -/
def Tells (format : Format) : (command : Command) →
    Except command.operation.Failure command.operation.Value → Report → Prop
  | .test, result, report | .userGroups _, result, report =>
      result.isOk = false → report.stdout = ""
  | .auth username _, result, report =>
      format = .json → ∃ v, Json.parse? report.stdout = some v ∧ Report.SaysLogin username result v
  | .users, result, report => Report.Enumerates format "User" "users" id .text result report
  | .groups, result, report =>
      Report.Enumerates format "Group" "memberships" (fun m => m.group ++ "\t" ++ m.name)
        (fun m => .table [("name", .text m.name), ("group", .text m.group)]) result report

/-- The report is faithful to the result. -/
structure Faithful (format : Format) (command : Command)
    (result : Except command.operation.Failure command.operation.Value) (report : Report) :
    Prop where
  succeeds : report.ok = result.isOk
  status : report.exit.status = if result.isOk then 0 else 1
  /-- What is printed stays printed where the command fails. -/
  printed : report.exit.stdout = report.stdout
  explained : ∀ error causes, report.failure = error :: causes →
    ∃ before after, report.exit.stderr = before ++ "Error: " ++ error ++ "\n" ++ after
  tells : command.Tells format result report

/-! ## Documents -/

private theorem expressible_list {α : Type} {value : α → Value}
    (hvalue : ∀ item, Json.Expressible (value item)) (items : List α) :
    Json.Expressible (.list (items.map value)) := by
  refine .list fun v hv => ?_
  obtain ⟨item, -, rfl⟩ := List.mem_map.mp hv
  exact hvalue item

private theorem expressible_membershipValue (m : Membership) :
    Json.Expressible (Report.membershipValue m) := by
  refine .table (by simp) ?_
  intro member hmember
  rcases List.mem_pair.mp hmember with rfl | rfl <;> exact .text _

private theorem expressible_loginMembers (username : String)
    (result : Except Directory.Error Unit) :
    Json.Expressible (.table (Report.loginMembers username result)) := by
  refine .table ?_ ?_
  · cases result <;> simp [Report.loginMembers]
  · intro member hmember
    cases result with
    | error e =>
        simp only [Report.loginMembers, List.mem_cons, List.not_mem_nil, or_false] at hmember
        rcases hmember with rfl | rfl | rfl
        · exact .text username
        · exact .bool false
        · exact .text e.code
    | ok =>
        rcases List.mem_pair.mp hmember with rfl | rfl
        · exact .text username
        · exact .bool true

namespace Report

private theorem lists_of {α : Type} {format : Format} {what items : String} {text : α → String}
    {value : α → Value} {found : List α} {error? : Option Directory.Error} {report : Report}
    (hvalue : ∀ item, Json.Expressible (value item))
    (htext : format = .text → report.stdout = lines (found.map text))
    (hjson : format = .json → report.stdout = document (.list (found.map value)))
    (hfailure : ∀ e, error? = some e → report.failure = stopped what items (.error ⟨found, e⟩)) :
    Lists format what items text value found error? report where
  listed h := by
    rw [htext h]
    exact listing_lines text found
  written := hjson
  decoded h := by
    rw [hjson h]
    exact parse?_document (expressible_list hvalue found)
  counted e he := by
    rw [hfailure e he]
    simp [stopped, toString]

private theorem enumerates_of {α : Type} {format : Format} {what items : String}
    {text : α → String} {value : α → Value} {result : Except (Partial α) (List α)}
    {report : Report} (hvalue : ∀ item, Json.Expressible (value item))
    (htext : format = .text → report.stdout = lines ((collected result).map text))
    (hjson : format = .json → report.stdout = document (.list ((collected result).map value)))
    (hfailure : report.failure = stopped what items result) :
    Enumerates format what items text value result report := by
  cases result with
  | ok found => exact lists_of hvalue htext hjson nofun
  | error failure =>
      refine lists_of hvalue htext hjson fun e he => ?_
      cases he
      exact hfailure

end Report

private theorem saysLogin (username : String) (result : Except Directory.Error Unit) :
    Report.SaysLogin username result (.table (Report.loginMembers username result)) where
  username := by cases result <;> rfl
  authenticated := by cases result <;> rfl
  error := by cases result <;> rfl

private theorem explained_exit {report : Report} {error : String} {causes : List String}
    (h : report.failure = error :: causes) :
    ∃ before after, report.exit.stderr = before ++ "Error: " ++ error ++ "\n" ++ after := by
  rw [Report.exit, h]
  cases causes with
  | nil => exact ⟨report.stderr, "", by simp [failureText, String.append_assoc]⟩
  | cons cause others =>
      have hparts : "\n\nCaused by:\n" = "\n" ++ "\nCaused by:\n" := rfl
      refine ⟨report.stderr, "\nCaused by:\n" ++
        String.intercalate "\n" ((cause :: others).map indented) ++ "\n", ?_⟩
      simp only [failureText, hparts, String.append_assoc]

private theorem tells_report (format : Format) (settings : Settings) (command : Command)
    (result : Except command.operation.Failure command.operation.Value) :
    command.Tells format result (command.report { format } settings result) := by
  cases command with
  | test | userGroups =>
      intro hfailed
      cases result with
      | error e => rfl
      | ok => cases hfailed
  | auth username password =>
      rintro rfl
      exact ⟨_, Report.parse?_document (expressible_loginMembers username result),
        saysLogin username result⟩
  | users =>
      refine Report.enumerates_of .text ?_ ?_ rfl
      · rintro rfl
        rw [List.map_id]
        rfl
      · rintro rfl
        rfl
  | groups =>
      refine Report.enumerates_of expressible_membershipValue ?_ ?_ rfl
      · rintro rfl
        rfl
      · rintro rfl
        rfl

private theorem ok_report (manner : Manner) (settings : Settings) (command : Command)
    (result : Except command.operation.Failure command.operation.Value) :
    (command.report manner settings result).ok = result.isOk := by
  obtain ⟨format, colours⟩ := manner
  cases command with
  | test => cases result <;> cases format <;> rfl
  | userGroups username =>
      cases result with
      | error e => rfl
      | ok groups =>
          -- No groups are a success too, with a line for the reader and nothing on the output.
          cases format with
          | json => rfl
          | text => cases groups <;> rfl
  | auth | users | groups => cases result <;> rfl

/-- Every command carries out its operation and reports the result as it is. -/
theorem outcome_faithful (format : Format) (settings : Settings) (command : Command) :
    command.run { format } settings =
        command.report { format } settings <$> command.operation.program settings ∧
      ∀ result, Faithful format command result (command.report { format } settings result) := by
  constructor
  · cases command <;> rfl
  · intro result
    have hok := ok_report { format } settings command result
    exact {
      succeeds := hok
      status := by rw [Report.exit, hok]
      printed := rfl
      explained := fun _ _ => explained_exit
      tells := tells_report format settings command result }

/-- The users under a first base are printed, whether or not the search under a second one fails. -/
theorem outcome_faithful_users :
    let settings : Settings := {
      urls := ["ldap1"]
      anonymous := true
      userSearches := [{ baseDn := "ou=staff" }, { baseDn := "ou=guests" }] }
    let user (name : String) : Directory.Entry :=
      { dn := "uid=" ++ name, attributes := [("uid", [name])] }
    let staff : Scripted.Rule := { base := "ou=staff", answer := .ok [user "ada", user "bob"] }
    let broken : Scripted.Rule := { base := "ou=guests", answer := .error ⟨none, "gone"⟩ }
    let listing (rules : List Scripted.Rule) :=
      ((Command.users.run {} settings).run (Scripted.world none) { rules }).result
    let e : Directory.Error := .operation (.search "ou=guests" ⟨none, "gone"⟩)
    Faithful .text .users (.ok ["ada", "bob"]) (listing [staff]) ∧
      Faithful .text .users (.error ⟨["ada", "bob"], e⟩) (listing [staff, broken]) ∧
      (listing [staff]).stdout = "ada\nbob\n" ∧
      (listing [staff, broken]).stdout = "ada\nbob\n" := by
  intro settings user staff broken listing e
  have h := (outcome_faithful .text settings .users).2
  exact ⟨h (.ok ["ada", "bob"]), h (.error ⟨["ada", "bob"], e⟩), rfl, rfl⟩

end DirectoryLogin.Command
