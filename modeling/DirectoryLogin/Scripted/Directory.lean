import DirectoryLogin.Session.World

/-!
# Scripted directories

A directory that answers by a script: which servers can be reached, which names and passwords are
let in, and what the searches under each base give. Filters and limits play no part, except that a
rule can be bound to the text of a filter.
-/

namespace DirectoryLogin.Scripted

open Directory (Entry SearchRequest SessionError)
open Session (Call Reply Step World)

/-- What a search under a base gives. -/
structure Rule where
  base : String
  /-- The only filter that the rule is for. -/
  filter? : Option String := none
  /-- The rule answers one search only. -/
  once : Bool := false
  answer : Except SessionError (List Entry) := .ok []

def Rule.accepts (rule : Rule) (request : SearchRequest) : Bool :=
  rule.base == request.base &&
    match rule.filter? with
    | none => true
    | some filter => filter == request.filter

/-- How a directory answers. -/
structure Script where
  unreachable : List String := []
  /-- The passwords by distinguished name. -/
  accounts : List (String × String) := []
  allowsEmptyPassword : Bool := false
  bindErrors : List (String × SessionError) := []
  anonymousError? : Option SessionError := none
  closeError? : Option String := none
  rules : List Rule := []

namespace Script

def connect (script : Script) (url : String) : Except SessionError Unit :=
  if script.unreachable.contains url then .error { message := "connection refused: " ++ url }
  else .ok ()

def bind (script : Script) (dn password : String) : Except SessionError Unit :=
  match script.bindErrors.lookup dn with
  | some error => .error error
  | none =>
      if script.accounts.lookup dn = some password ∧
          (password ≠ "" ∨ script.allowsEmptyPassword) then .ok ()
      else .error { code? := some 49, message := "rc=49: invalid credentials" }

def anonymousBind (script : Script) : Except SessionError Unit :=
  match script.anonymousError? with
  | some error => .error error
  | none => .ok ()

/-- The answer of the first rule for a search, and the rules that remain. -/
def answer (request : SearchRequest) : List Rule → Except SessionError (List Entry) × List Rule
  | [] => (.ok [], [])
  | rule :: others =>
      if rule.accepts request then (rule.answer, if rule.once then others else rule :: others)
      else
        let (found, rest) := answer request others
        (found, rule :: rest)

def close (script : Script) : Except SessionError Unit :=
  match script.closeError? with
  | some message => .error { message }
  | none => .ok ()

end Script

/-- The answer to a request for certificates and keys: none are needed, unless it is to fail. -/
def build (failure : Option String) : Except Directory.Error Transport.Material :=
  match failure with
  | some reason => .error (.config (.stated reason))
  | none => .ok {}

def world (buildFailure : Option String) : World Script where
  reply
    | .build _, script => (⟨[], build buildFailure⟩, script)
    | .connect url _ _, script => (⟨[], script.connect url⟩, script)
    | .simpleBind dn password, script => (⟨[], script.bind dn password⟩, script)
    | .anonymousBind, script => (⟨[], script.anonymousBind⟩, script)
    | .search request, script =>
        let (found, rules) := Script.answer request script.rules
        (⟨[], found⟩, { script with rules })
    | .close, script => (⟨[], script.close⟩, script)
    | .abort, script => (⟨[], ()⟩, script)

/-- What a step adds to the number of open sessions. -/
def opened : Step → Int
  | .asked (.connect ..) (.ok ()) => 1
  | .asked .close (.ok ()) => -1
  | .asked .abort _ => -1
  | _ => 0

end DirectoryLogin.Scripted
