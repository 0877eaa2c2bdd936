import DirectoryLogin.Client.Opening
import DirectoryLogin.Filter

/-!
# Directory operations

The six operations that a client offers. Each opens a connection, binds, does its part and closes
the connection before it returns, and nothing is kept between them.
-/

namespace DirectoryLogin.Client

/-! ## Looking up one user -/

open Config (GroupSearch Limits Settings UserSearch)
open Directory (Entry Membership Partial SearchRequest dnAttribute groupNameAttribute)
open Session (Connection Program)

def userRequest (limits : Limits) (username : String) (search : UserSearch) : SearchRequest where
  base := search.baseDn
  filter := Filter.equality search.filter search.loginAttribute username
  attributes := [dnAttribute]
  limits

/-- Searches for the user with a login name: the distinguished name of the entry. -/
def searchUser (connection : Connection) (limits : Limits) (username : String) :
    List UserSearch → Program (Except Directory.Error String)
  | [] => return .error .userNotFound
  | search :: others => do
      let request := userRequest limits username search
      Program.log (.seekingUser request.filter)
      match ← connection.search request with
      | .ok [entry] =>
          Program.log (.userFound entry.dn)
          return .ok entry.dn
      | .ok [] =>
          Program.log (.noUser username search.baseDn)
          searchUser connection limits username others
      | .ok (_ :: _ :: more) =>
          Program.log (.manyUsers (more.length + 2) username search.baseDn)
          searchUser connection limits username others
      | .error cause =>
          match ← Policy.userResolution.absorb search.baseDn cause with
          | .error e => return .error e
          | .ok () => searchUser connection limits username others

def groupRequest (limits : Limits) (dn : String) (search : GroupSearch) : SearchRequest where
  base := search.baseDn
  filter := Filter.equality search.filter search.memberAttribute dn
  attributes := [groupNameAttribute]
  limits

def addOnce (names : List String) (name : String) : List String :=
  if names.contains name then names else names ++ [name]

def addGroups (names : List String) (entries : List Entry) : List String :=
  (entries.filterMap (·.firstValue? groupNameAttribute)).foldl addOnce names

/-- Searches for the groups of a user, beside those already found. -/
def searchUserGroups (connection : Connection) (limits : Limits) (dn : String)
    (found : List String) : List GroupSearch → Program (Except Directory.Error (List String))
  | [] => do
      Program.log (.groupsFound found.length dn)
      return .ok found
  | search :: others => do
      let request := groupRequest limits dn search
      Program.log (.seekingGroups request.filter)
      match ← connection.search request with
      | .ok entries => searchUserGroups connection limits dn (addGroups found entries) others
      | .error cause =>
          match ← Policy.userGroups.absorb search.baseDn cause with
          | .error e => return .error e
          | .ok () => searchUserGroups connection limits dn found others

def lookupUser (settings : Settings) (username : String) (connection : Connection) :
    Program (Except Directory.Error String) :=
  searchUser connection settings.limits username settings.userSearches

def lookupGroups (settings : Settings) (username : String) (connection : Connection) :
    Program (Except Directory.Error (List String)) := do
  match ← lookupUser settings username connection with
  | .error e => return .error e
  | .ok dn => searchUserGroups connection settings.limits dn [] settings.groupSearches

/-- Checks the password of a user by a bind with it. Unknown users are not told apart from wrong
passwords. An empty password is never tried, since a bind without a password proves nothing. -/
def verifyPassword (settings : Settings) (username password : String) (connection : Connection) :
    Program (Except Directory.Error Unit) := do
  match ← lookupUser settings username connection with
  | .error .userNotFound => return .error .unauthorized
  | .error e => return .error e
  | .ok dn =>
      if password.isEmpty then return .error .unauthorized
      else
        match ← connection.simpleBind dn password with
        | .ok () => return .ok ()
        | .error cause =>
            Program.log (.userRefused dn cause)
            return .error .unauthorized

/-! ## Enumerating users and groups -/

def usersRequest (limits : Limits) (search : UserSearch) : SearchRequest where
  base := search.baseDn
  filter := search.filter
  attributes := [dnAttribute, search.loginAttribute]
  limits

/-- The login names of entries, each the first value of the attribute. -/
def loginNames (loginAttribute : String) : List Entry → Program (List String)
  | [] => return []
  | entry :: rest =>
      match entry.firstValue? loginAttribute with
      | some name => do return name :: (← loginNames loginAttribute rest)
      | none => do
          Program.log (.attributeMissing entry.dn loginAttribute)
          loginNames loginAttribute rest

def membersRequest (limits : Limits) (search : GroupSearch) : SearchRequest where
  base := search.baseDn
  filter := search.filter
  attributes := [groupNameAttribute, search.memberAttribute]
  limits

/-- The members of group entries, each with the common name of its group. -/
def memberships (memberAttribute : String) : List Entry → Program (List Membership)
  | [] => return []
  | entry :: rest =>
      match entry.firstValue? groupNameAttribute with
      | some group => do
          let others ← memberships memberAttribute rest
          return (entry.values memberAttribute).map (⟨·, group⟩) ++ others
      | none => do
          Program.log (.groupUnnamed entry.dn)
          memberships memberAttribute rest

/-- Searches bases in order and collects what their entries yield, beside what is there already. -/
def enumerate {α β : Type} (policy : Policy) (connection : Connection) (request : β → SearchRequest)
    (yield : β → List Entry → Program (List α)) (found : List α) :
    List β → Program (Except (Partial α) (List α))
  | [] => return .ok found
  | search :: others => do
      match ← connection.search (request search) with
      | .ok entries =>
          let more ← yield search entries
          enumerate policy connection request yield (found ++ more) others
      | .error cause =>
          match ← policy.absorb (request search).base cause with
          | .error e => return .error ⟨found, e⟩
          | .ok () => enumerate policy connection request yield found others

def enumerateUsers (settings : Settings) (connection : Connection) :
    Program (Except (Partial String) (List String)) :=
  enumerate .userEnumeration connection (usersRequest settings.limits)
    (fun search => loginNames search.loginAttribute) [] settings.userSearches

def enumerateMemberships (settings : Settings) (connection : Connection) :
    Program (Except (Partial Membership) (List Membership)) :=
  enumerate .groupEnumeration connection (membersRequest settings.limits)
    (fun search => memberships search.memberAttribute) [] settings.groupSearches

/-! ## The operations -/

def noteLogin (username : String) : Except Directory.Error Unit → Program Unit
  | .ok () => Program.log (.authenticated username)
  | .error e => Program.log (.notAuthenticated username e)

def authenticate (settings : Settings) (username password : String) :
    Program (Except Directory.Error Unit) :=
  withConnection settings id (asReader settings id (verifyPassword settings username password))
    (noteLogin username)

def resolveUser (settings : Settings) (username : String) :
    Program (Except Directory.Error String) :=
  withConnection settings id (asReader settings id (lookupUser settings username)) silently

/-- The names of the groups that a user belongs to, in the order of the searches, each once. -/
def userGroups (settings : Settings) (username : String) :
    Program (Except Directory.Error (List String)) :=
  withConnection settings id (asReader settings id (lookupGroups settings username)) silently

def searchUsers (settings : Settings) : Program (Except (Partial String) (List String)) :=
  withConnection settings .ofError (asReader settings .ofError (enumerateUsers settings)) silently

def searchGroups (settings : Settings) : Program (Except (Partial Membership) (List Membership)) :=
  withConnection settings .ofError (asReader settings .ofError (enumerateMemberships settings))
    silently

def bindAnonymously (connection : Connection) : Program (Except Directory.Error Unit) := do
  match ← connection.anonymousBind with
  | .ok () => return .ok ()
  | .error cause =>
      Program.log (.anonymousRefused connection.url cause)
      return .error (.config (.anonymous cause))

/-- Binds as an operation would, or without a name where searches are anonymous. -/
def probe (settings : Settings) (connection : Connection) : Program (Except Directory.Error Unit) :=
  if settings.anonymous then bindAnonymously connection else bindReader settings connection

def noteProbe : Except Directory.Error Unit → Program Unit
  | .ok () => Program.log .connectivityConfirmed
  | .error _ => return ()

def testConnectivity (settings : Settings) : Program (Except Directory.Error Unit) :=
  withConnection settings id (probe settings) noteProbe

end DirectoryLogin.Client
