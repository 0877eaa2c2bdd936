import DirectoryLogin.Proofs.Searching

/-!
# Collecting from searches

The searches for the groups of a user and the enumerations, exchange by exchange: which searches are
made, and what is made of their answers. The groups of a user are searched for to the end, an
enumeration up to the first search that fails.
-/

namespace DirectoryLogin.Session

open Directory (Entry SearchRequest SessionError)

def Exchange.search? : Exchange → Option (SearchRequest × Except SessionError (List Entry))
  | ⟨.search request, answer⟩ => some (request, answer)
  | ⟨.build _, _⟩ | ⟨.connect .., _⟩ | ⟨.simpleBind .., _⟩ | ⟨.anonymousBind, _⟩ | ⟨.close, _⟩
  | ⟨.abort, _⟩ => none

/-- The entries that a search found; none if it failed. -/
def Exchange.entries (x : Exchange) : List Entry :=
  match x.search? with
  | some (_, .ok entries) => entries
  | _ => []

end DirectoryLogin.Session

namespace DirectoryLogin.Client

open Config (GroupSearch Limits Settings UserSearch)
open Directory (Entry Membership OperationFault Partial SearchRequest groupNameAttribute)
open Session

section Requests

variable {β : Type} (request : β → SearchRequest) (search : β)

def Asked (x : Exchange) : Prop := ∃ answer, x = ⟨.search (request search), answer⟩

def Answered (x : Exchange) : Prop := ∃ entries, x = ⟨.search (request search), .ok entries⟩

def Failed (x : Exchange) (fault : OperationFault) : Prop :=
  ∃ cause, x = ⟨.search (request search), .error cause⟩ ∧
    fault = .search (request search).base cause

end Requests

/-! ## The groups of a user -/

theorem addGroups_append (names : List String) (entries more : List Entry) :
    addGroups names (entries ++ more) = addGroups (addGroups names entries) more := by
  simp only [addGroups, List.filterMap_append, List.foldl_append]

theorem yields_searchUserGroups (url : String) (limits : Limits) (dn : String)
    (found : List String) (searches : List GroupSearch) (xs : List Exchange)
    (result : Except Directory.Error (List String)) :
    (searchUserGroups (.opened url) limits dn found searches).Yields xs result ↔
      List.Forall₂ (Asked (groupRequest limits dn)) searches xs ∧
        result = .ok (addGroups found (xs.flatMap Exchange.entries)) := by
  induction searches generalizing found xs result with
  | nil =>
      rw [List.forall₂_nil_left_iff]
      constructor
      · intro hyields
        obtain ⟨rfl, rfl⟩ := hyields
        exact ⟨rfl, rfl⟩
      · intro hasked
        obtain ⟨rfl, rfl⟩ := hasked
        exact ⟨rfl, rfl⟩
  | cons search others ih =>
      -- Whatever the first search gave, the others go on from what it added.
      have next (answer) (rest : List Exchange) :
          addGroups found ((⟨.search (groupRequest limits dn search), answer⟩ :: rest).flatMap
            Exchange.entries) =
          addGroups (addGroups found (Exchange.entries ⟨.search (groupRequest limits dn search),
            answer⟩)) (rest.flatMap Exchange.entries) := by
        rw [List.flatMap_cons, addGroups_append]
      rw [searchUserGroups]
      constructor
      · intro hyields
        obtain ⟨answer, rest, rfl, h⟩ := hyields
        rw [next]
        cases answer with
        | ok entries =>
            obtain ⟨hasked, rfl⟩ := (ih _ _ _).mp h
            exact ⟨.cons ⟨_, rfl⟩ hasked, rfl⟩
        | error cause =>
            obtain ⟨hasked, rfl⟩ := (ih _ _ _).mp h
            exact ⟨.cons ⟨_, rfl⟩ hasked, rfl⟩
      · intro hasked
        obtain ⟨h, rfl⟩ := hasked
        cases h with
        | cons hsearch hothers =>
            obtain ⟨answer, rfl⟩ := hsearch
            rw [next]
            refine ⟨answer, _, rfl, ?_⟩
            cases answer with
            | ok entries => exact (ih _ _ _).mpr ⟨hothers, rfl⟩
            | error cause => exact (ih _ _ _).mpr ⟨hothers, rfl⟩

/-- How the groups of a user are looked up on the session. -/
inductive GroupLookup (settings : Settings) (username : String) :
    List Exchange → Except Directory.Error (List String) → Prop
  | unknown {xs} (h : List.Forall₂ (PassedOver settings.limits username) settings.userSearches xs) :
      GroupLookup settings username xs (.error .userNotFound)
  | found {xs ys dn} (h : InTurn (PassedOver settings.limits username)
      (Found settings.limits username) settings.userSearches xs (some dn))
      (groups : List.Forall₂ (Asked (groupRequest settings.limits dn)) settings.groupSearches ys) :
      GroupLookup settings username (xs ++ ys)
        (.ok (addGroups [] (ys.flatMap Exchange.entries)))

theorem yields_lookupGroups (settings : Settings) (username : String) (url : String)
    (xs : List Exchange) (result : Except Directory.Error (List String)) :
    (lookupGroups settings username (.opened url)).Yields xs result ↔
      GroupLookup settings username xs result := by
  unfold lookupGroups lookupUser
  rw [Program.yields_bind]
  simp only [yields_searchUser]
  constructor
  · intro hyields
    obtain ⟨ys, zs, _, ⟨found, hfound, rfl⟩, hzs, rfl⟩ := hyields
    cases found with
    | none =>
        obtain ⟨rfl, rfl⟩ := hzs
        rw [List.append_nil]
        exact .unknown (inTurn_none_iff.mp hfound)
    | some dn =>
        obtain ⟨hgroups, rfl⟩ := (yields_searchUserGroups _ _ _ _ _ _ _).mp hzs
        exact .found hfound hgroups
  · intro hlookup
    cases hlookup with
    | unknown h =>
        exact ⟨xs, [], _, ⟨none, inTurn_none_iff.mpr h, rfl⟩, ⟨rfl, rfl⟩, (List.append_nil xs).symm⟩
    | found h groups =>
        refine ⟨_, _, _, ⟨_, h, rfl⟩, ?_, rfl⟩
        exact (yields_searchUserGroups _ _ _ _ _ _ _).mpr ⟨groups, rfl⟩

/-! ## Enumerations -/

/-- What the entries of the searches yield, in order. -/
def collected {α β : Type} (items : β → Entry → List α) (searches : List β) (xs : List Exchange) :
    List α :=
  (List.zipWith (fun search x => x.entries.flatMap (items search)) searches xs).flatten

def concluded {α : Type} (items : List α) : Option OperationFault → Except (Partial α) (List α)
  | none => .ok items
  | some fault => .error ⟨items, .operation fault⟩

theorem enumerate_cons {α β : Type} (url : String) (request : β → SearchRequest)
    (yield : β → List Entry → Program (List α)) (found : List α) (search : β) (others : List β) :
    enumerate .failFast (.opened url) request yield found (search :: others) =
      .ask (some (.opened url)) (.search (request search)) fun
        | .ok entries => yield search entries >>= fun more =>
            enumerate .failFast (.opened url) request yield (found ++ more) others
        | .error cause => .note (.baseFailed (request search).base cause)
            (.done (.error ⟨found, .operation (.search (request search).base cause)⟩)) := by
  rw [enumerate, Connection.search_opened, Program.ask_bind]
  congr 1
  funext answer
  cases answer <;> rfl

theorem yields_enumerate {α β : Type} {url : String} {request : β → SearchRequest}
    {yield : β → List Entry → Program (List α)} {items : β → Entry → List α}
    (hyield : ∀ search entries xs more, (yield search entries).Yields xs more ↔
      xs = [] ∧ more = entries.flatMap (items search))
    (found : List α) (searches : List β) (xs : List Exchange)
    (result : Except (Partial α) (List α)) :
    (enumerate .failFast (.opened url) request yield found searches).Yields xs result ↔
      ∃ broken, InTurn (Answered request) (Failed request) searches xs broken ∧
        result = concluded (found ++ collected items searches xs) broken := by
  induction searches generalizing found xs with
  | nil =>
      rw [inTurn_nil_iff]
      refine and_congr_right ?_
      rintro rfl
      rw [collected, List.zipWith_nil_left, List.flatten_nil, List.append_nil]
      rfl
  | cons search others ih =>
      have next (entries : List Entry) (rest : List Exchange) :
          found ++ collected items (search :: others)
              (⟨.search (request search), .ok entries⟩ :: rest) =
            found ++ entries.flatMap (items search) ++ collected items others rest := by
        simp [collected, Exchange.entries, Exchange.search?]
      -- A search that failed collects nothing.
      have last (cause) : found ++ collected items (search :: others)
          [⟨.search (request search), .error cause⟩] = found := by
        simp [collected, Exchange.entries, Exchange.search?]
      rw [enumerate_cons, inTurn_cons_iff]
      constructor
      · rintro ⟨answer, rest, rfl, h⟩
        cases answer with
        | ok entries =>
            obtain ⟨_, zs, more, hmore, hzs, rfl⟩ := (Program.yields_bind _ _ _ _).mp h
            obtain ⟨rfl, rfl⟩ := (hyield _ _ _ _).mp hmore
            rw [List.nil_append, next]
            exact .inr ⟨_, zs, rfl, ⟨entries, rfl⟩, (ih _ _).mp hzs⟩
        | error cause =>
            obtain ⟨rfl, rfl⟩ := h
            exact .inl ⟨_, _, rfl, ⟨cause, rfl, rfl⟩, by rw [last]; rfl⟩
      · rintro (⟨_, _, rfl, ⟨cause, rfl, rfl⟩, rfl⟩ | ⟨_, rest, rfl, ⟨entries, rfl⟩, h⟩)
        · rw [last]
          exact ⟨.error cause, [], rfl, rfl, rfl⟩
        · rw [next] at h
          refine ⟨.ok entries, rest, rfl, (Program.yields_bind _ _ _ _).mpr ?_⟩
          exact ⟨[], rest, _, (hyield _ _ _ _).mpr ⟨rfl, rfl⟩, (ih _ _).mpr h, rfl⟩

def loginName (search : UserSearch) (entry : Entry) : List String :=
  (entry.firstValue? search.loginAttribute).toList

private theorem yields_loginNames (search : UserSearch) (entries : List Entry) (xs : List Exchange)
    (names : List String) : (loginNames search.loginAttribute entries).Yields xs names ↔
      xs = [] ∧ names = entries.flatMap (loginName search) := by
  induction entries generalizing xs names with
  | nil => exact Iff.rfl
  | cons entry rest ih =>
      rw [loginNames, List.flatMap_cons, loginName]
      cases entry.firstValue? search.loginAttribute with
      | some name =>
          rw [Program.yields_bind]
          simp only [ih]
          constructor
          · intro hyields
            obtain ⟨_, _, _, ⟨rfl, rfl⟩, ⟨rfl, rfl⟩, rfl⟩ := hyields
            exact ⟨rfl, rfl⟩
          · intro heq
            obtain ⟨rfl, rfl⟩ := heq
            exact ⟨[], [], _, ⟨rfl, rfl⟩, ⟨rfl, rfl⟩, rfl⟩
      | none => exact ih xs names

/-- The members that a group's entry yields, each with the name of the group. -/
def groupMembers (search : GroupSearch) (entry : Entry) : List Membership :=
  match entry.firstValue? groupNameAttribute with
  | some group => (entry.values search.memberAttribute).map (⟨·, group⟩)
  | none => []

private theorem yields_memberships (search : GroupSearch) (entries : List Entry)
    (xs : List Exchange) (members : List Membership) :
    (memberships search.memberAttribute entries).Yields xs members ↔
      xs = [] ∧ members = entries.flatMap (groupMembers search) := by
  induction entries generalizing xs members with
  | nil => exact Iff.rfl
  | cons entry rest ih =>
      rw [memberships, List.flatMap_cons, groupMembers]
      cases entry.firstValue? groupNameAttribute with
      | some group =>
          rw [Program.yields_bind]
          simp only [ih]
          constructor
          · intro hyields
            obtain ⟨_, _, _, ⟨rfl, rfl⟩, ⟨rfl, rfl⟩, rfl⟩ := hyields
            exact ⟨rfl, rfl⟩
          · intro heq
            obtain ⟨rfl, rfl⟩ := heq
            exact ⟨[], [], _, ⟨rfl, rfl⟩, ⟨rfl, rfl⟩, rfl⟩
      | none => exact ih xs members

theorem yields_enumerateUsers (settings : Settings) (url : String) (xs : List Exchange)
    (result : Except (Partial String) (List String)) :
    (enumerateUsers settings (.opened url)).Yields xs result ↔
      ∃ broken, InTurn (Answered (usersRequest settings.limits))
          (Failed (usersRequest settings.limits)) settings.userSearches xs broken ∧
        result = concluded (collected loginName settings.userSearches xs) broken :=
  yields_enumerate yields_loginNames [] settings.userSearches xs result

theorem yields_enumerateMemberships (settings : Settings) (url : String)
    (xs : List Exchange) (result : Except (Partial Membership) (List Membership)) :
    (enumerateMemberships settings (.opened url)).Yields xs result ↔
      ∃ broken, InTurn (Answered (membersRequest settings.limits))
          (Failed (membersRequest settings.limits)) settings.groupSearches xs broken ∧
        result = concluded (collected groupMembers settings.groupSearches xs) broken :=
  yields_enumerate yields_memberships [] settings.groupSearches xs result

end DirectoryLogin.Client
