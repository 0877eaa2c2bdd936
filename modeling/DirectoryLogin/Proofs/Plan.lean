import DirectoryLogin.Proofs.Course
import DirectoryLogin.Scripted.Directory

/-!
# The plan of searches

What an operation searches for is settled by its settings, the name of the user and the entry that
was found for it. The searches of a phase are made in the configured order, none left out and none
made twice, and the answers decide only where the phase ends.
-/

namespace DirectoryLogin.Client

open Config (Settings)
open Directory (SearchRequest)
open Session

/-! ## Plans -/

section Plans

variable (settings : Settings)

def userPlan (username : String) : List SearchRequest :=
  settings.userSearches.map fun search =>
    { base := search.baseDn
      filter := Filter.equality search.filter search.loginAttribute username
      attributes := ["dn"]
      limits := settings.limits }

def groupPlan (dn : String) : List SearchRequest :=
  settings.groupSearches.map fun search =>
    { base := search.baseDn
      filter := Filter.equality search.filter search.memberAttribute dn
      attributes := ["cn"]
      limits := settings.limits }

def usersPlan : List SearchRequest :=
  settings.userSearches.map fun search =>
    { base := search.baseDn
      filter := search.filter
      attributes := ["dn", search.loginAttribute]
      limits := settings.limits }

def membersPlan : List SearchRequest :=
  settings.groupSearches.map fun search =>
    { base := search.baseDn
      filter := search.filter
      attributes := ["cn", search.memberAttribute]
      limits := settings.limits }

end Plans

/-- The searches that were made are the planned ones from the first on, up to the first whose answer
ends the phase; without such an answer they are all. -/
structure Follows (plan : List SearchRequest) (ends : SearchAnswer → Prop)
    (made : List (SearchRequest × SearchAnswer)) : Prop where
  inOrder : made.map Prod.fst <+: plan
  goesOn : ∀ search ∈ made.dropLast, ¬ ends search.2
  stops : made.map Prod.fst ≠ plan → ∃ search, made.getLast? = some search ∧ ends search.2

theorem Follows.nil (ends : SearchAnswer → Prop) : Follows [] ends [] where
  inOrder := List.prefix_rfl
  goesOn := by simp
  stops h := absurd rfl h

theorem Follows.last (request : SearchRequest) (plan : List SearchRequest)
    {ends : SearchAnswer → Prop} {answer : SearchAnswer} (h : ends answer) :
    Follows (request :: plan) ends [(request, answer)] where
  inOrder := ⟨plan, rfl⟩
  goesOn := by simp
  stops _ := ⟨_, rfl, h⟩

theorem Follows.cons (request : SearchRequest) {plan : List SearchRequest}
    {ends : SearchAnswer → Prop} {answer : SearchAnswer}
    {made : List (SearchRequest × SearchAnswer)} (h : ¬ ends answer)
    (others : Follows plan ends made) :
    Follows (request :: plan) ends ((request, answer) :: made) where
  inOrder := List.cons_prefix_cons.mpr ⟨rfl, others.inOrder⟩
  goesOn := by
    intro search hsearch
    cases made with
    | nil => simp at hsearch
    | cons next made =>
        rw [List.dropLast_cons_cons] at hsearch
        rcases List.mem_cons.mp hsearch with rfl | hsearch
        · exact h
        · exact others.goesOn search hsearch
  stops hne := by
    have hothers : made.map Prod.fst ≠ plan := fun heq => hne (by rw [List.map_cons, heq])
    obtain ⟨search, hlast, hends⟩ := others.stops hothers
    exact ⟨search, by rw [List.getLast?_cons, hlast]; rfl, hends⟩

private theorem follows_of_inTurn {β γ : Type} (request : β → SearchRequest)
    {ends : SearchAnswer → Prop} {miss : β → Exchange → Prop} {hit : β → Exchange → γ → Prop}
    (hmiss : ∀ b x, miss b x → ∃ answer, x = ⟨.search (request b), answer⟩ ∧ ¬ ends answer)
    (hhit : ∀ b x c, hit b x c → ∃ answer, x = ⟨.search (request b), answer⟩ ∧ ends answer)
    {items : List β} {xs : List Exchange} {found : Option γ} (h : InTurn miss hit items xs found) :
    Follows (items.map request) ends (searches xs) := by
  induction h with
  | exhausted => exact .nil ends
  | hit h =>
      obtain ⟨answer, rfl, hends⟩ := hhit _ _ _ h
      exact .last _ _ hends
  | miss h _ ih =>
      obtain ⟨answer, rfl, hends⟩ := hmiss _ _ h
      exact .cons _ hends ih

private theorem map_fst_searches {β : Type} {request : β → SearchRequest} {items : List β}
    {xs : List Exchange} (h : List.Forall₂ (Asked request) items xs) :
    (searches xs).map Prod.fst = items.map request := by
  induction h with
  | nil => rfl
  | cons h _ ih =>
      obtain ⟨answer, rfl⟩ := h
      exact congrArg (request _ :: ·) ih

/-! ## Phases -/

/-- The searches that an operation makes on its session. -/
def Operation.Searches (settings : Settings) :
    Operation → List (SearchRequest × SearchAnswer) → Prop
  | .authenticate username _, made | .resolveUser username, made =>
      Follows (userPlan settings username) IsSingle made
  | .userGroups username, made => ∃ users groups, made = users ++ groups ∧
      Follows (userPlan settings username) IsSingle users ∧
      match users.getLast? with
      | some (_, .ok [entry]) => groups.map Prod.fst = groupPlan settings entry.dn
      | _ => groups = []
  | .searchUsers, made => Follows (usersPlan settings) IsFailure made
  | .searchGroups, made => Follows (membersPlan settings) IsFailure made
  | .testConnectivity, made => made = []

private theorem follows_userPlan {settings : Settings} {username : String} {xs : List Exchange}
    {found : Option String} (h : InTurn (PassedOver settings.limits username)
      (Found settings.limits username) settings.userSearches xs found) :
    Follows (userPlan settings username) IsSingle (searches xs) := by
  refine follows_of_inTurn (userRequest settings.limits username) ?_ ?_ h
  · intro search x hx
    obtain ⟨answer, rfl, hanswer⟩ := hx
    exact ⟨answer, rfl, fun ⟨entry, hentry⟩ => hanswer entry hentry⟩
  · intro search x dn hx
    obtain ⟨entry, rfl, -⟩ := hx
    exact ⟨_, rfl, entry, rfl⟩

private theorem follows_enumeration {β : Type} {request : β → SearchRequest} {items : List β}
    {xs : List Exchange} {broken : Option Directory.OperationFault}
    (h : InTurn (Answered request) (Failed request) items xs broken) :
    Follows (items.map request) IsFailure (searches xs) := by
  refine follows_of_inTurn request ?_ ?_ h
  · intro search x hx
    obtain ⟨entries, rfl⟩ := hx
    exact ⟨_, rfl, not_isFailure_ok entries⟩
  · intro search x fault hx
    obtain ⟨cause, rfl, -⟩ := hx
    exact ⟨_, rfl, cause, rfl⟩

private theorem searches_of_groupLookup {settings : Settings} {username : String}
    {xs : List Exchange} {result : Except Directory.Error (List String)}
    (h : GroupLookup settings username xs result) :
    (Operation.userGroups username).Searches settings (searches xs) := by
  cases h with
  | unknown h =>
      have husers := follows_userPlan (inTurn_none_iff.mpr h)
      refine ⟨searches xs, [], (List.append_nil _).symm, husers, ?_⟩
      split
      · next request entry hlast =>
          have hmem := List.mem_of_getLast? hlast
          exact absurd ⟨entry, rfl⟩ ((missed_of_passedOver h).not_isSingle _ hmem)
      · rfl
  | @found xs ys dn h groups =>
      refine ⟨searches xs, searches ys, searches_append xs ys, follows_userPlan h, ?_⟩
      obtain ⟨_, search, _, zs, _, -, -, ⟨entry, rfl, rfl⟩, rfl⟩ := inTurn_some_iff.mp h
      have hlast : (searches (zs ++ [⟨.search (userRequest settings.limits username search),
          .ok [entry]⟩])).getLast? =
            some (userRequest settings.limits username search, .ok [entry]) := by
        rw [searches_append]
        exact List.getLast?_concat
      rw [hlast]
      exact map_fst_searches groups

private theorem searches_of_task {op : Operation} {settings : Settings} {url : String}
    {xs : List Exchange} {result : Except op.Failure op.Value}
    (h : (op.task settings (.opened url)).Yields xs result) :
    op.Searches settings (searches xs) := by
  cases op with
  | authenticate username password =>
      have hcheck := (yields_verifyPassword _ _ _ _ _ _).mp h
      obtain ⟨found, looked, last, hfound, rfl, hlast⟩ := hcheck.lookup
      have hnone : searches last = [] := by
        rw [searches, List.filterMap_eq_nil_iff]
        intro x hx
        obtain ⟨dn, answer, rfl⟩ := hlast x hx
        rfl
      rw [searches_append, hnone, List.append_nil]
      exact follows_userPlan hfound
  | resolveUser username =>
      obtain ⟨found, hfound, -⟩ := (yields_searchUser _ _ _ _ _ _).mp h
      exact follows_userPlan hfound
  | userGroups username => exact searches_of_groupLookup ((yields_lookupGroups _ _ _ _ _).mp h)
  | searchUsers =>
      obtain ⟨broken, hbroken, -⟩ := (yields_enumerateUsers _ _ _ _).mp h
      exact follows_enumeration hbroken
  | searchGroups =>
      obtain ⟨broken, hbroken, -⟩ := (yields_enumerateMemberships _ _ _ _).mp h
      exact follows_enumeration hbroken
  | testConnectivity =>
      obtain ⟨rfl, -⟩ := h
      rfl

/-- An operation that has a session to search makes the searches of its plan on it, and no operation
searches before it has one. -/
theorem searches_planned {σ : Type} (world : World σ) (state : σ) (op : Operation)
    (settings : Settings) :
    (Reached settings ((op.program settings).run world state).exchanges ∧
      op.Searches settings (searches ((op.program settings).run world state).exchanges)) ∨
    (¬ Reached settings ((op.program settings).run world state).exchanges ∧
      searches ((op.program settings).run world state).exchanges = []) := by
  have hcourse := course_of_yields (Program.yields_run world (op.program settings) state)
  by_cases hreached : Reached settings ((op.program settings).run world state).exchanges
  · left
    refine ⟨hreached, ?_⟩
    -- A test of the connection searches for nothing even if its anonymous bind is refused.
    by_cases hop : op = .testConnectivity
    · subst hop
      rcases hcourse.searches_eq with hnone | ⟨url, session, htask, hsearches⟩
      · exact hnone
      · rw [hsearches]
        exact searches_of_task htask
    · obtain ⟨url, session, htask, hsearches⟩ := hcourse.performed_of_reached hop hreached
      rw [hsearches]
      exact searches_of_task htask
  · exact .inr ⟨hreached, hcourse.searches_eq_nil hreached⟩

/-- A user under the second base, and the groups under two more. -/
theorem searches_planned_groups :
    let settings : Settings := {
      urls := ["ldap1"]
      anonymous := true
      userSearches := [{ baseDn := "ou=staff" }, { baseDn := "ou=guests" }, { baseDn := "ou=old" }]
      groupSearches := [{ baseDn := "ou=teams" }, { baseDn := "ou=rooms" }] }
    let script : Scripted.Script := {
      rules := [
        { base := "ou=guests", answer := .ok [{ dn := "uid=ada" }] },
        { base := "ou=teams"
          answer := .ok [{ dn := "cn=dev", attributes := [("cn", ["dev"])] }] }] }
    let run := (userGroups settings "ada").run (Scripted.world none) script
    (searches run.exchanges).map (·.1.base) = ["ou=staff", "ou=guests", "ou=teams", "ou=rooms"] ∧
      (Operation.userGroups "ada").Searches settings (searches run.exchanges) := by
  intro settings script run
  have hbases : (searches run.exchanges).map (·.1.base) =
      ["ou=staff", "ou=guests", "ou=teams", "ou=rooms"] := rfl
  refine ⟨hbases, ?_⟩
  rcases searches_planned (Scripted.world none) script (.userGroups "ada") settings with
    ⟨-, planned⟩ | ⟨-, hnone⟩
  · exact planned
  · rw [show searches run.exchanges = [] from hnone] at hbases
    cases hbases

end DirectoryLogin.Client
