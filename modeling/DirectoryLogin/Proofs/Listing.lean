import DirectoryLogin.Proofs.Answers
import DirectoryLogin.Scripted.Directory

/-!
# What an enumeration lists

An enumeration that no search breaks off lists what all bases yield, base by base and entry by
entry. The first search that fails ends it: what the bases before it yield goes with the error, and
no base after it is asked.
-/

namespace DirectoryLogin.Client

open Config (GroupSearch Settings UserSearch)
open Directory (Entry OperationFault Partial SearchRequest SessionError)
open Session

/-- What the entries of the bases yield, in order. -/
def listed {α β : Type} (items : β → Entry → List α) (bases : List (β × SearchAnswer)) : List α :=
  bases.flatMap fun base => (entriesOf base.2).flatMap (items base.1)

/-- The error of an enumeration that the failed search under a base broke off. -/
structure BrokenOff {α : Type} (collected : List α) (dn : String) (cause : SessionError)
    (failure : Partial α) : Prop where
  collected : failure.collected = collected
  error : failure.error = .operation (.search dn cause)
  message : failure.error.message =
    "Directory operation failed: " ++ ("search under " ++ dn ++ " failed: " ++ cause.message)

/-- What the answers of the bases make of an enumeration. -/
structure Listed {α β : Type} (request : β → SearchRequest) (dn : β → String)
    (items : β → Entry → List α) (bases : List (β × SearchAnswer)) (xs : List Exchange)
    (result : Except (Partial α) (List α)) : Prop where
  complete : (∀ base ∈ bases, ¬ IsFailure base.2) →
    result = .ok (listed items bases) ∧ searches xs = bases.map (inquiry request)
  broken : ∀ before search cause after, bases = before ++ (search, .error cause) :: after →
    (∀ base ∈ before, ¬ IsFailure base.2) →
      (∃ failure, result = .error failure ∧
        BrokenOff (listed items before) (dn search) cause failure) ∧
      searches xs = List.map (inquiry request) (before ++ [(search, .error cause)])

theorem enumerationPhase {β : Type} (request : β → SearchRequest) :
    Phase request IsFailure (Answered request) (Failed request) where
  missed h := by
    obtain ⟨entries, rfl⟩ := h
    exact ⟨_, rfl, not_isFailure_ok entries⟩
  met h := by
    obtain ⟨cause, rfl, -⟩ := h
    exact ⟨_, rfl, cause, rfl⟩

private theorem collected_asking {α β : Type} (request : β → SearchRequest)
    (items : β → Entry → List α) (asked : List (β × SearchAnswer)) (others : List β) :
    collected items (asked.map Prod.fst ++ others) (asked.map (asking request)) =
      listed items asked := by
  induction asked with
  | nil => simp [collected, listed]
  | cons base rest ih =>
      simp only [collected, listed, List.map_cons, List.cons_append, List.zipWith_cons_cons,
        List.flatten_cons, List.flatMap_cons, entries_asking] at ih ⊢
      rw [ih]

private theorem listed_concat_error {α β : Type} (items : β → Entry → List α)
    (bases : List (β × SearchAnswer)) (search : β) (cause : SessionError) :
    listed items (bases ++ [(search, .error cause)]) = listed items bases := by
  simp [listed, entriesOf]

private theorem brokenOff {α : Type} (collected : List α) (dn : String) (cause : SessionError) :
    BrokenOff collected dn cause ⟨collected, .operation (.search dn cause)⟩ where
  collected := rfl
  error := rfl
  message := rfl

private theorem listed_of_inTurn {α β : Type} {request : β → SearchRequest} {dn : β → String}
    {items : β → Entry → List α} {bases : List (β × SearchAnswer)} {xs session : List Exchange}
    {broken : Option OperationFault} (hdn : ∀ search, (request search).base = dn search)
    (hsearches : searches xs = searches session)
    (answered : AnsweredBy (bases.map Prod.snd ++ []) (session ++ []))
    (hturn : InTurn (Answered request) (Failed request) (bases.map Prod.fst) session broken) :
    Listed request dn items bases xs
      (concluded (collected items (bases.map Prod.fst) session) broken) where
  complete hfine := by
    obtain ⟨rfl, rfl, -⟩ := (enumerationPhase request).exhausted hturn answered hfine
    have hall := collected_asking request items bases []
    rw [List.append_nil] at hall
    rw [hsearches, searches_map_asking, hall]
    exact ⟨rfl, rfl⟩
  broken before search cause after hbases hbefore := by
    subst hbases
    rw [List.map_append, List.map_cons] at hturn answered ⊢
    rw [List.append_assoc] at answered
    obtain ⟨fault, rfl, ⟨_, hcause, rfl⟩, rfl, -⟩ := (enumerationPhase request).ended
      (search, .error cause) hturn answered hbefore ⟨cause, rfl⟩
    cases hcause
    have hconfigured : before.map Prod.fst ++ search :: after.map Prod.fst =
        List.map Prod.fst (before ++ [(search, .error cause)]) ++ after.map Prod.fst := by simp
    rw [hsearches, searches_map_asking, hconfigured, collected_asking, listed_concat_error, hdn]
    exact ⟨⟨_, rfl, brokenOff _ _ _⟩, rfl⟩

/-- Enumerations list what their bases yield, and fail as the first base that fails makes them. -/
theorem enumerations_listed {σ : Type} (world : World σ) (state : σ) (settings : Settings) :
    (∀ bases, Queried settings settings.userSearches bases
        ((searchUsers settings).run world state).exchanges →
      Listed (usersRequest settings.limits) UserSearch.baseDn loginName bases
        ((searchUsers settings).run world state).exchanges
        ((searchUsers settings).run world state).result) ∧
    ∀ bases, Queried settings settings.groupSearches bases
        ((searchGroups settings).run world state).exchanges →
      Listed (membersRequest settings.limits) GroupSearch.baseDn groupMembers bases
        ((searchGroups settings).run world state).exchanges
        ((searchGroups settings).run world state).result := by
  constructor
  · intro bases queried
    have hcourse : Course .searchUsers settings _ ((searchUsers settings).run world state).result :=
      course_of_yields (Program.yields_run world _ state)
    obtain ⟨url, session, htask, hsearches, answered⟩ := queried.task hcourse nofun
    obtain ⟨broken, hturn, hresult⟩ := (yields_enumerateUsers _ _ _ _).mp htask
    rw [queried.configured] at hturn hresult
    rw [hresult]
    exact listed_of_inTurn (fun _ => rfl) hsearches answered hturn
  · intro bases queried
    have hcourse : Course .searchGroups settings _
        ((searchGroups settings).run world state).result :=
      course_of_yields (Program.yields_run world _ state)
    obtain ⟨url, session, htask, hsearches, answered⟩ := queried.task hcourse nofun
    obtain ⟨broken, hturn, hresult⟩ := (yields_enumerateMemberships _ _ _ _).mp htask
    rw [queried.configured] at hturn hresult
    rw [hresult]
    exact listed_of_inTurn (fun _ => rfl) hsearches answered hturn

/-- The second of three bases fails, after a user without a login name was passed over. -/
theorem enumerations_listed_broken :
    ∃ (settings : Settings) (script : Scripted.Script) (bases : List (UserSearch × SearchAnswer)),
      Queried settings settings.userSearches bases
        ((searchUsers settings).run (Scripted.world none) script).exchanges ∧
      Listed (usersRequest settings.limits) UserSearch.baseDn loginName bases
        ((searchUsers settings).run (Scripted.world none) script).exchanges
        ((searchUsers settings).run (Scripted.world none) script).result ∧
      ((searchUsers settings).run (Scripted.world none) script).result =
        .error ⟨["ada", "bob"], .operation (.search "ou=former" { message := "rc=51: busy" })⟩ := by
  let user (name : String) : Entry := { dn := "uid=" ++ name, attributes := [("uid", [name])] }
  let found : SearchAnswer := .ok [user "ada", { dn := "ou=unnamed" }, user "bob"]
  let broken : SearchAnswer := .error { message := "rc=51: busy" }
  let staff : UserSearch := { baseDn := "ou=staff" }
  let former : UserSearch := { baseDn := "ou=former" }
  let guests : UserSearch := { baseDn := "ou=guests" }
  let script : Scripted.Script :=
    { rules := [{ base := "ou=staff", answer := found },
        { base := "ou=former", answer := broken }] }
  let settings : Settings :=
    { urls := ["ldap1"], anonymous := true, userSearches := [staff, former, guests] }
  have hsearches : searches ((searchUsers settings).run (Scripted.world none) script).exchanges =
      [(usersRequest {} staff, found), (usersRequest {} former, broken)] := rfl
  have queried : Queried settings settings.userSearches
      [(staff, found), (former, broken), (guests, .ok [])]
      ((searchUsers settings).run (Scripted.world none) script).exchanges :=
    ⟨⟨_, ⟨[], "ldap1", .plain, none, rfl⟩, .inl rfl⟩, rfl, by simp [AnsweredBy, hsearches]⟩
  have h := (enumerations_listed (Scripted.world none) script settings).1 _ queried
  exact ⟨settings, script, _, queried, h, rfl⟩

end DirectoryLogin.Client
