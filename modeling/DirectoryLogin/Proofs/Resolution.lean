import DirectoryLogin.Proofs.Answers
import DirectoryLogin.Scripted.Directory

/-!
# Which entry a name stands for

The first base whose search finds exactly one entry says who a user is. Bases before it whose
searches fail, find nothing or find several entries change nothing, and neither do those after it.
-/

namespace DirectoryLogin.Client

open Config (Settings UserSearch)
open Session

/-- What the answers of the bases make of a user. -/
structure Resolution (bases : List (UserSearch × SearchAnswer))
    (result : Except Directory.Error String) : Prop where
  found : ∀ dn, result = .ok dn ↔ ∃ before search entry after,
    bases = before ++ (search, .ok [entry]) :: after ∧ (∀ base ∈ before, ¬ IsSingle base.2) ∧
      dn = entry.dn
  unknown : result = .error .userNotFound ↔ ∀ base ∈ bases, ¬ IsSingle base.2

def firstSingle? (bases : List (UserSearch × SearchAnswer)) : Option Directory.Entry :=
  bases.findSome? fun base => single? base.2

theorem firstSingle?_eq_none_iff {bases : List (UserSearch × SearchAnswer)} :
    firstSingle? bases = none ↔ ∀ base ∈ bases, ¬ IsSingle base.2 := by
  simp only [firstSingle?, List.findSome?_eq_none_iff, single?_eq_none_iff]

theorem firstSingle?_eq_some_iff {bases : List (UserSearch × SearchAnswer)}
    {entry : Directory.Entry} : firstSingle? bases = some entry ↔ ∃ before search after,
      bases = before ++ (search, .ok [entry]) :: after ∧ ∀ base ∈ before, ¬ IsSingle base.2 := by
  simp only [firstSingle?, List.findSome?_eq_some_iff, single?_eq_none_iff, single?_eq_some_iff]
  constructor
  · rintro ⟨before, ⟨search, _⟩, after, rfl, rfl, hbefore⟩
    exact ⟨before, search, after, rfl, hbefore⟩
  · rintro ⟨before, search, after, rfl, hbefore⟩
    exact ⟨before, (search, .ok [entry]), after, rfl, rfl, hbefore⟩

theorem firstSingle?_append_cons {before after : List (UserSearch × SearchAnswer)}
    {winner : UserSearch × SearchAnswer} (hbefore : ∀ base ∈ before, ¬ IsSingle base.2)
    (hwinner : IsSingle winner.2) :
    firstSingle? (before ++ winner :: after) = single? winner.2 := by
  obtain ⟨search, _⟩ := winner
  obtain ⟨entry, rfl⟩ := hwinner
  exact firstSingle?_eq_some_iff.mpr ⟨before, search, after, rfl, hbefore⟩

theorem userPhase (limits : Config.Limits) (username : String) :
    Phase (userRequest limits username) IsSingle (PassedOver limits username)
      (Found limits username) where
  missed h := by
    obtain ⟨answer, rfl, hanswer⟩ := h
    exact ⟨answer, rfl, fun ⟨entry, hentry⟩ => hanswer entry hentry⟩
  met h := by
    obtain ⟨entry, rfl, -⟩ := h
    exact ⟨_, rfl, entry, rfl⟩

private theorem result_resolveUser {settings : Settings} {username : String}
    {bases : List (UserSearch × SearchAnswer)} {xs : List Exchange}
    {result : Except Directory.Error String}
    (h : Queried settings settings.userSearches bases xs)
    (hyields : (resolveUser settings username).Yields xs result) :
    result = ((firstSingle? bases).map Directory.Entry.dn).elim (.error .userNotFound) .ok := by
  have hcourse : Course (.resolveUser username) settings xs result := course_of_yields hyields
  obtain ⟨url, session, htask, -, answers⟩ := h.task hcourse nofun
  obtain ⟨found, hturn, rfl⟩ := (yields_searchUser _ _ _ _ _ _).mp htask
  have phase := userPhase settings.limits username
  rw [h.configured] at hturn
  cases hfirst : firstSingle? bases with
  | none =>
      obtain ⟨rfl, -⟩ := phase.exhausted hturn answers (firstSingle?_eq_none_iff.mp hfirst)
      rfl
  | some entry =>
      obtain ⟨before, search, after, rfl, hbefore⟩ := firstSingle?_eq_some_iff.mp hfirst
      rw [List.map_append, List.map_cons] at hturn answers
      rw [List.append_assoc] at answers
      obtain ⟨dn, rfl, ⟨entry', hentry, rfl⟩, -⟩ :=
        phase.ended (search, .ok [entry]) hturn answers hbefore ⟨entry, rfl⟩
      cases hentry
      rfl

private theorem resolution_firstSingle? (bases : List (UserSearch × SearchAnswer)) :
    Resolution bases
      (((firstSingle? bases).map Directory.Entry.dn).elim (.error .userNotFound) .ok) := by
  cases hfirst : firstSingle? bases with
  | none =>
      have hnone := firstSingle?_eq_none_iff.mp hfirst
      constructor
      · intro dn
        refine iff_of_false nofun ?_
        rintro ⟨before, search, entry, after, rfl, -, -⟩
        exact hnone (search, .ok [entry]) (by simp) ⟨entry, rfl⟩
      · exact iff_of_true rfl hnone
  | some entry =>
      obtain ⟨before, search, after, hbases, hbefore⟩ := firstSingle?_eq_some_iff.mp hfirst
      constructor
      · intro dn
        constructor
        · intro hdn
          exact ⟨before, search, entry, after, hbases, hbefore, (Except.ok.inj hdn).symm⟩
        · rintro ⟨before', search', entry', after', hbases', hbefore', rfl⟩
          have hother := firstSingle?_eq_some_iff.mpr ⟨before', search', after', hbases', hbefore'⟩
          rw [hfirst] at hother
          rw [Option.some.inj hother]
          rfl
      · refine iff_of_false nofun fun hnone => ?_
        exact hnone (search, .ok [entry]) (by simp [hbases]) ⟨entry, rfl⟩

/-- On a session, a user is the entry of the first base that finds exactly one, and unknown if none
does. Two runs with the same such base give the same result, whatever bases are passed over before
it and whatever bases come after it. -/
theorem firstSingle_resolves {σ σ' : Type} (world : World σ) (state : σ) (settings : Settings)
    (username : String) (bases : List (UserSearch × SearchAnswer))
    (queried : Queried settings settings.userSearches bases
      ((resolveUser settings username).run world state).exchanges) :
    Resolution bases ((resolveUser settings username).run world state).result ∧
    ∀ (world' : World σ') (state' : σ') (settings' : Settings) (username' : String)
      (before before' after after' : List (UserSearch × SearchAnswer))
      (winner : UserSearch × SearchAnswer),
      Queried settings' settings'.userSearches (before' ++ winner :: after')
          ((resolveUser settings' username').run world' state').exchanges →
        bases = before ++ winner :: after → IsSingle winner.2 →
          (∀ base ∈ before ++ before', ¬ IsSingle base.2) →
            ((resolveUser settings' username').run world' state').result =
              ((resolveUser settings username).run world state).result := by
  have hresult := result_resolveUser queried (Program.yields_run world _ state)
  rw [hresult]
  refine ⟨resolution_firstSingle? bases, ?_⟩
  rintro world' state' settings' username' before before' after after' winner queried' rfl hwinner
    hpassed
  obtain ⟨hbefore, hbefore'⟩ := List.forall_mem_append.mp hpassed
  rw [result_resolveUser queried' (Program.yields_run world' _ state'),
    firstSingle?_append_cons hbefore hwinner, firstSingle?_append_cons hbefore' hwinner]

/-- Two entries under one base and a failure under another are passed over, and are not missed where
they are not configured. -/
theorem firstSingle_resolves_guest :
    ∃ (settings settings' : Settings) (script : Scripted.Script)
      (bases bases' : List (UserSearch × SearchAnswer)),
      Queried settings settings.userSearches bases
        ((resolveUser settings "ada").run (Scripted.world none) script).exchanges ∧
      Queried settings' settings'.userSearches bases'
        ((resolveUser settings' "ada").run (Scripted.world none) script).exchanges ∧
      Resolution bases ((resolveUser settings "ada").run (Scripted.world none) script).result ∧
      ((resolveUser settings' "ada").run (Scripted.world none) script).result =
        ((resolveUser settings "ada").run (Scripted.world none) script).result ∧
      ((resolveUser settings "ada").run (Scripted.world none) script).result =
        .ok "uid=ada,ou=guests" := by
  let staff : UserSearch := { baseDn := "ou=staff" }
  let former : UserSearch := { baseDn := "ou=former" }
  let guests : UserSearch := { baseDn := "ou=guests" }
  let twice : SearchAnswer := .ok [{ dn := "uid=ada,ou=staff" }, { dn := "uid=Ada,ou=staff" }]
  let broken : SearchAnswer := .error { message := "rc=51: busy" }
  let once : SearchAnswer := .ok [{ dn := "uid=ada,ou=guests" }]
  let script : Scripted.Script :=
    { rules := [{ base := "ou=staff", answer := twice }, { base := "ou=former", answer := broken },
        { base := "ou=guests", answer := once }] }
  let settings : Settings :=
    { urls := ["ldap1"], anonymous := true, userSearches := [staff, former, guests] }
  let settings' : Settings :=
    { urls := ["ldap1"], anonymous := true, userSearches := [guests, staff] }
  have hsearches : searches ((resolveUser settings "ada").run (Scripted.world none)
      script).exchanges = [(userRequest {} "ada" staff, twice),
        (userRequest {} "ada" former, broken), (userRequest {} "ada" guests, once)] := rfl
  have hsearches' : searches ((resolveUser settings' "ada").run (Scripted.world none)
      script).exchanges = [(userRequest {} "ada" guests, once)] := rfl
  have queried : Queried settings settings.userSearches
      [(staff, twice), (former, broken), (guests, once)]
      ((resolveUser settings "ada").run (Scripted.world none) script).exchanges :=
    ⟨⟨_, ⟨[], "ldap1", .plain, none, rfl⟩, .inl rfl⟩, rfl, by simp [AnsweredBy, hsearches]⟩
  have queried' : Queried settings' settings'.userSearches [(guests, once), (staff, twice)]
      ((resolveUser settings' "ada").run (Scripted.world none) script).exchanges :=
    ⟨⟨_, ⟨[], "ldap1", .plain, none, rfl⟩, .inl rfl⟩, rfl, by simp [AnsweredBy, hsearches']⟩
  have h := @firstSingle_resolves Scripted.Script Scripted.Script (Scripted.world none) script
    settings "ada" _ queried
  have hother := h.2 (Scripted.world none) script settings' "ada"
    [(staff, twice), (former, broken)] [] [] [(staff, twice)] (guests, once) queried' rfl ⟨_, rfl⟩
    (by simp [IsSingle, twice, broken])
  exact ⟨settings, settings', script, _, _, queried, queried', h.1, hother, rfl⟩

end DirectoryLogin.Client
