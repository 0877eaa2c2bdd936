import DirectoryLogin.Proofs.Operation

/-!
# Binds on a session

Which binds an operation sends, and when: as the service account before anything else, without a
name only to test an anonymous connection, and as a user only at the very end of a password check,
so that nothing is searched for under a user's identity.
-/

namespace DirectoryLogin.Client

open Config (Settings)
open Session

/-- The bind that an operation begins with. -/
inductive FirstBind (op : Operation) (settings : Settings) : List Exchange → Prop
  | reader (h : settings.anonymous = false) (answer) :
      FirstBind op settings [⟨.simpleBind settings.readerDn settings.password, answer⟩]
  | anonymous (h : settings.anonymous = true) (hop : op = .testConnectivity) (answer) :
      FirstBind op settings [⟨.anonymousBind, answer⟩]
  | none (h : settings.anonymous = true) (hop : op ≠ .testConnectivity) : FirstBind op settings []

/-- The bind that an operation ends with, after the search that found its user. -/
inductive LastBind (op : Operation) : List Exchange → List Exchange → Prop
  | none {searches} : LastBind op searches []
  | user {username password : String} {earlier : List Exchange} {request : Directory.SearchRequest}
      {entry : Directory.Entry} (hop : op = .authenticate username password)
      (given : password ≠ "") (answer) :
      LastBind op (earlier ++ [⟨.search request, .ok [entry]⟩])
        [⟨.simpleBind entry.dn password, answer⟩]

/-- A session is used for one bind, for searches, and for one more bind. A refused service account
ends the use, and a test of the connection consists of its bind. -/
def Disciplined (op : Operation) (settings : Settings) (session : List Exchange) : Prop :=
  ∃ first searches last, session = first ++ (searches ++ last) ∧
    FirstBind op settings first ∧ (∀ x ∈ searches, x.call.IsSearch) ∧ LastBind op searches last ∧
    (∀ dn password cause, ⟨.simpleBind dn password, .error cause⟩ ∈ first →
      searches = [] ∧ last = []) ∧
    (op = .testConnectivity → searches = [] ∧ last = [])

theorem Disciplined.usesSession {op : Operation} {settings : Settings}
    {session : List Exchange} (h : Disciplined op settings session) :
    ∀ x ∈ session, x.call.UsesSession := by
  obtain ⟨first, searches, last, rfl, hfirst, hsearches, hlast, -⟩ := h
  have hbind : ∀ x ∈ first ++ last, x.call.UsesSession := by
    intro x hx
    rcases List.mem_append.mp hx with hx | hx
    · cases hfirst with
      | reader | anonymous =>
          rw [List.mem_singleton.mp hx]
          trivial
      | none => cases hx
    · cases hlast with
      | none => cases hx
      | user =>
          rw [List.mem_singleton.mp hx]
          trivial
  intro x hx
  simp only [List.mem_append] at hx hbind
  rcases hx with hx | hx | hx
  · exact hbind x (.inl hx)
  · exact (hsearches x hx).usesSession
  · exact hbind x (.inr hx)

private theorem disciplined_of_refused {op : Operation} {settings : Settings} {xs : List Exchange}
    {e : Directory.Error} (h : ReaderBind settings xs (.error e)) : Disciplined op settings xs := by
  cases h with
  | rejected h cause =>
      exact ⟨_, [], [], rfl, .reader h _, by simp, .none, fun _ _ _ _ => ⟨rfl, rfl⟩,
        fun _ => ⟨rfl, rfl⟩⟩

private theorem disciplined_of_accepted {op : Operation} {settings : Settings}
    {first searches last : List Exchange} (hop : op ≠ .testConnectivity)
    (h : ReaderBind settings first (.ok ())) (hsearches : ∀ x ∈ searches, x.call.IsSearch)
    (hlast : LastBind op searches last) :
    Disciplined op settings (first ++ (searches ++ last)) := by
  refine ⟨first, searches, last, rfl, ?_, hsearches, hlast, ?_, fun h => absurd h hop⟩
  · cases h with
    | unneeded h => exact .none h hop
    | accepted h => exact .reader h _
  · intro dn password cause hmem
    cases h with
    | unneeded => cases hmem
    | accepted => cases List.mem_singleton.mp hmem

private theorem disciplined_of_asks {op : Operation} {settings : Settings} {ε α : Type}
    {lift : Directory.Error → ε} {use : Connection → Program (Except ε α)} {url : String}
    {xs : List Exchange} {result : Except ε α} (hop : op ≠ .testConnectivity)
    (huse : (use (.opened url)).Asks (Connection.opened url).Searches)
    (h : (asReader settings lift use (.opened url)).Yields xs result) :
    Disciplined op settings xs := by
  rcases (yields_asReader _ _ _ _ _ _).mp h with ⟨e, hrefused, -⟩ | ⟨ys, zs, hys, hzs, rfl⟩
  · exact disciplined_of_refused hrefused
  · have h := disciplined_of_accepted hop hys (huse.isSearch hzs) .none
    rwa [List.append_nil] at h

private theorem disciplined_authenticate {settings : Settings} {username password : String}
    {url : String} {xs : List Exchange} {result : Except Directory.Error Unit}
    (h : (asReader settings id (verifyPassword settings username password) (.opened url)).Yields xs
      result) : Disciplined (.authenticate username password) settings xs := by
  have hop : Operation.authenticate username password ≠ .testConnectivity := nofun
  rcases (yields_asReader _ _ _ _ _ _).mp h with ⟨e, hrefused, -⟩ | ⟨ys, zs, hys, hzs, rfl⟩
  · exact disciplined_of_refused hrefused
  · -- The bind as the user ends the use of the session, whichever way it is answered.
    have finish {searches : List Exchange} {dn : String} (answer)
        (h : InTurn (PassedOver settings.limits username) (Found settings.limits username)
          settings.userSearches searches (some dn)) (given : password ≠ "") :
        Disciplined (.authenticate username password) settings
          (ys ++ (searches ++ [⟨.simpleBind dn password, answer⟩])) := by
      apply disciplined_of_accepted hop hys (isSearch_of_inTurn h)
      obtain ⟨_, _, _, _, _, _, _, ⟨entry, rfl, rfl⟩, rfl⟩ := inTurn_some_iff.mp h
      exact .user rfl given answer
    cases (yields_verifyPassword _ _ _ _ _ _).mp hzs with
    | unknown hmisses =>
        rw [← List.append_nil zs]
        have hzs := isSearch_of_inTurn (inTurn_none_iff.mpr hmisses)
        exact disciplined_of_accepted hop hys hzs .none
    | untried hfound =>
        rw [← List.append_nil zs]
        exact disciplined_of_accepted hop hys (isSearch_of_inTurn hfound) .none
    | accepted hfound given => exact finish _ hfound given
    | rejected hfound given => exact finish _ hfound given

private theorem disciplined_probe {settings : Settings} {url : String}
    {xs : List Exchange} {result : Except Directory.Error Unit}
    (h : (probe settings (.opened url)).Yields xs result) :
    Disciplined .testConnectivity settings xs := by
  suffices hfirst : FirstBind .testConnectivity settings xs from
    ⟨xs, [], [], (List.append_nil xs).symm, hfirst, by simp, .none, fun _ _ _ _ => ⟨rfl, rfl⟩,
      fun _ => ⟨rfl, rfl⟩⟩
  unfold probe at h
  split at h
  · next hanonymous =>
      obtain ⟨answer, rest, rfl, hrest⟩ := h
      cases answer with
      | ok =>
          obtain ⟨rfl, -⟩ := hrest
          exact .anonymous hanonymous rfl _
      | error cause =>
          obtain ⟨rfl, -⟩ := hrest
          exact .anonymous hanonymous rfl _
  · next hreader =>
      cases (yields_bindReader _ _ _ _).mp h with
      | unneeded hanonymous => exact absurd hanonymous hreader
      | accepted hnamed => exact .reader hnamed _
      | rejected hnamed cause => exact .reader hnamed _

theorem disciplined_of_use {op : Operation} {settings : Settings} {url : String}
    {xs : List Exchange} {result : Except op.Failure op.Value}
    (h : (op.use settings (.opened url)).Yields xs result) : Disciplined op settings xs := by
  cases op with
  | authenticate username password => exact disciplined_authenticate h
  | resolveUser username => exact disciplined_of_asks nofun (asks_searchUser _ _ _ _) h
  | userGroups username => exact disciplined_of_asks nofun (asks_lookupGroups _ _ _) h
  | searchUsers => exact disciplined_of_asks nofun (asks_enumerateUsers _ _) h
  | searchGroups => exact disciplined_of_asks nofun (asks_enumerateMemberships _ _) h
  | testConnectivity => exact disciplined_probe h

/-- Every operation keeps to the order of binds: one as the service account before all else outside
of anonymous mode, an anonymous one only to test the connection, and one as the user only at the end
of a password check. -/
theorem session_disciplined {σ : Type} (world : World σ) (state : σ) (op : Operation)
    (settings : Settings) :
    SessionTrace (Disciplined op settings) ((op.program settings).run world state).exchanges :=
  Operation.sessionTrace_of_yields (fun _ _ _ => disciplined_of_use)
    (Program.yields_run world (op.program settings) state)

end DirectoryLogin.Client
