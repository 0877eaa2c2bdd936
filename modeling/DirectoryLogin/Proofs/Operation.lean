import DirectoryLogin.Proofs.Searching

/-!
# The operations as one family

The six operations of a client, and what their exchanges look like whatever they do with a session:
`SessionTrace` splits them into what comes before the session, its use and its release.
-/

namespace DirectoryLogin.Session

/-- The exchange comes before a session is there. -/
inductive Preliminary : Exchange → Prop
  | build (request : Transport.MaterialRequest) (answer) : Preliminary ⟨.build request, answer⟩
  | refused (url : String) (security : Transport.Security) (timeout : Option UInt64)
      (cause : Directory.SessionError) :
      Preliminary ⟨.connect url security timeout, .error cause⟩

/-- At most one session is opened, used and then released. -/
inductive SessionTrace (used : List Exchange → Prop) : List Exchange → Prop
  | unopened {xs} (h : ∀ x ∈ xs, Preliminary x) : SessionTrace used xs
  | opened {opening session release} (h : ∀ x ∈ opening, Preliminary x) (url : String)
      (security : Transport.Security) (timeout : Option UInt64) (hs : used session)
      (hr : Released release) : SessionTrace used
        (opening ++ ⟨.connect url security timeout, .ok ()⟩ :: (session ++ release))

private theorem preliminary_of_refused {security : Transport.Security} {timeout : Option UInt64}
    {urls : List String} {xs : List Exchange}
    (h : List.Forall₂ (Refused security timeout) urls xs) : ∀ x ∈ xs, Preliminary x := by
  intro x hx
  obtain ⟨url, cause, rfl⟩ := exists_of_refused h x hx
  exact .refused _ _ _ cause

end DirectoryLogin.Session

namespace DirectoryLogin.Client

open Config (Settings)
open Directory (Membership Partial)
open Session

private theorem preliminary_of_negotiated {tls : Config.TlsSettings} {xs : List Exchange}
    {result : Except Directory.Error Transport.Security} (h : Negotiated tls xs result) :
    ∀ x ∈ xs, Preliminary x := by
  intro x hx
  cases h with
  | plain => cases hx
  | built _ material =>
      rw [List.mem_singleton.mp hx]
      exact .build _ _
  | unbuilt _ e =>
      rw [List.mem_singleton.mp hx]
      exact .build _ _

theorem Opening.preliminary {settings : Settings} {xs : List Exchange} {e : Directory.Error}
    (h : Opening settings xs (.error e)) : ∀ x ∈ xs, Preliminary x := by
  cases h with
  | invalid => simp
  | unbuilt _ h => exact preliminary_of_negotiated h
  | unreachable _ h refused =>
      intro x hx
      rcases List.mem_append.mp hx with hx | hx
      · exact preliminary_of_negotiated h x hx
      · exact preliminary_of_refused refused x hx

theorem Opening.connected {settings : Settings} {xs : List Exchange} {url : String}
    (h : Opening settings xs (.ok (.opened url))) : ∃ opening security,
      xs = opening ++ [⟨.connect url security settings.connectTimeout, .ok ()⟩] ∧
        ∀ x ∈ opening, Preliminary x := by
  cases h with
  | @opened xs ys security before url after _ h _ refused =>
      refine ⟨xs ++ ys, security, (List.append_assoc _ _ _).symm, ?_⟩
      intro x hx
      rcases List.mem_append.mp hx with hx | hx
      · exact preliminary_of_negotiated h x hx
      · exact preliminary_of_refused refused x hx

/-- The operations that a client offers. -/
inductive Operation where
  | authenticate (username password : String)
  | resolveUser (username : String)
  | userGroups (username : String)
  | searchUsers
  | searchGroups
  | testConnectivity
  deriving DecidableEq

namespace Operation

/-- What an operation gives. -/
abbrev Value : Operation → Type
  | .authenticate .. | .testConnectivity => Unit
  | .resolveUser _ => String
  | .userGroups _ | .searchUsers => List String
  | .searchGroups => List Membership

/-- What an operation fails with: enumerations add what they had collected. -/
abbrev Failure : Operation → Type
  | .searchUsers => Partial String
  | .searchGroups => Partial Membership
  | .authenticate .. | .resolveUser _ | .userGroups _ | .testConnectivity => Directory.Error

def program (settings : Settings) : (op : Operation) → Program (Except op.Failure op.Value)
  | .authenticate username password => Client.authenticate settings username password
  | .resolveUser username => Client.resolveUser settings username
  | .userGroups username => Client.userGroups settings username
  | .searchUsers => Client.searchUsers settings
  | .searchGroups => Client.searchGroups settings
  | .testConnectivity => Client.testConnectivity settings

/-- What the operation does with its session. -/
def use (settings : Settings) :
    (op : Operation) → Connection → Program (Except op.Failure op.Value)
  | .authenticate username password =>
      asReader settings id (verifyPassword settings username password)
  | .resolveUser username => asReader settings id (lookupUser settings username)
  | .userGroups username => asReader settings id (lookupGroups settings username)
  | .searchUsers => asReader settings .ofError (enumerateUsers settings)
  | .searchGroups => asReader settings .ofError (enumerateMemberships settings)
  | .testConnectivity => probe settings

def fail : (op : Operation) → Directory.Error → op.Failure
  | .searchUsers | .searchGroups => .ofError
  | .authenticate .. | .resolveUser _ | .userGroups _ | .testConnectivity => id

private theorem silent_noteLogin (username : String) (result : Except Directory.Error Unit) :
    (noteLogin username result).Silent := by
  intro xs u
  cases result <;> exact Program.yields_log _ _ _

private theorem silent_noteProbe (result : Except Directory.Error Unit) :
    (noteProbe result).Silent := by
  intro xs u
  cases result with
  | error e => exact and_iff_left rfl
  | ok => exact Program.yields_log _ _ _

private theorem silent_silently {α : Type} (a : α) : (silently a).Silent :=
  fun _ _ => and_iff_left rfl

theorem yields_program (op : Operation) (settings : Settings) (xs : List Exchange)
    (result : Except op.Failure op.Value) :
    (op.program settings).Yields xs result ↔
      (∃ e, Opening settings xs (.error e) ∧ result = .error (op.fail e)) ∨
        ∃ opening url session release, Opening settings opening (.ok (.opened url)) ∧
          (op.use settings (.opened url)).Yields session result ∧ Released release ∧
          xs = opening ++ (session ++ release) := by
  cases op with
  | authenticate username password => exact yields_withConnection (silent_noteLogin username) _ _
  | resolveUser username => exact yields_withConnection silent_silently _ _
  | userGroups username => exact yields_withConnection silent_silently _ _
  | searchUsers => exact yields_withConnection silent_silently _ _
  | searchGroups => exact yields_withConnection silent_silently _ _
  | testConnectivity => exact yields_withConnection silent_noteProbe _ _

/-- What holds of every use of a session holds of the one that an operation makes. -/
theorem sessionTrace_of_yields {op : Operation} {settings : Settings} {used : List Exchange → Prop}
    {xs : List Exchange} {result : Except op.Failure op.Value}
    (hused : ∀ url session result,
      (op.use settings (.opened url)).Yields session result → used session)
    (h : (op.program settings).Yields xs result) : SessionTrace used xs := by
  rcases (yields_program op settings xs result).mp h with ⟨e, hopening, -⟩ |
    ⟨opening, url, session, release, hopening, hsession, hrelease, rfl⟩
  · exact .unopened hopening.preliminary
  · obtain ⟨before, security, rfl, hbefore⟩ := hopening.connected
    rw [List.append_assoc, List.singleton_append]
    exact .opened hbefore url security _ (hused _ _ _ hsession) hrelease

end Operation

end DirectoryLogin.Client
