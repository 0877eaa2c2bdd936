import DirectoryLogin.Proofs.Discipline
import DirectoryLogin.Proofs.Target

/-!
# No downgrade

The security of an operation is decided once, before the first server is tried, and all servers are
tried with it: what is to be secured is never tried in plain, however many servers fail and whatever
is written in front of them.
-/

namespace DirectoryLogin.Client

open Config (Settings)
open Session
open Transport (Mode Scheme Security)

/-- The exchange is no order for certificates, and if it tries a server then with this security,
dialled in this way. -/
structure TriesWith (security : Security) (scheme : Scheme) (upgrade : Bool) (x : Exchange) :
    Prop where
  not_build : ∀ request answer, x ≠ ⟨.build request, answer⟩
  connect : ∀ url security' timeout answer, x = ⟨.connect url security' timeout, answer⟩ →
    security' = security ∧ Wire.Dials url security timeout scheme upgrade

/-- How the security of an operation is settled: for settings that are not valid nothing is asked at
all, for plain connections nothing is built, and otherwise the certificates and keys of the settings
are asked for once. -/
inductive Secured (op : Operation) (settings : Settings) :
    List Exchange → Except op.Failure op.Value → Prop
  | invalid {violation} (h : settings.validate = .error violation) :
      Secured op settings [] (.error (op.fail (.ofConfig (.ofViolation violation))))
  | plain {xs result} (valid : settings.validate = .ok ())
      (h : settings.tls.enabled = false ∧ settings.tls.startTls = false)
      (hxs : ∀ x ∈ xs, TriesWith { mode := .plain, material? := none } .ldap false x) :
      Secured op settings xs result
  | unbuilt (valid : settings.validate = .ok ())
      (h : settings.tls.enabled = true ∨ settings.tls.startTls = true) (e : Directory.Error) :
      Secured op settings
        [⟨.build ⟨settings.tls.caPath, settings.tls.certPath, settings.tls.keyPath,
          settings.tls.skipVerify⟩, .error e⟩]
        (.error (op.fail e))
  | built {rest result} (valid : settings.validate = .ok ())
      (h : settings.tls.enabled = true ∨ settings.tls.startTls = true)
      (material : Transport.Material)
      (hrest : ∀ x ∈ rest, TriesWith
        { mode := if settings.tls.enabled then .tls else .startTls, material? := some material }
        (if settings.tls.enabled then .ldaps else .ldap) (!settings.tls.enabled) x) :
      Secured op settings
        (⟨.build ⟨settings.tls.caPath, settings.tls.certPath, settings.tls.keyPath,
          settings.tls.skipVerify⟩, .ok material⟩ :: rest)
        result

section Mode

variable {tls : Config.TlsSettings} (h : tls.enabled = true ∨ tls.startTls = true)

include h

private theorem ofSettings_of_secure :
    Mode.ofSettings tls = if tls.enabled then .tls else .startTls := by
  rcases h with h | h <;> simp [Mode.ofSettings, h]

private theorem scheme_ofSettings :
    (Mode.ofSettings tls).scheme = if tls.enabled then .ldaps else .ldap := by
  rw [ofSettings_of_secure h]
  split <;> rfl

private theorem upgrades_ofSettings : (Mode.ofSettings tls == .startTls) = !tls.enabled := by
  rw [ofSettings_of_secure h]
  cases tls.enabled <;> rfl

end Mode

private theorem triesWith_connect (url : String) (security : Security) (timeout : Option UInt64)
    (answer) : TriesWith security security.mode.scheme (security.mode == .startTls)
      ⟨.connect url security timeout, answer⟩ where
  not_build := by
    intro request answer' h
    cases h
  connect := by
    intro url' security' timeout' answer' h
    cases h
    exact ⟨rfl, Wire.dials url security timeout⟩

private theorem triesWith_of_not_opens {x : Exchange} (h : ¬ x.call.Opens) (security : Security) :
    TriesWith security security.mode.scheme (security.mode == .startTls) x where
  not_build := by
    intro request answer hx
    subst hx
    exact h trivial
  connect := by
    intro url security' timeout answer hx
    subst hx
    exact absurd trivial h

private theorem triesWith_of_opening {settings : Settings} {xs : List Exchange}
    {acquired : Except Directory.Error Connection} (valid : settings.validate = .ok ())
    (h : Opening settings xs acquired) : ∃ built negotiated tries,
      Negotiated settings.tls built negotiated ∧ xs = built ++ tries ∧
      (∀ e, negotiated = .error e → tries = [] ∧ acquired = .error e) ∧
      ∀ security, negotiated = .ok security → ∀ x ∈ tries,
        TriesWith security security.mode.scheme (security.mode == .startTls) x := by
  have hrefused {security : Security} {urls : List String} {ys : List Exchange}
      (h : List.Forall₂ (Refused security settings.connectTimeout) urls ys) : ∀ x ∈ ys,
        TriesWith security security.mode.scheme (security.mode == .startTls) x := by
    intro x hx
    obtain ⟨url, cause, rfl⟩ := exists_of_refused h x hx
    exact triesWith_connect url security _ _
  cases h with
  | invalid h =>
      rw [valid] at h
      cases h
  | unbuilt _ h =>
      refine ⟨xs, _, [], h, (List.append_nil xs).symm, ?_, nofun⟩
      intro e he
      cases he
      exact ⟨rfl, rfl⟩
  | unreachable _ h refused =>
      refine ⟨_, _, _, h, rfl, nofun, ?_⟩
      intro security hsecurity
      cases hsecurity
      exact hrefused refused
  | opened _ h _ refused =>
      refine ⟨_, _, _, h, rfl, nofun, ?_⟩
      intro security hsecurity x hx
      cases hsecurity
      rcases List.mem_append.mp hx with hx | hx
      · exact hrefused refused x hx
      · rw [List.mem_singleton.mp hx]
        exact triesWith_connect _ _ _ _

private theorem triesWith_of_session {op : Operation} {settings : Settings}
    {url : String} {session release : List Exchange}
    {result : Except op.Failure op.Value}
    (hsession : (op.use settings (.opened url)).Yields session result) (hrelease : Released release)
    (security : Security) : ∀ x ∈ session ++ release,
      TriesWith security security.mode.scheme (security.mode == .startTls) x := by
  intro x hx
  apply triesWith_of_not_opens
  rcases List.mem_append.mp hx with hx | hx
  · have huses := (disciplined_of_use hsession).usesSession x hx
    exact huses.not_opens
  · exact hrelease.not_opens x hx

/-- Nothing that comes after the security is settled opens anything without it. -/
private theorem triesWith_of_yields {op : Operation} {settings : Settings} {xs : List Exchange}
    {result : Except op.Failure op.Value} (valid : settings.validate = .ok ())
    (h : (op.program settings).Yields xs result) : ∃ built negotiated rest,
      Negotiated settings.tls built negotiated ∧ xs = built ++ rest ∧
      (∀ e, negotiated = .error e → rest = [] ∧ result = .error (op.fail e)) ∧
      ∀ security, negotiated = .ok security → ∀ x ∈ rest,
        TriesWith security security.mode.scheme (security.mode == .startTls) x := by
  rcases (Operation.yields_program op settings xs result).mp h with ⟨e, hopening, rfl⟩ |
    ⟨opening, url, session, release, hopening, hsession, hrelease, rfl⟩
  · obtain ⟨built, negotiated, tries, hnegotiated, rfl, hfailed, htries⟩ :=
      triesWith_of_opening valid hopening
    refine ⟨built, negotiated, tries, hnegotiated, rfl, ?_, htries⟩
    intro e' he'
    obtain ⟨rfl, heq⟩ := hfailed e' he'
    cases heq
    exact ⟨rfl, rfl⟩
  · obtain ⟨built, negotiated, tries, hnegotiated, rfl, hfailed, htries⟩ :=
      triesWith_of_opening valid hopening
    have hassoc := List.append_assoc built tries (session ++ release)
    refine ⟨built, negotiated, tries ++ (session ++ release), hnegotiated, hassoc, ?_, ?_⟩
    · intro e he
      cases (hfailed e he).2
    · intro security hsecurity x hx
      rcases List.mem_append.mp hx with hx | hx
      · exact htries security hsecurity x hx
      · exact triesWith_of_session hsession hrelease security x hx

private theorem secured_of_invalid {op : Operation} {settings : Settings} {xs : List Exchange}
    {result : Except op.Failure op.Value} {violation}
    (invalid : settings.validate = .error violation)
    (h : (op.program settings).Yields xs result) : Secured op settings xs result := by
  rcases (Operation.yields_program op settings xs result).mp h with ⟨e, hopening, rfl⟩ |
    ⟨opening, url, session, release, hopening, -⟩
  · obtain ⟨rfl, herror⟩ := hopening.of_invalid invalid
    cases herror
    exact .invalid invalid
  · cases (hopening.of_invalid invalid).2

/-- The security that the settings ask for is the one that every server is tried with, after its
certificates and keys were asked for once, and without them none is tried. -/
theorem security_kept {σ : Type} (world : World σ) (state : σ) (op : Operation)
    (settings : Settings) :
    Secured op settings ((op.program settings).run world state).exchanges
      ((op.program settings).run world state).result := by
  have hrun := Program.yields_run world (op.program settings) state
  cases valid : settings.validate with
  | error violation =>
      exact secured_of_invalid valid hrun
  | ok =>
      obtain ⟨built, negotiated, rest, hnegotiated, hxs, hfailed, hrest⟩ :=
        triesWith_of_yields valid hrun
      rw [hxs]
      cases hnegotiated with
      | plain h =>
          rw [Mode.isSecure_ofSettings, Bool.or_eq_false_iff] at h
          exact .plain valid h (hrest _ rfl)
      | unbuilt h e =>
          rw [Mode.isSecure_ofSettings, Bool.or_eq_true] at h
          obtain ⟨rfl, hresult⟩ := hfailed e rfl
          rw [hresult]
          exact .unbuilt valid h e
      | built h material =>
          rw [Mode.isSecure_ofSettings, Bool.or_eq_true] at h
          have htries := hrest _ rfl
          rw [scheme_ofSettings h, upgrades_ofSettings h, ofSettings_of_secure h] at htries
          exact .built valid h material htries

end DirectoryLogin.Client
