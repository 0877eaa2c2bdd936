import DirectoryLogin.Proofs.Classification
import DirectoryLogin.Scripted.Directory

/-!
# What a connectivity test predicts

A test of the connection opens a session and binds as the other operations do. Where what secures
connections, the servers and the service account answer it as they answer another operation, a test
that fails shows the failure of that operation, and one that succeeds rules out faults of the
configuration and unreachable servers.
-/

namespace DirectoryLogin.Session

theorem Preliminary.opens {x : Exchange} (h : Preliminary x) : x.call.Opens := by
  cases h <;> trivial

def Connected (xs : List Exchange) : Prop := ∃ rest, AfterConnection xs rest

end DirectoryLogin.Session

namespace DirectoryLogin.Client

open Config (Settings)
open Session

/-- The call leads up to a session, or binds as the service account. -/
def Prepares (settings : Settings) (call : Call) : Prop :=
  call.Opens ∨ call = .simpleBind settings.readerDn settings.password

/-- What a test with these exchanges says of another operation. -/
structure Predicted (op : Operation) (settings : Settings) (tested : Except Directory.Error Unit)
    (testing xs : List Exchange) (result : Except op.Failure op.Value) : Prop where
  connected : Connected testing ↔ Connected xs
  /-- A test that fails, in anonymous mode before it has a session, fails as the operation does, and
  nothing is searched for. -/
  failure : ∀ e, tested = .error e → settings.anonymous = false ∨ ¬ Connected testing →
    result = .error (op.fail e) ∧ searches xs = []
  /-- After a test that succeeds, or in anonymous mode only has a session, the operation does not
  fail for want of a server or because of the configuration. -/
  success : tested = .ok () ∨ settings.anonymous = true ∧ Connected testing →
    op.error? result ≠ some .noReachableServer ∧
      ∀ fault, op.error? result ≠ some (.config fault)

/-! ## Coming to a session alike -/

private theorem Opening.opens {settings : Settings} {xs : List Exchange}
    {acquired : Except Directory.Error Connection} (h : Opening settings xs acquired) :
    ∀ x ∈ xs, x.call.Opens := by
  cases acquired with
  | error e => exact fun x hx => (h.preliminary x hx).opens
  | ok connection =>
      obtain ⟨url, rfl⟩ := h.exists_opened
      obtain ⟨opening, security, rfl, hopening⟩ := h.connected
      refine List.forall_mem_append.mpr ⟨fun x hx => (hopening x hx).opens, ?_⟩
      simp [Call.Opens]

/-- Operations that are answered alike until they have a session come to it alike. -/
private theorem Opening.eq_of_agreeOn {settings : Settings} {xs ys xs' ys' : List Exchange}
    {acquired acquired' : Except Directory.Error Connection} (h : Opening settings xs acquired)
    (h' : Opening settings ys acquired')
    (agree : AgreeOn (Prepares settings) (xs ++ xs') (ys ++ ys')) :
    xs = ys ∧ acquired = acquired' := by
  have hyields := (yields_acquire settings xs acquired).mpr h
  have hyields' := (yields_acquire settings ys acquired').mpr h'
  exact hyields.eq_of_agreeOn hyields' (fun x hx => .inl (h.opens x hx)) agree

private theorem Opening.not_connected {settings : Settings} {xs : List Exchange}
    {e : Directory.Error} (h : Opening settings xs (.error e)) : ¬ Connected xs :=
  fun ⟨_, hafter⟩ => not_afterConnection_of_preliminary h.preliminary hafter

private theorem Opening.isConnected {settings : Settings} {xs : List Exchange}
    {url : String} (h : Opening settings xs (.ok (.opened url))) (rest : List Exchange) :
    Connected (xs ++ rest) := by
  obtain ⟨opening, security, rfl, -⟩ := h.connected
  exact ⟨rest, opening, url, security, settings.connectTimeout, List.append_assoc _ _ _⟩

/-! ## Binding alike -/

/-- The first bind of a test and that of another operation, answered alike. Without a service
account only the test binds, and its bind plays no part for the operation. -/
private theorem InitialBind.eq_of_agreeOn {op : Operation} {settings : Settings}
    {login login' rest rest' : List Exchange} {bound bound' : Except Directory.Error Unit}
    (hop : op ≠ .testConnectivity) (h : InitialBind .testConnectivity settings login bound)
    (h' : InitialBind op settings login' bound')
    (agree : AgreeOn (Prepares settings) (login ++ rest) (login' ++ rest')) :
    bound' = if settings.anonymous then .ok () else bound := by
  have named (hnamed : settings.anonymous = false) (heq : bound' = bound) :
      bound' = if settings.anonymous then .ok () else bound := by
    rw [heq, hnamed]
    rfl
  cases h' with
  | omitted hanonymous => rw [if_pos hanonymous]
  | anonymous _ htest | anonymousRefused _ htest => exact absurd htest hop
  | reader hnamed =>
      refine named hnamed ?_
      cases h with
      | omitted _ hne => exact absurd rfl hne
      | anonymous hanonymous | anonymousRefused hanonymous => simp [hnamed] at hanonymous
      | reader => rfl
      | readerRefused => cases agree.head (.inr rfl)
  | readerRefused hnamed cause =>
      refine named hnamed ?_
      cases h with
      | omitted _ hne => exact absurd rfl hne
      | anonymous hanonymous | anonymousRefused hanonymous => simp [hnamed] at hanonymous
      | reader => cases agree.head (.inr rfl)
      | readerRefused =>
          cases agree.head (.inr rfl)
          rfl

private theorem predicted_of_opened {op : Operation} {settings : Settings}
    {opening session release session' release' : List Exchange} {url : String}
    {tested : Except Directory.Error Unit} {result : Except op.Failure op.Value}
    (hop : op ≠ .testConnectivity) (opened : Opening settings opening (.ok (.opened url)))
    (bind : InitialBind .testConnectivity settings session tested)
    (used : (op.use settings (.opened url)).Yields session' result) (released : Released release')
    (agree : AgreeOn (Prepares settings) (session ++ release) (session' ++ release')) :
    Predicted op settings tested (opening ++ (session ++ release))
      (opening ++ (session' ++ release')) result := by
  have hconnected := opened.isConnected (session ++ release)
  have hconnected' := opened.isConnected (session' ++ release')
  rcases Operation.bind_or_task_of_use used with
    ⟨e, bind', rfl⟩ | ⟨login, task, bind', htask, rfl⟩
  · have hbound := bind.eq_of_agreeOn hop bind' agree
    have hnamed : settings.anonymous = false := by
      rw [← Bool.not_eq_true]
      intro hanonymous
      simp [hanonymous] at hbound
    obtain rfl : .error e = tested := by simpa [hnamed] using hbound
    refine ⟨iff_of_true hconnected hconnected', fun e' he' _ => ?_, fun hsuccess => ?_⟩
    · cases he'
      exact ⟨rfl, searches_opened opened bind' released []⟩
    · simp [hnamed] at hsuccess
  · rw [List.append_assoc] at agree hconnected' ⊢
    have hbound := bind.eq_of_agreeOn hop bind' agree
    refine ⟨iff_of_true hconnected hconnected', fun e he hfails => ?_, fun _ => ?_⟩
    · have hnamed := hfails.resolve_right (not_not_intro hconnected)
      simp [hnamed, he] at hbound
    · have h := Stage.error?_ne_of_ending (ending_of_task htask)
      exact ⟨h.2, h.1⟩

private theorem predicted_of_yields {op : Operation} {settings : Settings}
    {testing xs : List Exchange} {tested : Except Directory.Error Unit}
    {result : Except op.Failure op.Value} (hop : op ≠ .testConnectivity)
    (htest : (testConnectivity settings).Yields testing tested)
    (h : (op.program settings).Yields xs result)
    (agree : AgreeOn (Prepares settings) testing xs) :
    Predicted op settings tested testing xs result := by
  have htest := (Operation.yields_program .testConnectivity settings testing tested).mp htest
  have h := (Operation.yields_program op settings xs result).mp h
  rcases htest with
      ⟨e, opening, rfl⟩ | ⟨opening, url, session, release, opened, used, released, rfl⟩
  · rw [← List.append_nil testing] at agree
    rcases h with ⟨e', opening', rfl⟩ | ⟨opening', url', session', release', opened', -, -, rfl⟩
    · rw [← List.append_nil xs] at agree
      obtain ⟨rfl, heq⟩ := opening.eq_of_agreeOn opening' agree
      cases heq
      refine ⟨Iff.rfl, fun e he _ => ?_, fun hsuccess => ?_⟩
      · cases he
        exact ⟨rfl, opening.searches⟩
      · simp [opening.not_connected] at hsuccess
    · cases (opening.eq_of_agreeOn opened' agree).2
  · rcases h with ⟨e', opening', rfl⟩ |
      ⟨opening', url', session', release', opened', used', released', rfl⟩
    · rw [← List.append_nil xs] at agree
      cases (opened.eq_of_agreeOn opening' agree).2
    · obtain ⟨rfl, heq⟩ := opened.eq_of_agreeOn opened' agree
      cases heq
      exact predicted_of_opened hop opened (initialBind_of_probe used) used' released'
        (agree.append_left opening)

/-- A connectivity test predicts every other operation with the same settings that is answered alike
by what secures connections, by the servers and by the service account. -/
theorem connectivity_predicts {σ σ' : Type} (world : World σ) (world' : World σ') (state : σ)
    (state' : σ') (settings : Settings) (op : Operation) (hop : op ≠ .testConnectivity)
    (agree : AgreeOn (Prepares settings)
      ((testConnectivity settings).run world state).exchanges
      ((op.program settings).run world' state').exchanges) :
    Predicted op settings ((testConnectivity settings).run world state).result
      ((testConnectivity settings).run world state).exchanges
      ((op.program settings).run world' state').exchanges
      ((op.program settings).run world' state').result :=
  predicted_of_yields hop (Program.yields_run world _ state) (Program.yields_run world' _ state')
    agree

/-- The second server is reached and does not let the service account in; how the sessions are
closed plays no part. -/
theorem connectivity_predicts_refusal :
    ∃ (settings : Settings) (script script' : Scripted.Script) (e : Directory.Error),
      Operation.searchUsers ≠ .testConnectivity ∧
      AgreeOn (Prepares settings)
        ((testConnectivity settings).run (Scripted.world none) script).exchanges
        ((searchUsers settings).run (Scripted.world none) script').exchanges ∧
      ((testConnectivity settings).run (Scripted.world none) script).result = .error e ∧
      ((searchUsers settings).run (Scripted.world none) script').result = .error ⟨[], e⟩ ∧
      searches ((searchUsers settings).run (Scripted.world none) script').exchanges = [] := by
  let settings : Settings :=
    { urls := ["ldap1", "ldap2"], readerDn := "cn=reader", password := "secret"
      userSearches := [{ baseDn := "ou=people" }] }
  let script : Scripted.Script := { unreachable := ["ldap1"] }
  let script' : Scripted.Script :=
    { unreachable := ["ldap1"], closeError? := some "gone"
      rules := [{ base := "ou=people", answer := .ok [{ dn := "uid=ada" }] }] }
  let rejection : Directory.SessionError := ⟨some 49, "rc=49: invalid credentials"⟩
  have agree : AgreeOn (Prepares settings)
      ((testConnectivity settings).run (Scripted.world none) script).exchanges
      ((searchUsers settings).run (Scripted.world none) script').exchanges :=
    AgreeOn.of_first_difference .close (.ok ()) (.error ⟨none, "gone"⟩)
      [⟨.connect "ldap1" .plain none, .error ⟨none, "connection refused: ldap1"⟩⟩,
        ⟨.connect "ldap2" .plain none, .ok ()⟩,
        ⟨.simpleBind "cn=reader" "secret", .error rejection⟩] [] [⟨.abort, ()⟩]
      (by simp [Prepares, Call.Opens]) (by simp)
  have hop : Operation.searchUsers ≠ .testConnectivity := by simp
  have h := connectivity_predicts (Scripted.world none) (Scripted.world none) script script'
    settings .searchUsers hop agree
  have hfailure := h.failure (.config (.reader rejection)) rfl (.inl rfl)
  exact ⟨settings, script, script', _, hop, agree, rfl, hfailure⟩

end DirectoryLogin.Client
