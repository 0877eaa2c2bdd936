import DirectoryLogin.Proofs.Discipline
import DirectoryLogin.Scripted.Directory

/-!
# Release of the session

An operation that opens a session asks it for binds and searches only and then releases it once: it
closes the session, and gives it up exactly if that failed. How the session was closed plays no part
in the result.
-/

namespace DirectoryLogin.Session

theorem Call.UsesSession.ne_close {call : Call} (h : call.UsesSession) : call ≠ .close := by
  intro hclose
  rw [hclose] at h
  exact h

theorem Preliminary.ne_close {x : Exchange} (h : Preliminary x) : x.call ≠ .close := by
  cases h <;> nofun

end DirectoryLogin.Session

namespace DirectoryLogin.Client

open Config (Settings)
open Session

private theorem Opening.ne_close {settings : Settings} {xs : List Exchange}
    {acquired : Except Directory.Error Connection} (h : Opening settings xs acquired) :
    ∀ x ∈ xs, x.call ≠ .close := by
  cases acquired with
  | error e => exact fun x hx => (h.preliminary x hx).ne_close
  | ok connection =>
      obtain ⟨url, rfl⟩ := h.exists_opened
      obtain ⟨opening, security, rfl, hopening⟩ := h.connected
      intro x hx
      rcases List.mem_append.mp hx with hx | hx
      · exact (hopening x hx).ne_close
      · rw [List.mem_singleton.mp hx]
        nofun

/-- Runs that differ in the answer to the close only have the same result. -/
private theorem result_eq_of_agreeOn {op : Operation} {settings : Settings} {xs ys : List Exchange}
    {a b : Except op.Failure op.Value} (ha : (op.program settings).Yields xs a)
    (hb : (op.program settings).Yields ys b) (h : AgreeOn (· ≠ .close) xs ys) : a = b := by
  -- Nothing is closed before there is a session, so both runs come to it by the same exchanges.
  have acquired {xs' ys' : List Exchange} {r r' : Except Directory.Error Connection}
      (xs'' ys'' : List Exchange) (hr : Opening settings xs' r) (hr' : Opening settings ys' r')
      (h : AgreeOn (· ≠ .close) (xs' ++ xs'') (ys' ++ ys'')) : xs' = ys' ∧ r = r' := by
    have hyields := (yields_acquire settings xs' r).mpr hr
    have hyields' := (yields_acquire settings ys' r').mpr hr'
    exact hyields.eq_of_agreeOn hyields' hr.ne_close h
  rcases (Operation.yields_program op settings xs a).mp ha with ⟨e, hxs, rfl⟩ |
    ⟨opening, url, session, release, hxs, hsession, -, rfl⟩ <;>
  rcases (Operation.yields_program op settings ys b).mp hb with ⟨e', hys, rfl⟩ |
    ⟨opening', url', session', release', hys, hsession', -, rfl⟩
  · obtain ⟨-, heq⟩ := acquired [] [] hxs hys (by simpa using h)
    cases heq
    rfl
  · obtain ⟨-, heq⟩ := acquired [] _ hxs hys (by simpa using h)
    cases heq
  · obtain ⟨-, heq⟩ := acquired _ [] hxs hys (by simpa using h)
    cases heq
  · obtain ⟨rfl, heq⟩ := acquired _ _ hxs hys h
    cases heq
    have huse : ∀ x ∈ session, x.call ≠ .close :=
      fun x hx => ((disciplined_of_use hsession).usesSession x hx).ne_close
    exact (hsession.eq_of_agreeOn hsession' huse (h.append_left opening)).2

/-- Every session is used for binds and searches and then released exactly once, on success and on
every way to fail, and the result does not depend on how its close was answered. -/
theorem session_released_once {σ σ' : Type} (world : World σ) (world' : World σ') (state : σ)
    (state' : σ') (op : Operation) (settings : Settings) :
    SessionTrace (fun session => ∀ x ∈ session, x.call.UsesSession)
        ((op.program settings).run world state).exchanges ∧
      (AgreeOn (· ≠ .close) ((op.program settings).run world state).exchanges
          ((op.program settings).run world' state').exchanges →
        ((op.program settings).run world state).result =
          ((op.program settings).run world' state').result) := by
  have hrun := Program.yields_run world (op.program settings) state
  have hrun' := Program.yields_run world' (op.program settings) state'
  constructor
  · apply Operation.sessionTrace_of_yields _ hrun
    intro url session result hsession
    exact (disciplined_of_use hsession).usesSession
  · exact result_eq_of_agreeOn hrun hrun'

theorem session_released_once_failedClose :
    AgreeOn (· ≠ .close)
        ((Operation.testConnectivity.program { urls := ["ldap1", "ldap2"], anonymous := true }).run
          (Scripted.world none) { unreachable := ["ldap1"] }).exchanges
        ((Operation.testConnectivity.program { urls := ["ldap1", "ldap2"], anonymous := true }).run
          (Scripted.world none)
            { unreachable := ["ldap1"], closeError? := some "gone" }).exchanges ∧
      ((Operation.testConnectivity.program { urls := ["ldap1", "ldap2"], anonymous := true }).run
          (Scripted.world none) { unreachable := ["ldap1"] }).result =
        ((Operation.testConnectivity.program { urls := ["ldap1", "ldap2"], anonymous := true }).run
          (Scripted.world none)
            { unreachable := ["ldap1"], closeError? := some "gone" }).result := by
  refine ⟨?agree, (session_released_once _ _ _ _ _ _).2 ?agree⟩
  exact AgreeOn.of_first_difference .close (.ok ()) (.error ⟨none, "gone"⟩)
    [⟨.connect "ldap1" .plain none, .error ⟨none, "connection refused: ldap1"⟩⟩,
      ⟨.connect "ldap2" .plain none, .ok ()⟩, ⟨.anonymousBind, .ok ()⟩] [] [⟨.abort, ()⟩]
    (fun h => h rfl) nofun

end DirectoryLogin.Client
