import DirectoryLogin.Proofs.Stage
import DirectoryLogin.Wire.Link

/-!
# What errors say of a run

The error of an operation tells the stage at which it failed: before any server was tried, at the
servers, at the first bind, at the search for a user or at a search of an enumeration.
-/

namespace DirectoryLogin.Session

/-- What secures connections fails to be made only because of the configuration. -/
def World.BuildsAsConfigured {σ : Type} (world : World σ) : Prop :=
  ∀ request state e, (world.reply (.build request) state).1.answer = .error e →
    ∃ fault, e = .config fault

theorem exists_of_mem_exchanges {σ α : Type} (world : World σ) (program : Program α) (state : σ)
    {x : Exchange} (h : x ∈ (program.run world state).exchanges) :
    ∃ asked, x.answer = (world.reply x.call asked).1.answer := by
  induction program generalizing state with
  | done => cases h
  | note event rest ih => exact ih state h
  | ask _ c rest ih =>
      rw [Program.exchanges_run_ask] at h
      rcases List.mem_cons.mp h with rfl | hrest
      · exact ⟨state, rfl⟩
      · exact ih _ _ hrest

end DirectoryLogin.Session

namespace DirectoryLogin.Wire

theorem buildsAsConfigured_ofFiles (files : Files) (now : Der.Instant) :
    (world (.ofFiles files) now).BuildsAsConfigured := by
  intro request link e h
  change (Transport.Material.build files request).2.mapError _ = .error e at h
  cases hbuilt : (Transport.Material.build files request).2 with
  | error fault =>
      rw [hbuilt] at h
      exact ⟨_, (Except.error.inj h).symm⟩
  | ok material =>
      rw [hbuilt] at h
      cases h

end DirectoryLogin.Wire

namespace DirectoryLogin.Client

open Config (Settings)
open Session

/-- What the error of a run says of it. A fault of the configuration means that no server was tried,
or that the first bind was refused and nothing searched for; no reachable server, that all were
tried and nothing else was done; a failed operation, that a search of an enumeration failed; an
unknown user, that every base was searched in vain. -/
structure Classified (op : Operation) (settings : Settings) (xs : List Exchange)
    (result : Except op.Failure op.Value) : Prop where
  config : (∃ fault, op.error? result = some (.config fault)) ↔
    Unprepared settings xs ∨ BindRefused settings xs
  untried : Unprepared settings xs → attempts xs = []
  unsearched : BindRefused settings xs → searches xs = []
  noReachableServer : op.error? result = some .noReachableServer ↔ Exhausted settings xs
  exhausted : Exhausted settings xs →
    result = .error (op.fail .noReachableServer) ∧ TriedOnly settings xs
  operation : (∃ fault, op.error? result = some (.operation fault)) ↔
    op.Enumerates ∧ ∃ search ∈ searches xs, IsFailure search.2
  userNotFound : op.error? result = some .userNotFound ↔
    ∃ username, op.LooksUp username ∧ Reached settings xs ∧ Missed settings username (searches xs)
  unauthorized : op.error? result = some .unauthorized →
    ∃ username password, op = .authenticate username password
  /-- Only a failed search leaves anything to hand out beside the error. -/
  nothingElse : ∀ failure, result = .error failure →
    (∃ fault, op.cause failure = .operation fault) ∨ failure = op.fail (op.cause failure)

namespace Stage

variable {op : Operation} {settings : Settings} {xs : List Exchange}
  {result : Except op.Failure op.Value}

/-- A task does not fail as an operation fails before it. -/
theorem error?_ne_of_ending {made : List (Directory.SearchRequest × SearchAnswer)}
    (h : Ending op settings made result) :
    (∀ fault, op.error? result ≠ some (.config fault)) ∧
      op.error? result ≠ some .noReachableServer := by
  cases h with
  | fine | unauthorized | unknown => simp [Operation.error?]
  | broken _ _ _ _ hcause => simp [Operation.error?, hcause]

private theorem config_iff (h : Stage op settings xs result) :
    (∃ fault, op.error? result = some (.config fault)) ↔
      Unprepared settings xs ∨ BindRefused settings xs := by
  cases h with
  | hindered h =>
      rw [op.error?_fail]
      cases h with
      | unprepared h _ fault => exact iff_of_true ⟨fault, rfl⟩ (.inl h)
      | unreachable prepared h =>
          exact iff_of_false nofun (not_or.mpr ⟨prepared, h.not_bindRefused⟩)
      | refused _ h fault => exact iff_of_true ⟨fault, rfl⟩ (.inr h)
  | performed prepared admitted reached ending =>
      refine iff_of_false ?_ (not_or.mpr ⟨prepared, admitted⟩)
      rintro ⟨fault, hfault⟩
      exact (error?_ne_of_ending ending).1 fault hfault

private theorem noReachableServer_iff (h : Stage op settings xs result) :
    op.error? result = some .noReachableServer ↔ Exhausted settings xs := by
  cases h with
  | hindered h =>
      rw [op.error?_fail]
      cases h with
      | unprepared _ untried => exact iff_of_false nofun fun hexhausted => hexhausted.1 untried
      | unreachable _ h => exact iff_of_true rfl h
      | refused _ h => exact iff_of_false nofun fun hexhausted => hexhausted.not_bindRefused h
  | performed _ _ reached ending =>
      obtain ⟨rest, hafter, -⟩ := reached
      refine iff_of_false (error?_ne_of_ending ending).2 fun hexhausted => ?_
      exact not_afterConnection_of_exhausted hexhausted hafter

private theorem operation_iff (h : Stage op settings xs result) :
    (∃ fault, op.error? result = some (.operation fault)) ↔
      op.Enumerates ∧ ∃ search ∈ searches xs, IsFailure search.2 := by
  cases h with
  | hindered h unsearched =>
      rw [op.error?_fail, unsearched]
      cases h <;> simp
  | performed _ _ _ ending =>
      cases ending with
      | fine value enumerated =>
          refine iff_of_false nofun fun ⟨henumerates, search, hsearch, hfailure⟩ => ?_
          exact enumerated henumerates search hsearch hfailure
      | unauthorized username password h =>
          subst h
          exact iff_of_false nofun nofun
      | unknown username h =>
          rw [op.error?_fail]
          exact iff_of_false nofun fun henumerated => h.not_enumerates henumerated.1
      | broken failure fault h failed hcause =>
          exact iff_of_true ⟨fault, congrArg some hcause⟩ ⟨h, failed⟩

private theorem userNotFound_iff (h : Stage op settings xs result) :
    op.error? result = some .userNotFound ↔ ∃ username, op.LooksUp username ∧
      Reached settings xs ∧ Missed settings username (searches xs) := by
  cases h with
  | hindered h _ unreached =>
      rw [op.error?_fail]
      refine iff_of_false (by cases h <;> nofun) fun ⟨username, hlooks, hreached, _⟩ => ?_
      refine unreached ?_ hreached
      rintro rfl
      cases hlooks
  | performed _ _ reached ending =>
      cases ending with
      | fine value _ found =>
          exact iff_of_false nofun fun ⟨username, hlooks, _, hmissed⟩ => found _ hlooks hmissed
      | unauthorized username password h =>
          subst h
          exact iff_of_false nofun nofun
      | unknown username h missed =>
          rw [op.error?_fail]
          exact iff_of_true rfl ⟨username, h, reached, missed⟩
      | broken failure fault h _ hcause =>
          refine iff_of_false ?_ fun ⟨username, hlooks, _⟩ => hlooks.not_enumerates h
          simp [Operation.error?, hcause]

private theorem authenticate_of_unauthorized (h : Stage op settings xs result)
    (hresult : op.error? result = some .unauthorized) :
    ∃ username password, op = .authenticate username password := by
  cases h with
  | hindered h =>
      rw [op.error?_fail] at hresult
      cases h <;> cases hresult
  | performed _ _ _ ending =>
      cases ending with
      | fine => cases hresult
      | unauthorized username password h => exact ⟨username, password, h⟩
      | unknown =>
          rw [op.error?_fail] at hresult
          cases hresult
      | broken _ _ _ _ hcause => simp [Operation.error?, hcause] at hresult

private theorem nothing_else {failure : op.Failure}
    (h : Stage op settings xs (.error failure)) :
    (∃ fault, op.cause failure = .operation fault) ∨ failure = op.fail (op.cause failure) := by
  cases h with
  | hindered => exact .inr (by rw [op.cause_fail])
  | performed _ _ _ ending =>
      cases ending with
      | unauthorized | unknown => exact .inr (by rw [op.cause_fail])
      | broken _ fault _ _ hcause => exact .inl ⟨fault, hcause⟩

private theorem classified (h : Stage op settings xs result) :
    Classified op settings xs result where
  config := h.config_iff
  untried := by
    intro hunprepared
    cases h with
    | hindered h =>
        cases h with
        | unprepared _ untried => exact untried
        | unreachable prepared | refused prepared => exact absurd hunprepared prepared
    | performed prepared => exact absurd hunprepared prepared
  unsearched := by
    intro hrefused
    cases h with
    | hindered _ unsearched => exact unsearched
    | performed _ admitted => exact absurd hrefused admitted
  noReachableServer := h.noReachableServer_iff
  exhausted := by
    intro hexhausted
    cases h with
    | hindered h =>
        cases h with
        | unprepared _ untried => exact absurd untried hexhausted.1
        | unreachable _ _ tried => exact ⟨rfl, tried⟩
        | refused _ hrefused => exact absurd hrefused hexhausted.not_bindRefused
    | performed _ _ reached =>
        obtain ⟨rest, hafter, -⟩ := reached
        exact absurd hafter (not_afterConnection_of_exhausted hexhausted)
  operation := h.operation_iff
  userNotFound := h.userNotFound_iff
  unauthorized := h.authenticate_of_unauthorized
  nothingElse := by
    rintro failure rfl
    exact h.nothing_else

end Stage

/-- Where certificates and keys fail because of the configuration only, the error of an operation
tells at which stage it failed, and every stage has its own error. -/
theorem errors_classified {σ : Type} (world : World σ) (hworld : world.BuildsAsConfigured)
    (state : σ) (op : Operation) (settings : Settings) :
    Classified op settings ((op.program settings).run world state).exchanges
      ((op.program settings).run world state).result := by
  have hcourse := course_of_yields (Program.yields_run world (op.program settings) state)
  refine (stage_of_course hcourse fun request e hmem => ?_).classified
  obtain ⟨asked, hanswer⟩ := exists_of_mem_exchanges world _ _ hmem
  exact hworld request asked e hanswer.symm

/-- The file of the authorities is not there. -/
theorem errors_classified_missingFile :
    let files : Files := fun _ => .unopened .missing
    let settings : Settings :=
      { urls := ["ldap1"], anonymous := true, tls := { enabled := true, caPath := some "ca.pem" } }
    let e : Directory.Error := .config (.material (.certificatesUnopened "ca.pem" .missing))
    let run := (Operation.program settings .searchUsers).run (Wire.world (.ofFiles files) 0)
      { servers := [] }
    (Wire.world (.ofFiles files) 0).BuildsAsConfigured ∧
      run.result = .error (.ofError e) ∧
      Classified .searchUsers settings run.exchanges (.error (.ofError e)) := by
  intro files settings e run
  have hworld := Wire.buildsAsConfigured_ofFiles files 0
  have h := errors_classified (Wire.world (.ofFiles files) 0) hworld { servers := [] } .searchUsers
    settings
  exact ⟨hworld, rfl, h⟩

end DirectoryLogin.Client
