import DirectoryLogin.Proofs.Course

/-!
# The stages of an operation

An operation is hindered before it has tried any server, at the servers or at the first bind, or it
comes to its task and ends with that. `stage_of_course` reads the stage off a run together with what
the exchanges show of it, the other stages ruled out.
-/

namespace DirectoryLogin.Session

theorem AfterConnection.exists_attempt {xs rest : List Exchange} (h : AfterConnection xs rest) :
    ∃ url, (url, .ok ()) ∈ attempts xs := by
  obtain ⟨before, url, security, timeout, rfl⟩ := h
  refine ⟨url, ?_⟩
  rw [attempts_append]
  exact List.mem_append_right _ List.mem_cons_self

theorem attempts_of_refused {security : Transport.Security} {timeout : Option UInt64}
    {urls : List String} {xs : List Exchange}
    (h : List.Forall₂ (Refused security timeout) urls xs) :
    List.Forall₂ (fun url attempt => ∃ cause, attempt = (url, .error cause)) urls
      (attempts xs) := by
  induction h with
  | nil => exact .nil
  | cons h _ ih =>
      obtain ⟨cause, rfl⟩ := h
      exact .cons ⟨cause, rfl⟩ ih

end DirectoryLogin.Session

namespace DirectoryLogin.Client

open Config (Settings)
open Directory (ConfigFault OperationFault SearchRequest)
open Session

namespace Operation

def cause : (op : Operation) → op.Failure → Directory.Error
  | .searchUsers, failure => failure.error
  | .searchGroups, failure => failure.error
  | .authenticate .., e | .resolveUser _, e | .userGroups _, e | .testConnectivity, e => e

@[simp] theorem cause_fail (op : Operation) (e : Directory.Error) : op.cause (op.fail e) = e := by
  cases op <;> rfl

def error? (op : Operation) : Except op.Failure op.Value → Option Directory.Error
  | .ok _ => none
  | .error failure => some (op.cause failure)

@[simp] theorem error?_fail (op : Operation) (e : Directory.Error) :
    op.error? (.error (op.fail e)) = some e :=
  congrArg some (op.cause_fail e)

/-- The operations that tell whether there is a user with this name. -/
inductive LooksUp : Operation → String → Prop
  | resolveUser (username : String) : LooksUp (.resolveUser username) username
  | userGroups (username : String) : LooksUp (.userGroups username) username

/-- The operations that list all there is. -/
inductive Enumerates : Operation → Prop
  | searchUsers : Enumerates .searchUsers
  | searchGroups : Enumerates .searchGroups

theorem LooksUp.not_enumerates {op : Operation} {username : String} (h : op.LooksUp username) :
    ¬ op.Enumerates := by
  cases h <;> nofun

end Operation

/-! ## Stages -/

/-- The settings break a rule, or what secures connections could not be made. -/
def Unprepared (settings : Settings) (xs : List Exchange) : Prop :=
  settings.validate ≠ .ok () ∨ ∃ request e, ⟨.build request, .error e⟩ ∈ xs

/-- Servers were tried, and every configured one in vain. -/
def Exhausted (settings : Settings) (xs : List Exchange) : Prop :=
  attempts xs ≠ [] ∧
    List.Forall₂ (fun url attempt => ∃ cause, attempt = (url, .error cause)) settings.urls
      (attempts xs)

/-- Beside what secures connections nothing was asked for but one connection to each server. -/
def TriedOnly (settings : Settings) (xs : List Exchange) : Prop :=
  ∃ security built tried, Negotiated settings.tls built (.ok security) ∧
    List.Forall₂ (Refused security settings.connectTimeout) settings.urls tried ∧
    xs = built ++ tried

/-- The bind is the first one of an operation, and is refused. -/
inductive Refusal (settings : Settings) : Exchange → Prop
  | reader (h : settings.anonymous = false) (cause : Directory.SessionError) :
      Refusal settings ⟨.simpleBind settings.readerDn settings.password, .error cause⟩
  | anonymous (cause : Directory.SessionError) :
      Refusal settings ⟨.anonymousBind, .error cause⟩

/-- The first bind on the session was refused. -/
def BindRefused (settings : Settings) (xs : List Exchange) : Prop :=
  ∃ refusal later, AfterConnection xs (refusal :: later) ∧ Refusal settings refusal

theorem not_afterConnection_of_exhausted {settings : Settings} {xs rest : List Exchange}
    (h : Exhausted settings xs) : ¬ AfterConnection xs rest := by
  intro hafter
  obtain ⟨url, hurl⟩ := hafter.exists_attempt
  obtain ⟨-, hall⟩ := h
  generalize settings.urls = urls, attempts xs = tried at hall hurl
  induction hall with
  | nil => cases hurl
  | cons h _ ih =>
      obtain ⟨cause, rfl⟩ := h
      rcases List.mem_cons.mp hurl with heq | hurl
      · cases heq
      · exact ih hurl

theorem Exhausted.not_bindRefused {settings : Settings} {xs : List Exchange}
    (h : Exhausted settings xs) : ¬ BindRefused settings xs :=
  fun ⟨_, _, hafter, _⟩ => not_afterConnection_of_exhausted h hafter

/-! ## What is asked before and after the session is there -/

private theorem Negotiated.build_notMem {tls : Config.TlsSettings} {xs : List Exchange}
    {security : Transport.Security} (h : Negotiated tls xs (.ok security))
    (request : Transport.MaterialRequest) (e : Directory.Error) :
    ⟨.build request, .error e⟩ ∉ xs := by
  cases h with
  | plain => exact List.not_mem_nil
  | built =>
      intro hmem
      cases List.mem_singleton.mp hmem

private theorem Negotiated.attempts {tls : Config.TlsSettings} {xs : List Exchange}
    {negotiated : Except Directory.Error Transport.Security} (h : Negotiated tls xs negotiated) :
    attempts xs = [] := by
  cases h <;> rfl

private theorem build_notMem_of_refused {security : Transport.Security} {timeout : Option UInt64}
    {urls : List String} {xs : List Exchange}
    (h : List.Forall₂ (Refused security timeout) urls xs) (request : Transport.MaterialRequest)
    (e : Directory.Error) : ⟨.build request, .error e⟩ ∉ xs := by
  intro hmem
  obtain ⟨url, cause, heq⟩ := exists_of_refused h _ hmem
  cases heq

private theorem Opening.build_notMem {settings : Settings} {xs : List Exchange}
    {url : String} (h : Opening settings xs (.ok (.opened url)))
    (request : Transport.MaterialRequest) (e : Directory.Error) :
    ⟨.build request, .error e⟩ ∉ xs := by
  cases h with
  | opened _ negotiated _ refused =>
      simp only [List.mem_append, List.mem_singleton, not_or]
      exact ⟨negotiated.build_notMem request e, build_notMem_of_refused refused request e, nofun⟩

/-! ## The stage of a run -/

/-- How the task of an operation ends after its searches. -/
inductive Ending (op : Operation) (settings : Settings)
    (made : List (SearchRequest × SearchAnswer)) : Except op.Failure op.Value → Prop
  | fine (value : op.Value) (enumerated : op.Enumerates → ∀ search ∈ made, ¬ IsFailure search.2)
      (found : ∀ username, op.LooksUp username → ¬ Missed settings username made) :
      Ending op settings made (.ok value)
  | unauthorized (username password : String) (h : op = .authenticate username password) :
      Ending op settings made (.error (op.fail .unauthorized))
  | unknown (username : String) (h : op.LooksUp username)
      (missed : Missed settings username made) :
      Ending op settings made (.error (op.fail .userNotFound))
  | broken (failure : op.Failure) (fault : OperationFault) (h : op.Enumerates)
      (failed : ∃ search ∈ made, IsFailure search.2)
      (hcause : op.cause failure = .operation fault) :
      Ending op settings made (.error failure)

private theorem isSome_broken_iff {β : Type} {request : β → SearchRequest} {items : List β}
    {xs : List Exchange} {broken : Option OperationFault}
    (h : InTurn (Answered request) (Failed request) items xs broken) :
    broken.isSome ↔ ∃ search ∈ searches xs, IsFailure search.2 := by
  induction h with
  | exhausted => simp [searches]
  | hit h =>
      obtain ⟨cause, rfl, -⟩ := h
      exact ⟨fun _ => ⟨_, List.mem_cons_self, cause, rfl⟩, fun _ => rfl⟩
  | @miss search _ _ xs _ h _ ih =>
      obtain ⟨entries, rfl⟩ := h
      change _ ↔ ∃ made ∈ (request search, .ok entries) :: searches xs, IsFailure made.2
      rw [ih, List.exists_mem_cons_iff, or_iff_right (not_isFailure_ok entries)]

private theorem ending_of_enumeration {op : Operation} {settings : Settings} {β : Type}
    {request : β → SearchRequest} {items : List β} {xs : List Exchange}
    {broken : Option OperationFault} {result : Except op.Failure op.Value} (hop : op.Enumerates)
    (h : InTurn (Answered request) (Failed request) items xs broken)
    (hnone : broken = none → ∃ value, result = .ok value)
    (hsome : ∀ fault, broken = some fault →
      ∃ failure, result = .error failure ∧ op.cause failure = .operation fault) :
    Ending op settings (searches xs) result := by
  have hfailed := isSome_broken_iff h
  cases broken with
  | none =>
      obtain ⟨value, rfl⟩ := hnone rfl
      refine .fine value (fun _ search hsearch hfailure => ?_) fun username hlooks => ?_
      · cases hfailed.mpr ⟨search, hsearch, hfailure⟩
      · exact absurd hop hlooks.not_enumerates
  | some fault =>
      obtain ⟨failure, rfl, hcause⟩ := hsome fault rfl
      exact .broken failure fault hop (hfailed.mp rfl) hcause

theorem ending_of_task {op : Operation} {settings : Settings} {url : String}
    {xs : List Exchange} {result : Except op.Failure op.Value}
    (h : (op.task settings (.opened url)).Yields xs result) :
    Ending op settings (searches xs) result := by
  cases op with
  | authenticate username password =>
      cases (yields_verifyPassword _ _ _ _ _ _).mp h with
      | unknown | untried | rejected => exact .unauthorized username password rfl
      | accepted => exact .fine _ nofun nofun
  | resolveUser username =>
      obtain ⟨found, hfound, rfl⟩ := (yields_searchUser _ _ _ _ _ _).mp h
      cases found with
      | none =>
          have hmissed := missed_of_passedOver (inTurn_none_iff.mp hfound)
          exact .unknown username (.resolveUser _) hmissed
      | some dn =>
          refine .fine _ nofun fun _ hlooks => ?_
          cases hlooks
          exact List.append_nil (searches xs) ▸ not_missed_of_found hfound []
  | userGroups username =>
      cases (yields_lookupGroups _ _ _ _ _).mp h with
      | unknown hmissed => exact .unknown username (.userGroups _) (missed_of_passedOver hmissed)
      | @found xs ys dn hfound groups =>
          refine .fine _ nofun fun _ hlooks => ?_
          cases hlooks
          rw [searches_append]
          exact not_missed_of_found hfound _
  | searchUsers =>
      obtain ⟨broken, hbroken, rfl⟩ := (yields_enumerateUsers _ _ _ _).mp h
      refine ending_of_enumeration .searchUsers hbroken ?_ ?_
      · rintro rfl
        exact ⟨_, rfl⟩
      · rintro fault rfl
        exact ⟨_, rfl, rfl⟩
  | searchGroups =>
      obtain ⟨broken, hbroken, rfl⟩ := (yields_enumerateMemberships _ _ _ _).mp h
      refine ending_of_enumeration .searchGroups hbroken ?_ ?_
      · rintro rfl
        exact ⟨_, rfl⟩
      · rintro fault rfl
        exact ⟨_, rfl, rfl⟩
  | testConnectivity =>
      obtain ⟨-, rfl⟩ := h
      exact .fine _ nofun nofun

/-- How an operation fails before it comes to its task. -/
inductive Hindered (settings : Settings) (xs : List Exchange) : Directory.Error → Prop
  | unprepared (h : Unprepared settings xs) (untried : attempts xs = []) (fault : ConfigFault) :
      Hindered settings xs (.config fault)
  | unreachable (prepared : ¬ Unprepared settings xs) (h : Exhausted settings xs)
      (tried : TriedOnly settings xs) : Hindered settings xs .noReachableServer
  | refused (prepared : ¬ Unprepared settings xs) (h : BindRefused settings xs)
      (fault : ConfigFault) : Hindered settings xs (.config fault)

/-- The stage at which a run ended, with what its exchanges show of that. -/
inductive Stage (op : Operation) (settings : Settings) (xs : List Exchange) :
    Except op.Failure op.Value → Prop
  | hindered {e} (h : Hindered settings xs e) (unsearched : searches xs = [])
      (unreached : op ≠ .testConnectivity → ¬ Reached settings xs) :
      Stage op settings xs (.error (op.fail e))
  | performed {result} (prepared : ¬ Unprepared settings xs) (admitted : ¬ BindRefused settings xs)
      (reached : Reached settings xs) (ending : Ending op settings (searches xs) result) :
      Stage op settings xs result

private theorem urls_ne_nil_of_valid {settings : Settings} (h : settings.validate = .ok ()) :
    settings.urls ≠ [] := by
  rw [Settings.validate_eq_ok_iff] at h
  intro hurls
  simp [Settings.violations, hurls] at h

private theorem hindered_of_opening {settings : Settings} {xs : List Exchange} {e : Directory.Error}
    (h : Opening settings xs (.error e))
    (hbuild : ∀ request e, ⟨.build request, .error e⟩ ∈ xs → ∃ fault, e = .config fault) :
    Hindered settings xs e := by
  cases h with
  | invalid h =>
      refine .unprepared (.inl ?_) rfl _
      rw [h]
      nofun
  | unbuilt valid h =>
      cases h with
      | unbuilt secure e =>
          obtain ⟨fault, rfl⟩ := hbuild _ e List.mem_cons_self
          exact .unprepared (.inr ⟨_, _, List.mem_cons_self⟩) rfl fault
  | @unreachable xs ys security valid h refused =>
      have hattempts : attempts (xs ++ ys) = attempts ys := by
        rw [attempts_append, h.attempts, List.nil_append]
      have htried := attempts_of_refused refused
      rw [← hattempts] at htried
      refine .unreachable ?_ ⟨?_, htried⟩ ⟨security, xs, ys, h, refused, rfl⟩
      · rintro (hinvalid | ⟨request, e, hmem⟩)
        · exact hinvalid valid
        · rcases List.mem_append.mp hmem with hmem | hmem
          · exact h.build_notMem request e hmem
          · exact build_notMem_of_refused refused request e hmem
      · -- Settings without a server do not pass, so some server was tried.
        intro hnone
        rw [hnone, List.forall₂_nil_right_iff] at htried
        exact urls_ne_nil_of_valid valid htried

private theorem prepared_of_opened {settings : Settings} {opening rest : List Exchange}
    {url : String} (h : Opening settings opening (.ok (.opened url)))
    (hrest : ∀ x ∈ rest, ¬ x.call.Opens) :
    ¬ Unprepared settings (opening ++ rest) := by
  rintro (hinvalid | ⟨request, e, hmem⟩)
  · cases h with
    | opened valid => exact hinvalid valid
  · rcases List.mem_append.mp hmem with hmem | hmem
    · exact h.build_notMem request e hmem
    · exact hrest _ hmem trivial

/-- A first bind that was let in, or left out, is followed by nothing that could be taken for one
that was refused. -/
private theorem not_refusal_of_admitted {op : Operation} {settings : Settings}
    {url : String} {login session release later : List Exchange} {refusal : Exchange}
    {result : Except op.Failure op.Value} (bind : InitialBind op settings login (.ok ()))
    (task : (op.task settings (.opened url)).Yields session result) (released : Released release)
    (heq : login ++ (session ++ release) = refusal :: later) : ¬ Refusal settings refusal := by
  intro hrefusal
  cases bind with
  | reader | anonymous => cases hrefusal <;> cases heq
  | omitted hanonymous =>
      have hmem : refusal ∈ session ++ release := by
        rw [List.nil_append] at heq
        rw [heq]
        exact List.mem_cons_self
      cases hrefusal with
      | reader h =>
          rw [hanonymous] at h
          cases h
      | anonymous cause =>
          rcases List.mem_append.mp hmem with hmem | hmem
          · rcases isSearch_or_bind_of_task task _ hmem with hsearch | ⟨dn, password, hbind⟩
            · exact hsearch
            · cases hbind
          · cases released <;> simp at hmem

/-- The stage that a run came to, where what secures connections fails to be made only because of
the configuration. -/
theorem stage_of_course {op : Operation} {settings : Settings} {xs : List Exchange}
    {result : Except op.Failure op.Value} (h : Course op settings xs result)
    (hbuild : ∀ request e, ⟨.build request, .error e⟩ ∈ xs → ∃ fault, e = .config fault) :
    Stage op settings xs result := by
  cases h with
  | unopened h =>
      refine .hindered (hindered_of_opening h hbuild) h.searches fun _ ⟨_, hafter, _⟩ => ?_
      exact not_afterConnection_of_preliminary h.preliminary hafter
  | @refused opening url login release e opened bind released =>
      refine .hindered ?_ ?_ fun hop => bind.not_reached opened hop released.not_opens
      · have hrest := List.forall_mem_append.mpr ⟨bind.not_opens, released.not_opens⟩
        have hprepared := prepared_of_opened opened hrest
        have hafter := (opened.afterConnection_iff hrest).mpr rfl
        cases bind with
        | readerRefused h cause =>
            exact .refused hprepared ⟨_, _, hafter, .reader h cause⟩ _
        | anonymousRefused _ _ cause =>
            exact .refused hprepared ⟨_, _, hafter, .anonymous cause⟩ _
      · exact searches_opened opened bind released []
  | @performed opening url login session release _ opened bind task released =>
      have hlater := not_opens_of_task task released
      have hrest := List.forall_mem_append.mpr ⟨bind.not_opens, hlater⟩
      refine .performed (prepared_of_opened opened hrest) ?_ (bind.reached opened hlater) ?_
      · rintro ⟨refusal, later, hafter, hrefusal⟩
        have heq := (opened.afterConnection_iff hrest).mp hafter
        exact not_refusal_of_admitted bind task released heq.symm hrefusal
      · rw [searches_opened opened bind released]
        exact ending_of_task task

end DirectoryLogin.Client
