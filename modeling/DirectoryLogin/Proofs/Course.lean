import DirectoryLogin.Proofs.Collecting
import DirectoryLogin.Proofs.Discipline

/-!
# The course of an operation

Every run of an operation takes one of three courses: it fails before it has a session, the bind
that it begins with is refused, or it performs its task. The attempts and the searches of a run are
read off its course.
-/

namespace DirectoryLogin.Session

open Directory (Entry SearchRequest SessionError)

/-! ## What a run attempts and searches -/

def Exchange.attempt? : Exchange → Option (String × Except SessionError Unit)
  | ⟨.connect url _ _, answer⟩ => some (url, answer)
  | ⟨.build _, _⟩ | ⟨.simpleBind .., _⟩ | ⟨.anonymousBind, _⟩ | ⟨.search _, _⟩ | ⟨.close, _⟩
  | ⟨.abort, _⟩ => none

def attempts (xs : List Exchange) : List (String × Except SessionError Unit) :=
  xs.filterMap Exchange.attempt?

abbrev SearchAnswer : Type := Except SessionError (List Entry)

def IsSingle (answer : SearchAnswer) : Prop := ∃ entry, answer = .ok [entry]

def IsFailure (answer : SearchAnswer) : Prop := ∃ cause, answer = .error cause

theorem not_isFailure_ok (entries : List Entry) : ¬ IsFailure (.ok entries) := by
  intro hfailure
  obtain ⟨cause, heq⟩ := hfailure
  cases heq

def searches (xs : List Exchange) : List (SearchRequest × SearchAnswer) :=
  xs.filterMap Exchange.search?

@[simp] theorem attempts_append (xs ys : List Exchange) :
    attempts (xs ++ ys) = attempts xs ++ attempts ys := List.filterMap_append

@[simp] theorem searches_append (xs ys : List Exchange) :
    searches (xs ++ ys) = searches xs ++ searches ys := List.filterMap_append

theorem searches_of_preliminary {xs : List Exchange} (h : ∀ x ∈ xs, Preliminary x) :
    searches xs = [] := by
  rw [searches, List.filterMap_eq_nil_iff]
  intro x hx
  cases h x hx <;> rfl

theorem Released.searches {xs : List Exchange} (h : Released xs) : searches xs = [] := by
  cases h <;> rfl

/-- What comes after the connection to a server that was reached. -/
def AfterConnection (xs rest : List Exchange) : Prop :=
  ∃ before url security timeout, xs = before ++ ⟨.connect url security timeout, .ok ()⟩ :: rest

theorem not_afterConnection_of_preliminary {xs rest : List Exchange}
    (h : ∀ x ∈ xs, Preliminary x) : ¬ AfterConnection xs rest := by
  intro hafter
  obtain ⟨before, url, security, timeout, rfl⟩ := hafter
  cases h _ (List.mem_append_right before List.mem_cons_self)

theorem afterConnection_iff {opening rest after : List Exchange} {url : String}
    {security : Transport.Security} {timeout : Option UInt64} (h : ∀ x ∈ opening, Preliminary x)
    (hrest : ∀ x ∈ rest, ¬ x.call.Opens) :
    AfterConnection (opening ++ ⟨.connect url security timeout, .ok ()⟩ :: rest) after ↔
      after = rest := by
  constructor
  · intro hafter
    obtain ⟨before, url', security', timeout', heq⟩ := hafter
    have hopening : ⟨.connect url' security' timeout', .ok ()⟩ ∉ opening := fun hx => by
      cases h _ hx
    have hlater : ⟨.connect url' security' timeout', .ok ()⟩ ∉ rest :=
      fun hx => hrest _ hx trivial
    exact ((List.append_cons_inj_of_notMem hopening hlater).mp heq).2.2.symm
  · intro heq
    exact ⟨opening, url, security, timeout, by rw [heq]⟩

end DirectoryLogin.Session

namespace DirectoryLogin.Client

open Config (Settings)
open Session

/-! ## The first bind -/

/-- The bind that an operation begins with. Searches are anonymous without any bind. -/
inductive InitialBind (op : Operation) (settings : Settings) :
    List Exchange → Except Directory.Error Unit → Prop
  | omitted (h : settings.anonymous = true) (hop : op ≠ .testConnectivity) :
      InitialBind op settings [] (.ok ())
  | reader (h : settings.anonymous = false) :
      InitialBind op settings [⟨.simpleBind settings.readerDn settings.password, .ok ()⟩] (.ok ())
  | readerRefused (h : settings.anonymous = false) (cause : Directory.SessionError) :
      InitialBind op settings
        [⟨.simpleBind settings.readerDn settings.password, .error cause⟩]
        (.error (.config (.reader cause)))
  | anonymous (h : settings.anonymous = true) (hop : op = .testConnectivity) :
      InitialBind op settings [⟨.anonymousBind, .ok ()⟩] (.ok ())
  | anonymousRefused (h : settings.anonymous = true) (hop : op = .testConnectivity)
      (cause : Directory.SessionError) :
      InitialBind op settings [⟨.anonymousBind, .error cause⟩] (.error (.config (.anonymous cause)))

theorem InitialBind.searches {op : Operation} {settings : Settings} {xs : List Exchange}
    {result : Except Directory.Error Unit} (h : InitialBind op settings xs result) :
    searches xs = [] := by
  cases h <;> rfl

theorem InitialBind.not_opens {op : Operation} {settings : Settings} {xs : List Exchange}
    {result : Except Directory.Error Unit} (h : InitialBind op settings xs result) :
    ∀ x ∈ xs, ¬ x.call.Opens := by
  intro x hx
  cases h with
  | omitted => cases hx
  | reader | readerRefused | anonymous | anonymousRefused =>
      rw [List.mem_singleton.mp hx]
      exact id

private theorem ReaderBind.initialBind {op : Operation} {settings : Settings} {xs : List Exchange}
    {result : Except Directory.Error Unit} (hop : op ≠ .testConnectivity)
    (h : ReaderBind settings xs result) : InitialBind op settings xs result := by
  cases h with
  | unneeded h => exact .omitted h hop
  | accepted h => exact .reader h
  | rejected h cause => exact .readerRefused h cause

theorem initialBind_of_probe {settings : Settings} {url : String}
    {xs : List Exchange} {result : Except Directory.Error Unit}
    (h : (probe settings (.opened url)).Yields xs result) :
    InitialBind .testConnectivity settings xs result := by
  unfold probe at h
  split at h
  · next hanonymous =>
      obtain ⟨answer, rest, rfl, hrest⟩ := h
      cases answer with
      | ok =>
          obtain ⟨rfl, rfl⟩ := hrest
          exact .anonymous hanonymous rfl
      | error cause =>
          obtain ⟨rfl, rfl⟩ := hrest
          exact .anonymousRefused hanonymous rfl cause
  · next hreader =>
      cases (yields_bindReader _ _ _ _).mp h with
      | unneeded hanonymous => exact absurd hanonymous hreader
      | accepted hnamed => exact .reader hnamed
      | rejected hnamed cause => exact .readerRefused hnamed cause

namespace Operation

/-- What the operation does on its session after the first bind. -/
def task (settings : Settings) :
    (op : Operation) → Connection → Program (Except op.Failure op.Value)
  | .authenticate username password => verifyPassword settings username password
  | .resolveUser username => lookupUser settings username
  | .userGroups username => lookupGroups settings username
  | .searchUsers => enumerateUsers settings
  | .searchGroups => enumerateMemberships settings
  | .testConnectivity => fun _ => .done (.ok ())

/-- A session is used for the first bind, and if that is accepted for the task. -/
theorem bind_or_task_of_use {op : Operation} {settings : Settings} {url : String}
    {xs : List Exchange} {result : Except op.Failure op.Value}
    (h : (op.use settings (.opened url)).Yields xs result) :
    (∃ e, InitialBind op settings xs (.error e) ∧ result = .error (op.fail e)) ∨
      ∃ login session, InitialBind op settings login (.ok ()) ∧
        (op.task settings (.opened url)).Yields session result ∧ xs = login ++ session := by
  have reader {ε α : Type} {lift : Directory.Error → ε} {task : Connection → Program (Except ε α)}
      {result : Except ε α} (hop : op ≠ .testConnectivity)
      (h : (asReader settings lift task (.opened url)).Yields xs result) :
      (∃ e, InitialBind op settings xs (.error e) ∧ result = .error (lift e)) ∨
        ∃ login session, InitialBind op settings login (.ok ()) ∧
          (task (.opened url)).Yields session result ∧ xs = login ++ session := by
    rcases (yields_asReader _ _ _ _ _ _).mp h with ⟨e, hbind, hresult⟩ | ⟨ys, zs, hys, hzs, hxs⟩
    · exact .inl ⟨e, hbind.initialBind hop, hresult⟩
    · exact .inr ⟨ys, zs, hys.initialBind hop, hzs, hxs⟩
  cases op with
  | authenticate username password => exact reader nofun h
  | resolveUser username => exact reader nofun h
  | userGroups username => exact reader nofun h
  | searchUsers => exact reader nofun h
  | searchGroups => exact reader nofun h
  | testConnectivity =>
      have hbind := initialBind_of_probe h
      cases result with
      | error e => exact .inl ⟨e, hbind, rfl⟩
      | ok => exact .inr ⟨xs, [], hbind, ⟨rfl, rfl⟩, (List.append_nil xs).symm⟩

end Operation

/-! ## The whole run -/

/-- How an operation goes. -/
inductive Course (op : Operation) (settings : Settings) :
    List Exchange → Except op.Failure op.Value → Prop
  | unopened {xs e} (h : Opening settings xs (.error e)) :
      Course op settings xs (.error (op.fail e))
  | refused {opening url login release e}
      (opened : Opening settings opening (.ok (.opened url)))
      (bind : InitialBind op settings login (.error e)) (released : Released release) :
      Course op settings (opening ++ (login ++ release)) (.error (op.fail e))
  | performed {opening url login session release result}
      (opened : Opening settings opening (.ok (.opened url)))
      (bind : InitialBind op settings login (.ok ()))
      (task : (op.task settings (.opened url)).Yields session result)
      (released : Released release) :
      Course op settings (opening ++ (login ++ (session ++ release))) result

theorem course_of_yields {op : Operation} {settings : Settings} {xs : List Exchange}
    {result : Except op.Failure op.Value} (h : (op.program settings).Yields xs result) :
    Course op settings xs result := by
  rcases (Operation.yields_program op settings xs result).mp h with ⟨e, hopening, rfl⟩ |
    ⟨opening, url, session, release, hopening, huse, hrelease, rfl⟩
  · exact .unopened hopening
  · rcases Operation.bind_or_task_of_use huse with
      ⟨e, hbind, rfl⟩ | ⟨login, task, hbind, htask, rfl⟩
    · exact .refused hopening hbind hrelease
    · rw [List.append_assoc]
      exact .performed hopening hbind htask hrelease

/-! ## Coming to the searches -/

/-- A password check is a lookup with at most a bind after it. -/
theorem PasswordCheck.lookup {settings : Settings} {username password : String}
    {xs : List Exchange} {result : Except Directory.Error Unit}
    (h : PasswordCheck settings username password xs result) : ∃ found looked last,
      InTurn (PassedOver settings.limits username) (Found settings.limits username)
        settings.userSearches looked found ∧ xs = looked ++ last ∧
      ∀ x ∈ last, ∃ dn answer, x = ⟨.simpleBind dn password, answer⟩ := by
  cases h with
  | unknown h => exact ⟨none, xs, [], inTurn_none_iff.mpr h, (List.append_nil xs).symm, by simp⟩
  | untried h => exact ⟨_, xs, [], h, (List.append_nil xs).symm, by simp⟩
  | accepted h => exact ⟨_, _, _, h, rfl, fun x hx => ⟨_, _, List.mem_singleton.mp hx⟩⟩
  | rejected h => exact ⟨_, _, _, h, rfl, fun x hx => ⟨_, _, List.mem_singleton.mp hx⟩⟩

/-- The searches for a user were all made, and none found exactly one entry. -/
def Missed (settings : Settings) (username : String)
    (made : List (Directory.SearchRequest × SearchAnswer)) : Prop :=
  List.Forall₂ (fun search answered => answered.1 = userRequest settings.limits username search ∧
    ¬ IsSingle answered.2) settings.userSearches made

theorem Missed.not_isSingle {settings : Settings} {username : String}
    {made : List (Directory.SearchRequest × SearchAnswer)} (h : Missed settings username made) :
    ∀ search ∈ made, ¬ IsSingle search.2 := by
  unfold Missed at h
  generalize settings.userSearches = items at h
  induction h with
  | nil => simp
  | cons h _ ih => exact List.forall_mem_cons.mpr ⟨h.2, ih⟩

theorem missed_of_passedOver {settings : Settings} {username : String} {xs : List Exchange}
    (h : List.Forall₂ (PassedOver settings.limits username) settings.userSearches xs) :
    Missed settings username (searches xs) := by
  unfold Missed
  generalize settings.userSearches = items at h
  induction h with
  | nil => exact .nil
  | cons h _ ih =>
      obtain ⟨answer, rfl, hanswer⟩ := h
      exact .cons ⟨rfl, fun ⟨entry, hentry⟩ => hanswer entry hentry⟩ ih

theorem not_missed_of_found {settings : Settings} {username dn : String} {xs : List Exchange}
    (h : InTurn (PassedOver settings.limits username) (Found settings.limits username)
      settings.userSearches xs (some dn)) (more : List (Directory.SearchRequest × SearchAnswer)) :
    ¬ Missed settings username (searches xs ++ more) := by
  intro hmissed
  obtain ⟨_, search, _, earlier, _, -, -, ⟨entry, rfl, -⟩, rfl⟩ := inTurn_some_iff.mp h
  refine hmissed.not_isSingle (userRequest settings.limits username search, .ok [entry]) ?_
    ⟨entry, rfl⟩
  rw [searches_append]
  exact List.mem_append_left _ (List.mem_append_right _ List.mem_cons_self)

/-- After the first bind an operation searches and binds as users, no more. -/
theorem isSearch_or_bind_of_task {op : Operation} {settings : Settings} {url : String}
    {xs : List Exchange} {result : Except op.Failure op.Value}
    (h : (op.task settings (.opened url)).Yields xs result) :
    ∀ x ∈ xs, x.call.IsSearch ∨ ∃ dn password, x.call = .simpleBind dn password := by
  intro x hx
  cases op with
  | authenticate username password =>
      have hcheck := (yields_verifyPassword _ _ _ _ _ _).mp h
      obtain ⟨found, looked, last, hfound, rfl, hlast⟩ := hcheck.lookup
      rcases List.mem_append.mp hx with hx | hx
      · exact .inl (isSearch_of_inTurn hfound x hx)
      · obtain ⟨dn, answer, rfl⟩ := hlast x hx
        exact .inr ⟨dn, password, rfl⟩
  | resolveUser username => exact .inl ((asks_searchUser _ _ _ _).isSearch h x hx)
  | userGroups username => exact .inl ((asks_lookupGroups _ _ _).isSearch h x hx)
  | searchUsers => exact .inl ((asks_enumerateUsers _ _).isSearch h x hx)
  | searchGroups => exact .inl ((asks_enumerateMemberships _ _).isSearch h x hx)
  | testConnectivity =>
      obtain ⟨rfl, -⟩ := h
      cases hx

theorem not_opens_of_task {op : Operation} {settings : Settings} {url : String}
    {session release : List Exchange} {result : Except op.Failure op.Value}
    (h : (op.task settings (.opened url)).Yields session result) (released : Released release) :
    ∀ x ∈ session ++ release, ¬ x.call.Opens := by
  refine List.forall_mem_append.mpr ⟨fun x hx => ?_, released.not_opens⟩
  rcases isSearch_or_bind_of_task h x hx with hsearch | ⟨dn, password, hbind⟩
  · exact hsearch.usesSession.not_opens
  · rw [hbind]
    exact id

theorem Opening.searches {settings : Settings} {xs : List Exchange}
    {acquired : Except Directory.Error Connection} (h : Opening settings xs acquired) :
    searches xs = [] := by
  cases acquired with
  | error e => exact searches_of_preliminary h.preliminary
  | ok connection =>
      obtain ⟨url, rfl⟩ := h.exists_opened
      obtain ⟨opening, security, rfl, hopening⟩ := h.connected
      rw [searches_append, searches_of_preliminary hopening]
      rfl

theorem searches_opened {op : Operation} {settings : Settings}
    {opening login release : List Exchange} {url : String}
    {bound : Except Directory.Error Unit} (opened : Opening settings opening (.ok (.opened url)))
    (bind : InitialBind op settings login bound) (released : Released release)
    (session : List Exchange) :
    searches (opening ++ (login ++ (session ++ release))) = searches session := by
  simp only [searches_append, opened.searches, bind.searches, released.searches, List.nil_append,
    List.append_nil]

theorem Opening.afterConnection_iff {settings : Settings} {opening rest after : List Exchange}
    {url : String} (h : Opening settings opening (.ok (.opened url)))
    (hrest : ∀ x ∈ rest, ¬ x.call.Opens) :
    AfterConnection (opening ++ rest) after ↔ after = rest := by
  obtain ⟨before, security, rfl, hbefore⟩ := h.connected
  rw [List.append_assoc, List.singleton_append]
  exact Session.afterConnection_iff hbefore hrest

/-- The run has a session that it can search: a server was reached, and the service account was let
in unless searches are anonymous. -/
def Reached (settings : Settings) (xs : List Exchange) : Prop :=
  ∃ rest, AfterConnection xs rest ∧ (settings.anonymous = true ∨
    ∃ later, rest = ⟨.simpleBind settings.readerDn settings.password, .ok ()⟩ :: later)

theorem InitialBind.reached {op : Operation} {settings : Settings}
    {opening login later : List Exchange} {url : String}
    (h : InitialBind op settings login (.ok ()))
    (opened : Opening settings opening (.ok (.opened url)))
    (hlater : ∀ x ∈ later, ¬ x.call.Opens) : Reached settings (opening ++ (login ++ later)) := by
  have hrest := List.forall_mem_append.mpr ⟨h.not_opens, hlater⟩
  refine ⟨_, (opened.afterConnection_iff hrest).mpr rfl, ?_⟩
  cases h with
  | omitted hanonymous => exact .inl hanonymous
  | reader => exact .inr ⟨_, rfl⟩
  | anonymous hanonymous => exact .inl hanonymous

theorem InitialBind.not_reached {op : Operation} {settings : Settings}
    {opening login later : List Exchange} {url : String} {e : Directory.Error}
    (h : InitialBind op settings login (.error e))
    (opened : Opening settings opening (.ok (.opened url))) (hop : op ≠ .testConnectivity)
    (hlater : ∀ x ∈ later, ¬ x.call.Opens) :
    ¬ Reached settings (opening ++ (login ++ later)) := by
  rintro ⟨after, hafter, hbound⟩
  have hrest := List.forall_mem_append.mpr ⟨h.not_opens, hlater⟩
  have heq := (opened.afterConnection_iff hrest).mp hafter
  cases h with
  | readerRefused hnamed cause =>
      rcases hbound with hanonymous | ⟨_, rfl⟩
      · rw [hnamed] at hanonymous
        cases hanonymous
      · cases heq
  | anonymousRefused _ htest => exact hop htest

theorem Course.searches_eq {op : Operation} {settings : Settings} {xs : List Exchange}
    {result : Except op.Failure op.Value} (h : Course op settings xs result) :
    searches xs = [] ∨ ∃ url session, (op.task settings (.opened url)).Yields session result ∧
      searches xs = searches session := by
  cases h with
  | unopened h => exact .inl h.searches
  | refused opened bind released => exact .inl (searches_opened opened bind released [])
  | @performed opening url login session release _ opened bind task released =>
      exact .inr ⟨url, session, task, searches_opened opened bind released session⟩

/-- A run with a session to search performs its task. -/
theorem Course.performed_of_reached {op : Operation} {settings : Settings} {xs : List Exchange}
    {result : Except op.Failure op.Value} (h : Course op settings xs result)
    (hop : op ≠ .testConnectivity) (hreached : Reached settings xs) : ∃ url session,
      (op.task settings (.opened url)).Yields session result ∧ searches xs = searches session := by
  cases h with
  | unopened h =>
      obtain ⟨after, hafter, -⟩ := hreached
      exact absurd hafter (not_afterConnection_of_preliminary h.preliminary)
  | refused opened bind released =>
      exact absurd hreached (bind.not_reached opened hop released.not_opens)
  | @performed opening url login session release _ opened bind task released =>
      exact ⟨url, session, task, searches_opened opened bind released session⟩

theorem Course.searches_eq_nil {op : Operation} {settings : Settings} {xs : List Exchange}
    {result : Except op.Failure op.Value} (h : Course op settings xs result)
    (hreached : ¬ Reached settings xs) : searches xs = [] := by
  cases h with
  | unopened h => exact h.searches
  | refused opened bind released => exact searches_opened opened bind released []
  | performed opened bind task released =>
      exact absurd (bind.reached opened (not_opens_of_task task released)) hreached

end DirectoryLogin.Client
