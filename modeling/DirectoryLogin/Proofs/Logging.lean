import DirectoryLogin.Proofs.Answers
import DirectoryLogin.Proofs.Prediction
import DirectoryLogin.Proofs.Secrecy

/-!
# What the log tells

Nothing fails in silence: every server that was not reached, every refused bind of an operation's
own account and every search that failed or found several users is noted, once and in its place, and
nothing else is noted at these levels. `Program.Leaves` says what a program has noted by the time it
is done; `alarm?` is what an exchange gives rise to after those before it.
-/

namespace DirectoryLogin.Log

/-- The event tells of something that went wrong. -/
def Event.isAlarm (event : Event) : Bool := event.level == .warn || event.level == .error

/-- The event is there for those who run the program, not only for those who write it. -/
def Event.isNotable (event : Event) : Bool := event.isAlarm || event.level == .info

/-- The event tells that an operation did what it was asked for. -/
def Event.isSuccess : Event → Bool
  | .authenticated _ | .connectivityConfirmed => true
  | _ => false

/-- The server or the search base that the event tells the failure of, with its cause. -/
def Event.failure? : Event → Option (String × Directory.SessionError)
  | .connectFailed url cause => some (url, cause)
  | .baseSkipped base cause | .baseFailed base cause => some (base, cause)
  | _ => none

/-- The text names what failed, and then the cause. -/
def Names (text failed : String) (cause : Directory.SessionError) : Prop :=
  ∃ before between, text = before ++ failed ++ between ++ cause.message

theorem names_of_failure? {event : Event} {failed : String} {cause : Directory.SessionError}
    (h : event.failure? = some (failed, cause)) : Names event.message failed cause := by
  unfold Event.failure? at h
  split at h
  · cases h
    exact ⟨"Failed creating LDAP connection to ", ": ", rfl⟩
  · cases h
    exact ⟨"LDAP search under ", " failed, skipping: ", rfl⟩
  · cases h
    exact ⟨"LDAP search under ", " failed: ", rfl⟩
  · cases h

end DirectoryLogin.Log

namespace DirectoryLogin.Session

open Log (Event)

namespace Program

variable {α β : Type} {heard : Exchange → List Event}
  {post mid : List Exchange → List Event → α → Prop}

/-- After these exchanges and notable events, whatever is answered and heard from the world with it,
the program ends with exchanges, notable events and a result that `post` holds of. -/
def Leaves (heard : Exchange → List Event) (post : List Exchange → List Event → α → Prop) :
    Program α → List Exchange → List Event → Prop
  | .done a, xs, events => post xs events a
  | .note event next, xs, events =>
      Leaves heard post next xs (if event.isNotable then events ++ [event] else events)
  | .ask _ call next, xs, events => ∀ answer,
      Leaves heard post (next answer) (xs ++ [⟨call, answer⟩]) (events ++ heard ⟨call, answer⟩)

theorem Leaves.mono {program : Program α} {xs : List Exchange} {events : List Event}
    (h : program.Leaves heard mid xs events)
    (himp : ∀ xs events a, mid xs events a → post xs events a) :
    program.Leaves heard post xs events := by
  induction program generalizing xs events with
  | done a => exact himp _ _ _ h
  | note event next ih => exact ih h
  | ask _ call next ih => exact fun answer => ih answer (h answer)

theorem Leaves.bind {program : Program α} {next : α → Program β}
    {post : List Exchange → List Event → β → Prop} {xs : List Exchange} {events : List Event}
    (h : program.Leaves heard mid xs events)
    (hnext : ∀ xs events a, mid xs events a → (next a).Leaves heard post xs events) :
    (program >>= next).Leaves heard post xs events := by
  induction program generalizing xs events with
  | done a => exact hnext _ _ _ h
  | note event rest ih => exact ih h
  | ask _ call rest ih => exact fun answer => ih answer (h answer)

/-- What a program leaves is what a run of it leaves, in every world that notes what is heard. -/
theorem Leaves.run {σ : Type} {world : World σ} {noted : Exchange → List Event}
    (notes : world.Notes noted) {program : Program α} {xs : List Exchange} {events : List Event}
    (h : program.Leaves (fun x => (noted x.veiled).filter Event.isNotable) post xs events)
    (state : σ) :
    post (xs ++ (program.run world state).exchanges)
      (events ++ (program.run world state).events.filter Event.isNotable)
      (program.run world state).result := by
  induction program generalizing xs events state with
  | done a =>
      have hdone : post xs events a := h
      simpa [Run.exchanges, Run.events] using hdone
  | note event next ih =>
      have hnext := ih h state
      rw [exchanges_run_note, events_run_note, List.filter_cons]
      split at hnext
      · next hnotable => simpa [hnotable] using hnext
      · next hnotable => simpa [hnotable] using hnext
  | ask _ call next ih =>
      have hnext := ih _ (h (world.reply call state).1.answer) (world.reply call state).2
      rw [exchanges_run_ask, events_run_ask, result_run_ask, notes, List.filter_append]
      simpa using hnext

end Program

/-! ## Remarks along the exchanges -/

section Along

variable (due : List Exchange → Exchange → List Event)

/-- The remarks on exchanges that come after others. -/
def remarksAfter : List Exchange → List Exchange → List Event
  | _, [] => []
  | earlier, x :: rest => due earlier x ++ remarksAfter (earlier ++ [x]) rest

/-- The remarks that are due along the exchanges of a run. -/
def remarks (xs : List Exchange) : List Event := remarksAfter due [] xs

private theorem remarksAfter_append (earlier xs ys : List Exchange) :
    remarksAfter due earlier (xs ++ ys) =
      remarksAfter due earlier xs ++ remarksAfter due (earlier ++ xs) ys := by
  induction xs generalizing earlier with
  | nil => simp [remarksAfter]
  | cons x rest ih => simp [remarksAfter, ih]

theorem remarks_concat (xs : List Exchange) (x : Exchange) :
    remarks due (xs ++ [x]) = remarks due xs ++ due xs x := by
  simp [remarks, remarksAfter_append, remarksAfter]

private theorem filter_remarksAfter (p : Event → Bool) (earlier xs : List Exchange) :
    (remarksAfter due earlier xs).filter p =
      remarksAfter (fun earlier x => (due earlier x).filter p) earlier xs := by
  induction xs generalizing earlier with
  | nil => rfl
  | cons x rest ih => simp [remarksAfter, ih]

theorem filter_remarks (p : Event → Bool) (xs : List Exchange) :
    (remarks due xs).filter p = remarks (fun earlier x => (due earlier x).filter p) xs :=
  filter_remarksAfter due p [] xs

theorem remarks_filterMap (remark? : Exchange → Option Event) (xs : List Exchange) :
    remarks (fun _ x => (remark? x).toList) xs = xs.filterMap remark? := by
  have after (earlier : List Exchange) :
      remarksAfter (fun _ x => (remark? x).toList) earlier xs = xs.filterMap remark? := by
    induction xs generalizing earlier with
    | nil => rfl
    | cons x rest ih =>
        rw [remarksAfter, ih, List.filterMap_cons]
        cases remark? x <;> rfl
  exact after []

end Along

def serverOf (xs : List Exchange) : String :=
  ((attempts xs).findSome? fun attempt => attempt.2.toOption.map fun _ => attempt.1).getD ""

def Exchange.isBind : Exchange → Bool
  | ⟨.simpleBind .., _⟩ | ⟨.anonymousBind, _⟩ => true
  | ⟨.build _, _⟩ | ⟨.connect .., _⟩ | ⟨.search _, _⟩ | ⟨.close, _⟩ | ⟨.abort, _⟩ => false

def resolved (xs : List Exchange) : Bool := (searches xs).any fun made => (single? made.2).isSome

end DirectoryLogin.Session

namespace DirectoryLogin.Client

open Config (GroupSearch Limits Settings UserSearch)
open Directory (Entry SearchRequest)
open Log (Event)
open Session

def Operation.username? : Operation → Option String
  | .authenticate username _ | .resolveUser username | .userGroups username => some username
  | .searchUsers | .searchGroups | .testConnectivity => none

def Operation.enumerates : Operation → Bool
  | .searchUsers | .searchGroups => true
  | .authenticate .. | .resolveUser _ | .userGroups _ | .testConnectivity => false

/-- The alarm that an exchange gives rise to after those before it. -/
def alarm? (op : Operation) (settings : Settings) (earlier : List Exchange) :
    Exchange → Option Event
  | ⟨.connect url _ _, .error cause⟩ => some (.connectFailed url cause)
  -- Without searches as nobody, the first bind is that of the service account.
  | ⟨.simpleBind dn _, .error cause⟩ =>
      if settings.anonymous || earlier.any Exchange.isBind then none
      else some (.readerRefused dn cause)
  | ⟨.anonymousBind, .error cause⟩ => some (.anonymousRefused (serverOf earlier) cause)
  | ⟨.search request, .error cause⟩ =>
      if op.enumerates then some (.baseFailed request.base cause)
      else some (.baseSkipped request.base cause)
  -- A user is looked for until one search finds exactly one entry.
  | ⟨.search request, .ok entries⟩ =>
      match op.username? with
      | some username =>
          if 1 < entries.length ∧ resolved earlier = false then
            some (.manyUsers entries.length username request.base)
          else none
      | none => none
  | _ => none

/-- A session that is opened is noted. -/
def opening? : Exchange → Option Event
  | ⟨.connect url security _, .ok ()⟩ => some (.connected url security.mode)
  | _ => none

/-- What is noted at the end of an operation that succeeds. -/
def confirmation? : (op : Operation) → Except op.Failure op.Value → Option Event
  | .authenticate username _, .ok () => some (.authenticated username)
  | .testConnectivity, .ok () => some .connectivityConfirmed
  | _, _ => none

/-- All that is due of an exchange, after what is heard of it from the world. -/
def due (heard : Exchange → List Event) (op : Operation) (settings : Settings)
    (earlier : List Exchange) (x : Exchange) : List Event :=
  heard x ++ ((alarm? op settings earlier x).or (opening? x)).toList

/-! ## What the parts of an operation leave -/

section Parts

variable {heard : Exchange → List Event} {op : Operation} {settings : Settings}
  {xs : List Exchange} {events : List Event}

/-- So far exactly what is due was noted. -/
def Kept (heard : Exchange → List Event) (op : Operation) (settings : Settings)
    (xs : List Exchange) (events : List Event) : Prop :=
  events = remarks (due heard op settings) xs

theorem Kept.pass (h : Kept heard op settings xs events) {x : Exchange}
    (halarm : alarm? op settings xs x = none) (hopening : opening? x = none) :
    Kept heard op settings (xs ++ [x]) (events ++ heard x) := by
  rw [Kept, remarks_concat, due, halarm, hopening, ← h]
  simp

theorem Kept.alarm (h : Kept heard op settings xs events) {x : Exchange} {event : Event}
    (halarm : alarm? op settings xs x = some event) :
    Kept heard op settings (xs ++ [x]) (events ++ heard x ++ [event]) := by
  rw [Kept, remarks_concat, due, halarm, ← h, List.append_assoc]
  rfl

theorem Kept.opening (h : Kept heard op settings xs events) {x : Exchange} {event : Event}
    (halarm : alarm? op settings xs x = none) (hopening : opening? x = some event) :
    Kept heard op settings (xs ++ [x]) (events ++ heard x ++ [event]) := by
  rw [Kept, remarks_concat, due, halarm, hopening, ← h, List.append_assoc]
  rfl

/-- There is a session, and nothing was asked of it yet. -/
structure Fresh (url : String) (xs : List Exchange) : Prop where
  server : serverOf xs = url
  unbound : xs.any Exchange.isBind = false
  unresolved : resolved xs = false

theorem fresh_of_preliminary (h : ∀ x ∈ xs, Preliminary x) (url : String)
    (security : Transport.Security) (timeout : Option UInt64) :
    Fresh url (xs ++ [⟨.connect url security timeout, .ok ()⟩]) where
  server := by
    have hrefused : (attempts xs).findSome? (fun attempt =>
        attempt.2.toOption.map fun _ => attempt.1) = none := by
      rw [List.findSome?_eq_none_iff]
      intro attempt hattempt
      obtain ⟨x, hx, heq⟩ := List.mem_filterMap.mp hattempt
      cases h x hx with
      | build => cases heq
      | refused =>
          cases heq
          rfl
    rw [serverOf, attempts_append, List.findSome?_append, hrefused]
    rfl
  unbound := by
    have hnone : ∀ x ∈ xs, ¬ x.isBind = true := by
      intro x hx
      cases h x hx <;> exact Bool.false_ne_true
    rw [List.any_append, List.any_eq_false.mpr hnone]
    rfl
  unresolved := by
    rw [resolved, searches_append, searches_of_preliminary h]
    rfl

theorem leaves_establish (security : Transport.Security) (timeout : Option UInt64)
    (urls : List String) (hxs : ∀ x ∈ xs, Preliminary x) (h : Kept heard op settings xs events) :
    (establish security timeout urls).Leaves heard (fun xs events acquired =>
      Kept heard op settings xs events ∧ ∀ connection, acquired = .ok connection →
        ∃ url, connection = .opened url ∧ Fresh url xs) xs events := by
  induction urls generalizing xs events with
  | nil => exact ⟨h, nofun⟩
  | cons url others ih =>
      rw [establish]
      intro answer
      cases answer with
      | ok =>
          refine ⟨h.opening rfl rfl, fun connection hconnection => ?_⟩
          cases hconnection
          exact ⟨url, rfl, fresh_of_preliminary hxs _ _ _⟩
      | error cause =>
          refine ih ?_ (h.alarm rfl)
          exact List.forall_mem_append.mpr
            ⟨hxs, List.forall_mem_singleton.mpr (.refused url security timeout cause)⟩

theorem leaves_negotiate (tls : Config.TlsSettings) (hxs : ∀ x ∈ xs, Preliminary x)
    (h : Kept heard op settings xs events) :
    (negotiate tls).Leaves heard (fun xs events _ =>
      Kept heard op settings xs events ∧ ∀ x ∈ xs, Preliminary x) xs events := by
  unfold negotiate
  split
  · intro answer
    have hbuilt := List.forall_mem_append.mpr
      ⟨hxs, List.forall_mem_singleton.mpr (.build (.ofSettings tls) answer)⟩
    cases answer with
    | error e => exact ⟨h.pass rfl rfl, hbuilt⟩
    | ok material => exact ⟨h.pass rfl rfl, hbuilt⟩
  · exact ⟨h, hxs⟩

theorem leaves_acquire (heard : Exchange → List Event) (op : Operation) (settings : Settings) :
    (acquire settings).Leaves heard (fun xs events acquired =>
      Kept heard op settings xs events ∧ ∀ connection, acquired = .ok connection →
        ∃ url, connection = .opened url ∧ Fresh url xs) [] [] := by
  have hnone : Kept heard op settings [] [] := rfl
  unfold acquire
  split
  · exact ⟨hnone, nofun⟩
  · refine (leaves_negotiate settings.tls (by simp) hnone).bind fun xs events negotiated h => ?_
    cases negotiated with
    | error e => exact ⟨h.1, nofun⟩
    | ok security => exact leaves_establish _ _ _ h.2 h.1

/-- The session can be searched: the bind of the service account is over, and no user was found. -/
structure Ready (settings : Settings) (xs : List Exchange) : Prop where
  bound : (settings.anonymous || xs.any Exchange.isBind) = true
  unresolved : resolved xs = false

theorem leaves_bindReader {url : String} (hfresh : Fresh url xs)
    (h : Kept heard op settings xs events) :
    (bindReader settings (.opened url)).Leaves heard (fun xs events bound =>
      Kept heard op settings xs events ∧ (bound = .ok () → Ready settings xs)) xs events := by
  unfold bindReader
  split
  · next hanonymous =>
      exact ⟨h, fun _ => ⟨by rw [hanonymous, Bool.true_or], hfresh.unresolved⟩⟩
  · next hnamed =>
      have hfirst : (settings.anonymous || xs.any Exchange.isBind) = false := by
        simp [hnamed, hfresh.unbound]
      intro answer
      cases answer with
      | ok =>
          refine ⟨h.pass rfl rfl, fun _ => ⟨?_, ?_⟩⟩
          · simp [Exchange.isBind]
          · rw [resolved, searches_append, List.any_append]
            exact Bool.or_eq_false_iff.mpr ⟨hfresh.unresolved, rfl⟩
      | error cause =>
          have halarm : alarm? op settings xs
              ⟨.simpleBind settings.readerDn settings.password, .error cause⟩ =
                some (.readerRefused settings.readerDn cause) := by
            simp [alarm?, hnamed, hfresh.unbound]
          exact ⟨h.alarm halarm, nofun⟩

theorem leaves_asReader {ε α : Type} {lift : Directory.Error → ε}
    {use : Connection → Program (Except ε α)} {url : String}
    (huse : ∀ xs events, Ready settings xs → Kept heard op settings xs events →
      (use (.opened url)).Leaves heard
        (fun xs events _ => Kept heard op settings xs events) xs events)
    (hfresh : Fresh url xs) (h : Kept heard op settings xs events) :
    (asReader settings lift use (.opened url)).Leaves heard
      (fun xs events _ => Kept heard op settings xs events) xs events := by
  refine (leaves_bindReader hfresh h).bind fun xs events bound hbound => ?_
  cases bound with
  | error e => exact hbound.1
  | ok => exact huse xs events (hbound.2 rfl) hbound.1

theorem Ready.search (h : Ready settings xs) {request : SearchRequest} {answer : SearchAnswer}
    (hanswer : ¬ IsSingle answer) : Ready settings (xs ++ [⟨.search request, answer⟩]) where
  bound := by
    rw [List.any_append, ← Bool.or_assoc, h.bound, Bool.true_or]
  unresolved := by
    rw [resolved, searches_append, List.any_append]
    refine Bool.or_eq_false_iff.mpr ⟨h.unresolved, ?_⟩
    simp [searches, Exchange.search?, single?_eq_none_iff.mpr hanswer]

/-- The session has searched for a user and found one. -/
structure Resolved (settings : Settings) (xs : List Exchange) : Prop where
  bound : (settings.anonymous || xs.any Exchange.isBind) = true
  found : resolved xs = true

theorem alarm?_found {username : String} (hop : op.username? = some username)
    (request : SearchRequest) (entries : List Entry) :
    alarm? op settings xs ⟨.search request, .ok entries⟩ =
      if 1 < entries.length ∧ resolved xs = false then
        some (.manyUsers entries.length username request.base)
      else none := by
  simp only [alarm?, hop]

theorem alarm?_skipped (hop : op.enumerates = false) (request : SearchRequest)
    (cause : Directory.SessionError) :
    alarm? op settings xs ⟨.search request, .error cause⟩ =
      some (.baseSkipped request.base cause) := by
  simp [alarm?, hop]

theorem leaves_searchUser {username : String} (hop : op.username? = some username)
    (hlookup : op.enumerates = false) (url : String) (limits : Limits)
    (searches : List UserSearch) (hready : Ready settings xs)
    (h : Kept heard op settings xs events) :
    (searchUser (.opened url) limits username searches).Leaves heard (fun xs events found =>
      Kept heard op settings xs events ∧
        ∀ dn, found = .ok dn → Resolved settings xs) xs events := by
  induction searches generalizing xs events with
  | nil => exact ⟨h, by simp⟩
  | cons search others ih =>
      rw [searchUser]
      intro answer
      rcases answer with cause | (_ | ⟨entry, _ | ⟨second, more⟩⟩)
      · exact ih (hready.search (by simp [IsSingle])) (h.alarm (alarm?_skipped hlookup _ _))
      · exact ih (hready.search (by simp [IsSingle])) (h.pass (alarm?_found hop _ _) rfl)
      · refine ⟨h.pass (alarm?_found hop _ _) rfl, fun _ _ => ⟨?_, ?_⟩⟩
        · rw [List.any_append, ← Bool.or_assoc, hready.bound, Bool.true_or]
        · simp [resolved, Session.searches, Exchange.search?, single?]
      · refine ih (hready.search (by simp [IsSingle])) (h.alarm ?_)
        rw [alarm?_found hop, if_pos ⟨by simp, hready.unresolved⟩]
        rfl

theorem Resolved.search (h : Resolved settings xs) (x : Exchange) :
    Resolved settings (xs ++ [x]) where
  bound := by rw [List.any_append, ← Bool.or_assoc, h.bound, Bool.true_or]
  found := by
    have hfound := h.found
    unfold resolved at hfound ⊢
    rw [searches_append, List.any_append, hfound, Bool.true_or]

theorem leaves_searchUserGroups {username : String} (hop : op.username? = some username)
    (hlookup : op.enumerates = false) (url : String) (limits : Limits) (dn : String)
    (found : List String) (searches : List GroupSearch) (hresolved : Resolved settings xs)
    (h : Kept heard op settings xs events) :
    (searchUserGroups (.opened url) limits dn found searches).Leaves heard
      (fun xs events _ => Kept heard op settings xs events) xs events := by
  induction searches generalizing xs events found with
  | nil => exact h
  | cons search others ih =>
      rw [searchUserGroups]
      intro answer
      cases answer with
      | ok entries =>
          refine ih _ (hresolved.search _) (h.pass ?_ rfl)
          rw [alarm?_found hop, if_neg (by simp [hresolved.found])]
      | error cause => exact ih _ (hresolved.search _) (h.alarm (alarm?_skipped hlookup _ _))

theorem leaves_verifyPassword {username : String} (hop : op.username? = some username)
    (hlookup : op.enumerates = false) (password : String) (url : String)
    (hready : Ready settings xs) (h : Kept heard op settings xs events) :
    (verifyPassword settings username password (.opened url)).Leaves heard
      (fun xs events _ => Kept heard op settings xs events) xs events := by
  refine (leaves_searchUser hop hlookup _ _ _ hready h).bind fun xs events found hfound => ?_
  cases found with
  | error e => cases e <;> exact hfound.1
  | ok dn =>
      have hresolved := hfound.2 dn rfl
      dsimp only
      split
      · exact hfound.1
      · intro answer
        -- The bind of the user is not the first one, so that its refusal is no alarm.
        have halarm : alarm? op settings xs ⟨.simpleBind dn password, answer⟩ = none := by
          cases answer with
          | ok => rfl
          | error cause => simp only [alarm?, hresolved.bound, if_true]
        cases answer with
        | ok => exact hfound.1.pass halarm rfl
        | error cause => exact hfound.1.pass halarm rfl

theorem leaves_lookupGroups {username : String} (hop : op.username? = some username)
    (hlookup : op.enumerates = false) (url : String) (hready : Ready settings xs)
    (h : Kept heard op settings xs events) :
    (lookupGroups settings username (.opened url)).Leaves heard
      (fun xs events _ => Kept heard op settings xs events) xs events := by
  refine (leaves_searchUser hop hlookup _ _ _ hready h).bind fun xs events found hfound => ?_
  cases found with
  | error e => exact hfound.1
  | ok dn => exact leaves_searchUserGroups hop hlookup _ _ _ _ _ (hfound.2 dn rfl) hfound.1

theorem leaves_loginNames (loginAttribute : String) (entries : List Entry)
    (h : Kept heard op settings xs events) :
    (loginNames loginAttribute entries).Leaves heard
      (fun xs events _ => Kept heard op settings xs events) xs events := by
  induction entries generalizing xs events with
  | nil => exact h
  | cons entry rest ih =>
      rw [loginNames]
      split
      · exact (ih h).bind fun _ _ _ hrest => hrest
      · exact ih h

theorem leaves_memberships (memberAttribute : String) (entries : List Entry)
    (h : Kept heard op settings xs events) :
    (memberships memberAttribute entries).Leaves heard
      (fun xs events _ => Kept heard op settings xs events) xs events := by
  induction entries generalizing xs events with
  | nil => exact h
  | cons entry rest ih =>
      rw [memberships]
      split
      · exact (ih h).bind fun _ _ _ hrest => hrest
      · exact ih h

theorem alarm?_listed (hop : op.enumerates = true) (request : SearchRequest)
    (entries : List Entry) : alarm? op settings xs ⟨.search request, .ok entries⟩ = none := by
  cases op with
  | searchUsers => rfl
  | searchGroups => rfl
  | _ => cases hop

theorem leaves_enumerate {α β : Type} {url : String} {request : β → SearchRequest}
    {yield : β → List Entry → Program (List α)} (hop : op.enumerates = true)
    (hyield : ∀ search entries xs events, Kept heard op settings xs events →
      (yield search entries).Leaves heard (fun xs events _ => Kept heard op settings xs events)
        xs events)
    (found : List α) (searches : List β) (h : Kept heard op settings xs events) :
    (enumerate .failFast (.opened url) request yield found searches).Leaves heard
      (fun xs events _ => Kept heard op settings xs events) xs events := by
  induction searches generalizing xs events found with
  | nil => exact h
  | cons search others ih =>
      rw [enumerate_cons]
      intro answer
      cases answer with
      | ok entries =>
          exact (hyield search entries _ _ (h.pass (alarm?_listed hop _ _) rfl)).bind
            fun _ _ more hmore => ih _ hmore
      | error cause =>
          refine h.alarm ?_
          simp [alarm?, hop]

theorem leaves_close (url : String) (h : Kept heard op settings xs events) :
    (Connection.opened url).close.Leaves heard
      (fun xs events _ => Kept heard op settings xs events) xs events := by
  intro answer
  cases answer with
  | ok => exact h.pass rfl rfl
  | error cause => exact fun answer => (h.pass rfl rfl).pass rfl rfl

theorem leaves_probe {url : String} (hfresh : Fresh url xs)
    (h : Kept heard op settings xs events) :
    (probe settings (.opened url)).Leaves heard
      (fun xs events _ => Kept heard op settings xs events) xs events := by
  unfold probe
  split
  · intro answer
    cases answer with
    | ok => exact h.pass rfl rfl
    | error cause =>
        refine h.alarm ?_
        rw [alarm?, hfresh.server]
        rfl
  · exact (leaves_bindReader hfresh h).mono fun _ _ _ hbound => hbound.1

theorem leaves_use {url : String} (hfresh : Fresh url xs)
    (h : Kept heard op settings xs events) :
    (op.use settings (.opened url)).Leaves heard
      (fun xs events _ => Kept heard op settings xs events) xs events := by
  cases op with
  | authenticate username password =>
      exact leaves_asReader (fun _ _ => leaves_verifyPassword rfl rfl password url) hfresh h
  | resolveUser username =>
      refine leaves_asReader (fun xs events hready h => ?_) hfresh h
      exact (leaves_searchUser rfl rfl _ _ _ hready h).mono fun _ _ _ hfound => hfound.1
  | userGroups username =>
      exact leaves_asReader (fun _ _ => leaves_lookupGroups rfl rfl url) hfresh h
  | searchUsers =>
      refine leaves_asReader (fun xs events _ h => ?_) hfresh h
      exact leaves_enumerate rfl (fun _ entries _ _ => leaves_loginNames _ entries) _ _ h
  | searchGroups =>
      refine leaves_asReader (fun xs events _ h => ?_) hfresh h
      exact leaves_enumerate rfl (fun _ entries _ _ => leaves_memberships _ entries) _ _ h
  | testConnectivity => exact leaves_probe hfresh h

theorem leaves_withConnection {ε α : Type} {lift : Directory.Error → ε}
    {use : Connection → Program (Except ε α)} {note : Except ε α → Program Unit}
    {confirm : Except ε α → Option Event}
    (huse : ∀ url xs events, Fresh url xs → Kept heard op settings xs events →
      (use (.opened url)).Leaves heard
        (fun xs events _ => Kept heard op settings xs events) xs events)
    (hnote : ∀ result xs events, (note result).Leaves heard
      (fun xs' events' _ => xs' = xs ∧ events' = events ++ (confirm result).toList) xs events)
    (hfail : ∀ e, confirm (.error (lift e)) = none) :
    (withConnection settings lift use note).Leaves heard (fun xs events result =>
      events = remarks (due heard op settings) xs ++ (confirm result).toList) [] [] := by
  refine (leaves_acquire heard op settings).bind fun xs events acquired h => ?_
  cases acquired with
  | error e =>
      change events = _ ++ (confirm (.error (lift e))).toList
      rw [hfail, h.1]
      exact (List.append_nil _).symm
  | ok connection =>
      obtain ⟨url, rfl, hfresh⟩ := h.2 connection rfl
      refine (huse url xs events hfresh h.1).bind fun xs events result h => ?_
      refine (leaves_close url h).bind fun xs events _ h => ?_
      refine (hnote result xs events).bind fun xs' events' _ hnoted => ?_
      obtain ⟨rfl, rfl⟩ := hnoted
      rw [h]
      rfl

private theorem leaves_silently {α : Type} (a : α) (xs : List Exchange) (events : List Event) :
    (silently a).Leaves heard (fun xs' events' _ => xs' = xs ∧
      events' = events ++ (none : Option Event).toList) xs events :=
  ⟨rfl, (List.append_nil events).symm⟩

/-- An operation leaves what is due of its exchanges, and a confirmation if it is to give one. -/
theorem leaves_program (op : Operation) (settings : Settings) :
    (op.program settings).Leaves heard (fun xs events result =>
      events = remarks (due heard op settings) xs ++ (confirmation? op result).toList) [] [] := by
  have huse (op : Operation) (url : String) (xs : List Exchange) (events : List Event)
      (hfresh : Fresh url xs) (h : Kept heard op settings xs events) :
      (op.use settings (.opened url)).Leaves heard
        (fun xs events _ => Kept heard op settings xs events) xs events := leaves_use hfresh h
  cases op with
  | authenticate username password =>
      refine leaves_withConnection (huse (.authenticate username password)) ?_ fun _ => rfl
      intro result xs events
      cases result with
      | ok => exact ⟨rfl, rfl⟩
      | error e => exact ⟨rfl, (List.append_nil events).symm⟩
  | resolveUser username =>
      exact leaves_withConnection (huse (.resolveUser username)) leaves_silently fun _ => rfl
  | userGroups username =>
      exact leaves_withConnection (huse (.userGroups username)) leaves_silently fun _ => rfl
  | searchUsers => exact leaves_withConnection (huse .searchUsers) leaves_silently fun _ => rfl
  | searchGroups => exact leaves_withConnection (huse .searchGroups) leaves_silently fun _ => rfl
  | testConnectivity =>
      refine leaves_withConnection (huse .testConnectivity) ?_ fun _ => rfl
      intro result xs events
      cases result with
      | ok => exact ⟨rfl, rfl⟩
      | error e => exact ⟨rfl, (List.append_nil events).symm⟩

end Parts

/-! ## The whole log -/

section Whole

variable {op : Operation} {settings : Settings}

theorem isAlarm_of_alarm? {earlier : List Exchange} {x : Exchange} {event : Event}
    (h : alarm? op settings earlier x = some event) : event.isAlarm = true := by
  unfold alarm? at h
  split at h
  · cases h
    rfl
  · split at h
    · cases h
    · cases h
      rfl
  · cases h
    rfl
  · split at h <;> (cases h; rfl)
  · split at h
    · split at h
      · cases h
        rfl
      · cases h
    · cases h
  · cases h

theorem level_of_opening? {x : Exchange} {event : Event} (h : opening? x = some event) :
    event.level = .info := by
  unfold opening? at h
  split at h
  · cases h
    rfl
  · cases h

theorem level_of_confirmation? {result : Except op.Failure op.Value} {event : Event}
    (h : confirmation? op result = some event) : event.level = .info := by
  unfold confirmation? at h
  split at h
  · cases h
    rfl
  · cases h
    rfl
  · cases h

/-- The operation gives a confirmation if it succeeds. -/
def Operation.confirms : Operation → Bool
  | .authenticate .. | .testConnectivity => true
  | .resolveUser _ | .userGroups _ | .searchUsers | .searchGroups => false

theorem alarm?_of_opening? {earlier : List Exchange} {x : Exchange} {event : Event}
    (h : opening? x = some event) : alarm? op settings earlier x = none := by
  unfold opening? at h
  split at h
  · rfl
  · cases h

private theorem filter_toList {p : Event → Bool} {event? : Option Event}
    (h : ∀ event, event? = some event → p event = true) :
    event?.toList.filter p = event?.toList := by
  cases event? with
  | none => rfl
  | some event => simp [h event rfl]

private theorem filter_toList_eq_nil {p : Event → Bool} {event? : Option Event}
    (h : ∀ event, event? = some event → p event = false) : event?.toList.filter p = [] := by
  cases event? with
  | none => rfl
  | some event => simp [h event rfl]

private theorem isAlarm_of_info {event : Event} (h : event.level = .info) :
    event.isAlarm = false := by
  simp [Event.isAlarm, h]

private theorem level_ne_info {event : Event} (h : event.isAlarm = true) :
    (event.level == .info) = false := by
  cases hinfo : event.level == .info with
  | false => rfl
  | true => simp [isAlarm_of_info (eq_of_beq hinfo)] at h

private theorem filter_due (earlier : List Exchange) (x : Exchange) :
    (due (fun _ => []) op settings earlier x).filter Event.isAlarm =
        (alarm? op settings earlier x).toList ∧
      (due (fun _ => []) op settings earlier x).filter (·.level == .info) =
        (opening? x).toList := by
  rw [due, List.nil_append]
  cases hopening : opening? x with
  | some event =>
      have hinfo := level_of_opening? hopening
      rw [alarm?_of_opening? hopening]
      simp [isAlarm_of_info hinfo, hinfo]
  | none =>
      rw [Option.or_none]
      exact ⟨filter_toList fun _ => isAlarm_of_alarm?,
        filter_toList_eq_nil fun _ h => level_ne_info (isAlarm_of_alarm? h)⟩

/-- What the log of an operation tells of its exchanges and of its result. -/
structure Told (op : Operation) (settings : Settings) (events : List Event) (xs : List Exchange)
    (result : Except op.Failure op.Value) : Prop where
  /-- Warnings and errors are the alarms of the exchanges, in their order. -/
  alarms : events.filter Event.isAlarm =
    remarks (fun earlier x => (alarm? op settings earlier x).toList) xs
  /-- Only an enumeration that is broken off is an error. -/
  errors : ∀ event ∈ events, event.level = .error ↔ ∃ base cause, event = .baseFailed base cause
  named : ∀ event ∈ events, ∀ failed cause, event.failure? = some (failed, cause) →
    Log.Names event.message failed cause
  infos : events.filter (·.level == .info) =
    xs.filterMap opening? ++ (confirmation? op result).toList
  connected : (∃ url mode, .connected url mode ∈ events) ↔ Connected xs
  succeeded : (∃ event ∈ events, event.isSuccess = true) ↔
    op.confirms = true ∧ ∃ value, result = .ok value

private theorem level_of_isSuccess {event : Event} (h : event.isSuccess = true) :
    event.level = .info := by
  cases event with
  | authenticated | connectivityConfirmed => rfl
  | _ => cases h

private theorem level_eq_error_iff {event : Event} :
    event.level = .error ↔ ∃ base cause, event = .baseFailed base cause := by
  constructor
  · intro h
    cases event with
    | baseFailed base cause => exact ⟨base, cause, rfl⟩
    | _ => cases h
  · rintro ⟨base, cause, rfl⟩
    rfl

theorem opening?_eq_some_iff {x : Exchange} {event : Event} :
    opening? x = some event ↔ ∃ url security timeout,
      x = ⟨.connect url security timeout, .ok ()⟩ ∧ event = .connected url security.mode := by
  constructor
  · intro h
    unfold opening? at h
    split at h
    · cases h
      exact ⟨_, _, _, rfl, rfl⟩
    · cases h
  · rintro ⟨url, security, timeout, rfl, rfl⟩
    rfl

theorem exists_confirmation?_iff {result : Except op.Failure op.Value} :
    (∃ event, confirmation? op result = some event) ↔
      op.confirms = true ∧ ∃ value, result = .ok value := by
  cases op <;> cases result <;> simp [confirmation?, Operation.confirms]

private theorem isSuccess_of_confirmation? {result : Except op.Failure op.Value} {event : Event}
    (h : confirmation? op result = some event) : event.isSuccess = true := by
  unfold confirmation? at h
  split at h
  · cases h
    rfl
  · cases h
    rfl
  · cases h

theorem connected_iff {xs : List Exchange} :
    Connected xs ↔ ∃ event, event ∈ xs.filterMap opening? := by
  simp only [List.mem_filterMap, opening?_eq_some_iff]
  constructor
  · rintro ⟨rest, before, url, security, timeout, rfl⟩
    exact ⟨_, _, List.mem_append_right _ List.mem_cons_self, url, security, timeout, rfl, rfl⟩
  · rintro ⟨_, x, hx, url, security, timeout, rfl, rfl⟩
    obtain ⟨before, rest, rfl⟩ := List.append_of_mem hx
    exact ⟨rest, before, url, security, timeout, rfl⟩

/-- A log in which exactly what is due is notable tells what it should. -/
theorem told_of_notable {events : List Event} {xs : List Exchange}
    {result : Except op.Failure op.Value}
    (h : events.filter Event.isNotable =
      remarks (due (fun _ => []) op settings) xs ++ (confirmation? op result).toList) :
    Told op settings events xs result := by
  have notable {p : Event → Bool} (hp : ∀ event, p event = true → event.isNotable = true) :
      events.filter p = (remarks (due (fun _ => []) op settings) xs).filter p ++
        (confirmation? op result).toList.filter p := by
    rw [← List.filter_append, ← h, List.filter_filter]
    refine List.filter_congr fun event _ => ?_
    cases hevent : p event with
    | true => simp [hp event hevent]
    | false => rfl
  have infos : events.filter (·.level == .info) =
      xs.filterMap opening? ++ (confirmation? op result).toList := by
    rw [notable fun event hevent => by simp [Event.isNotable, hevent], filter_remarks,
      filter_toList fun event hevent => by simp [level_of_confirmation? hevent]]
    simp only [filter_due, remarks_filterMap]
  have mem_infos {event : Event} (hevent : event.level = .info) :
      event ∈ events ↔ event ∈ xs.filterMap opening? ∨ confirmation? op result = some event := by
    rw [← Option.mem_toList, ← List.mem_append, ← infos, List.mem_filter]
    simp [hevent]
  constructor
  case alarms =>
    rw [notable fun event hevent => by simp [Event.isNotable, hevent], filter_remarks,
      filter_toList_eq_nil fun event hevent => isAlarm_of_info (level_of_confirmation? hevent),
      List.append_nil]
    simp only [filter_due]
  case errors => exact fun _ _ => level_eq_error_iff
  case named => exact fun _ _ _ _ => Log.names_of_failure?
  case infos => exact infos
  case connected =>
    rw [connected_iff]
    constructor
    · rintro ⟨url, mode, hevent⟩
      rcases (mem_infos rfl).mp hevent with hopening | hconfirmation
      · exact ⟨_, hopening⟩
      · cases isSuccess_of_confirmation? hconfirmation
    · rintro ⟨event, hevent⟩
      obtain ⟨x, -, hopening⟩ := List.mem_filterMap.mp hevent
      obtain ⟨url, security, -, -, rfl⟩ := opening?_eq_some_iff.mp hopening
      exact ⟨url, security.mode, (mem_infos rfl).mpr (.inl hevent)⟩
  case succeeded =>
    rw [← exists_confirmation?_iff]
    constructor
    · rintro ⟨event, hevent, hsuccess⟩
      rcases (mem_infos (level_of_isSuccess hsuccess)).mp hevent with hopening | hconfirmation
      · obtain ⟨x, -, hopening⟩ := List.mem_filterMap.mp hopening
        obtain ⟨url, security, -, -, rfl⟩ := opening?_eq_some_iff.mp hopening
        cases hsuccess
      · exact ⟨event, hconfirmation⟩
    · rintro ⟨event, hevent⟩
      have hinfo := level_of_confirmation? hevent
      exact ⟨event, (mem_infos hinfo).mpr (.inr hevent), isSuccess_of_confirmation? hevent⟩

theorem notable_wire (builder : Wire.Builder) {x : Exchange}
    (h : ∀ request, x.call ≠ .build request) :
    (Wire.noted builder x).filter Event.isNotable = [] := by
  obtain ⟨call, answer⟩ := x
  cases call with
  | build request => exact absurd rfl (h request)
  | _ => rfl

end Whole

/-- In every run the operation's own log has an alarm for every failure and no others, and tells of
the session and of success. Where the world around it makes notes of its own, these come just before
what is due of the exchange that they belong to. -/
theorem failures_told {σ : Type} (world : World σ) (state : σ) (op : Operation)
    (settings : Settings) :
    Told op settings ((op.program settings).run world.muted state).events
      ((op.program settings).run world state).exchanges
      ((op.program settings).run world state).result ∧
    (∀ noted, world.Notes noted →
      ((op.program settings).run world state).events.filter Event.isNotable =
        remarks (due (fun x => (noted x.veiled).filter Event.isNotable) op settings)
            ((op.program settings).run world state).exchanges ++
          (confirmation? op ((op.program settings).run world state).result).toList) ∧
    ∀ builder x, (∀ request, x.call ≠ .build request) →
      (Wire.noted builder x).filter Event.isNotable = [] := by
  refine ⟨?_, fun noted notes => ?_, fun builder x => notable_wire builder⟩
  · obtain ⟨hresult, hexchanges⟩ := Program.run_muted world (op.program settings) state
    rw [← hresult, ← hexchanges]
    exact told_of_notable ((leaves_program op settings).run world.notes_muted state)
  · exact (leaves_program op settings).run notes state

/-- A server is down, two entries under one base and a failure under another are passed over, the
user's bind is refused, and the session does not close. -/
theorem failures_told_refusal :
    ∃ (settings : Settings) (script : Scripted.Script),
      (Scripted.world none).Notes (fun _ => []) ∧
      ((authenticate settings "ada" "guess").run (Scripted.world none) script).events.filter
          Event.isNotable =
        [.connectFailed "ldap1" { message := "connection refused: ldap1" },
          .connected "ldap2" .plain, .manyUsers 2 "ada" "ou=staff",
          .baseSkipped "ou=former" { message := "rc=51: busy" }] ∧
      (∀ request, (Exchange.mk .abort ()).call ≠ .build request) ∧
      (Wire.noted (fun _ => ([], .ok {})) ⟨.abort, ()⟩).filter Event.isNotable = [] := by
  let twice : SearchAnswer := .ok [{ dn := "uid=ada,ou=staff" }, { dn := "uid=Ada,ou=staff" }]
  let script : Scripted.Script :=
    { unreachable := ["ldap1"], accounts := [("cn=reader", "secret")], closeError? := some "gone"
      rules := [{ base := "ou=staff", answer := twice },
        { base := "ou=former", answer := .error { message := "rc=51: busy" } },
        { base := "ou=guests", answer := .ok [{ dn := "uid=ada,ou=guests" }] }] }
  let settings : Settings :=
    { urls := ["ldap1", "ldap2"], readerDn := "cn=reader", password := "secret"
      userSearches :=
        [{ baseDn := "ou=staff" }, { baseDn := "ou=former" }, { baseDn := "ou=guests" }] }
  have h := failures_told (Scripted.world none) script (.authenticate "ada" "guess") settings
  have notes := Scripted.notes_world none
  have hcall : ∀ request, (Exchange.mk .abort ()).call ≠ .build request := by simp
  exact ⟨settings, script, notes, (h.2.1 _ notes).trans rfl, hcall, h.2.2 _ _ hcall⟩

end DirectoryLogin.Client
