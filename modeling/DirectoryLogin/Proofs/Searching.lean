import DirectoryLogin.Client.Operation
import DirectoryLogin.Proofs.Opening

/-!
# Binding and searching on a session

What an operation asks of the session that it has: the bind as the service account, the searches for
a user up to the first that finds exactly one entry, and the bind that checks a password. The other
searches are told apart from binds only (`Asks`).
-/

namespace DirectoryLogin.Session

def Call.IsSearch : Call → Prop
  | .search _ => True
  | .build _ | .connect .. | .simpleBind .. | .anonymousBind | .close | .abort => False

/-- The call asks something of a session that is open. -/
def Call.UsesSession : Call → Prop
  | .simpleBind .. | .anonymousBind | .search _ => True
  | .build _ | .connect .. | .close | .abort => False

/-- The call leads up to a session. -/
def Call.Opens : Call → Prop
  | .build _ | .connect .. => True
  | .simpleBind .. | .anonymousBind | .search _ | .close | .abort => False

theorem Call.IsSearch.usesSession {call : Call} (h : call.IsSearch) : call.UsesSession := by
  cases call with
  | search request => trivial
  | _ => exact h.elim

theorem Call.UsesSession.cases {call : Call} (h : call.UsesSession) :
    (∃ dn password, call = .simpleBind dn password) ∨ call = .anonymousBind ∨
      ∃ request, call = .search request := by
  cases call with
  | simpleBind dn password => exact .inl ⟨dn, password, rfl⟩
  | anonymousBind => exact .inr (.inl rfl)
  | search request => exact .inr (.inr ⟨request, rfl⟩)
  | build | connect | close | abort => exact h.elim

theorem Call.UsesSession.not_opens {call : Call} (h : call.UsesSession) : ¬ call.Opens := by
  rcases h.cases with ⟨_, _, rfl⟩ | rfl | ⟨_, rfl⟩ <;> exact id

theorem Released.not_opens {xs : List Exchange} (h : Released xs) :
    ∀ x ∈ xs, ¬ x.call.Opens := by
  cases h with
  | closed => simp [Call.Opens]
  | aborted cause => simp [Call.Opens]

/-- The call uses the connection, which is at hand. -/
def Connection.Serves (connection : Connection) (connection? : Option Connection) (call : Call) :
    Prop :=
  connection? = some connection ∧ call.UsesSession

/-- The call is a search on the connection, which is at hand. -/
def Connection.Searches (connection : Connection) (connection? : Option Connection)
    (call : Call) : Prop :=
  connection? = some connection ∧ call.IsSearch

namespace Program

variable {α β : Type} {allowed : Option Connection → Call → Prop}

/-- All calls that the program can make are allowed with the connection that is at hand then. -/
def Asks (allowed : Option Connection → Call → Prop) : Program α → Prop
  | .done _ => True
  | .note _ next => next.Asks allowed
  | .ask connection? call next => allowed connection? call ∧ ∀ answer, (next answer).Asks allowed

namespace Asks

theorem done (a : α) : (Program.done a).Asks allowed := trivial

theorem note (event : Log.Event) {next : Program α} (h : next.Asks allowed) :
    (Program.note event next).Asks allowed := h

theorem ask {connection? : Option Connection} {c : Call} {next : c.Answer → Program α}
    (hc : allowed connection? c) (h : ∀ answer, (next answer).Asks allowed) :
    (Program.ask connection? c next).Asks allowed := ⟨hc, h⟩

theorem bind {program : Program α} {next : α → Program β} (h : program.Asks allowed)
    (hnext : ∀ a, (next a).Asks allowed) : (program >>= next).Asks allowed := by
  induction program with
  | done a => exact hnext a
  | note event rest ih => exact ih h
  | ask connection? call rest ih => exact ⟨h.1, fun answer => ih answer (h.2 answer)⟩

theorem mono {allowed' : Option Connection → Call → Prop} {program : Program α}
    (h : program.Asks allowed)
    (himp : ∀ connection? call, allowed connection? call → allowed' connection? call) :
    program.Asks allowed' := by
  induction program with
  | done a => trivial
  | note event rest ih => exact ih h
  | ask connection? call rest ih => exact ⟨himp _ _ h.1, fun answer => ih answer (h.2 answer)⟩

theorem of_yields {program : Program α} (h : program.Asks allowed) {xs : List Exchange} {a : α}
    (hyields : program.Yields xs a) : ∀ x ∈ xs, ∃ connection?, allowed connection? x.call := by
  induction program generalizing xs with
  | done result =>
      obtain ⟨rfl, -⟩ := hyields
      simp
  | note event rest ih => exact ih h hyields
  | ask connection? call rest ih =>
      obtain ⟨answer, tail, rfl, hrest⟩ := hyields
      exact List.forall_mem_cons.mpr ⟨⟨connection?, h.1⟩, ih answer (h.2 answer) hrest⟩

variable {connection : Connection} {program : Program α} {xs : List Exchange} {a : α}

theorem isSearch (h : program.Asks connection.Searches) (hyields : program.Yields xs a) :
    ∀ x ∈ xs, x.call.IsSearch := by
  intro x hx
  obtain ⟨_, -, hsearch⟩ := h.of_yields hyields x hx
  exact hsearch

theorem usesSession (h : program.Asks connection.Serves) (hyields : program.Yields xs a) :
    ∀ x ∈ xs, x.call.UsesSession := by
  intro x hx
  obtain ⟨_, -, huses⟩ := h.of_yields hyields x hx
  exact huses

theorem serves (h : program.Asks connection.Searches) : program.Asks connection.Serves :=
  h.mono fun _ _ hcall => ⟨hcall.1, hcall.2.usesSession⟩

end Asks

end Program

end DirectoryLogin.Session

namespace DirectoryLogin.Client

open Config (GroupSearch Limits Settings UserSearch)
open Directory (Entry SearchRequest)
open Session

/-- The bind as the service account, which is left out where searches are anonymous. -/
inductive ReaderBind (settings : Settings) : List Exchange → Except Directory.Error Unit → Prop
  | unneeded (h : settings.anonymous = true) : ReaderBind settings [] (.ok ())
  | accepted (h : settings.anonymous = false) :
      ReaderBind settings [⟨.simpleBind settings.readerDn settings.password, .ok ()⟩] (.ok ())
  | rejected (h : settings.anonymous = false) (cause : Directory.SessionError) :
      ReaderBind settings [⟨.simpleBind settings.readerDn settings.password, .error cause⟩]
        (.error (.config (.reader cause)))

theorem yields_bindReader (settings : Settings) (url : String) (xs : List Exchange)
    (result : Except Directory.Error Unit) :
    (bindReader settings (.opened url)).Yields xs result ↔ ReaderBind settings xs result := by
  unfold bindReader
  split
  · next h =>
      constructor
      · intro hyields
        obtain ⟨rfl, rfl⟩ := hyields
        exact .unneeded h
      · intro hbind
        cases hbind with
        | unneeded => exact ⟨rfl, rfl⟩
        | accepted h' => simp [h] at h'
        | rejected h' => simp [h] at h'
  · next h =>
      rw [Bool.not_eq_true] at h
      constructor
      · intro hyields
        obtain ⟨answer, rest, rfl, hrest⟩ := hyields
        cases answer with
        | ok =>
            obtain ⟨rfl, rfl⟩ := hrest
            exact .accepted h
        | error cause =>
            obtain ⟨rfl, rfl⟩ := hrest
            exact .rejected h cause
      · intro hbind
        cases hbind with
        | unneeded h' => simp [h] at h'
        | accepted => exact ⟨.ok (), [], rfl, rfl, rfl⟩
        | rejected _ cause => exact ⟨.error cause, [], rfl, rfl, rfl⟩

theorem yields_asReader {ε α : Type} (settings : Settings) (lift : Directory.Error → ε)
    (use : Connection → Program (Except ε α)) (url : String) (xs : List Exchange)
    (result : Except ε α) :
    (asReader settings lift use (.opened url)).Yields xs result ↔
      (∃ e, ReaderBind settings xs (.error e) ∧ result = .error (lift e)) ∨
        ∃ ys zs, ReaderBind settings ys (.ok ()) ∧ (use (.opened url)).Yields zs result ∧
          xs = ys ++ zs := by
  unfold asReader
  rw [Program.yields_bind]
  simp only [yields_bindReader]
  constructor
  · intro hyields
    obtain ⟨ys, zs, bound, hys, hzs, rfl⟩ := hyields
    cases bound with
    | error e =>
        obtain ⟨rfl, rfl⟩ := hzs
        exact .inl ⟨e, by rwa [List.append_nil], rfl⟩
    | ok => exact .inr ⟨ys, zs, hys, hzs, rfl⟩
  · intro hstages
    rcases hstages with ⟨e, hxs, rfl⟩ | ⟨ys, zs, hys, hzs, rfl⟩
    · exact ⟨xs, [], _, hxs, ⟨rfl, rfl⟩, (List.append_nil xs).symm⟩
    · exact ⟨ys, zs, _, hys, hzs, rfl⟩

/-- The search failed, or did not find exactly one entry. -/
def PassedOver (limits : Limits) (username : String) (search : UserSearch) (x : Exchange) : Prop :=
  ∃ answer, x = ⟨.search (userRequest limits username search), answer⟩ ∧
    ∀ entry, answer ≠ .ok [entry]

/-- The search found exactly one entry, which has this name. -/
def Found (limits : Limits) (username : String) (search : UserSearch) (x : Exchange) (dn : String) :
    Prop :=
  ∃ entry, x = ⟨.search (userRequest limits username search), .ok [entry]⟩ ∧ dn = entry.dn

theorem yields_searchUser (url : String) (limits : Limits) (username : String)
    (searches : List UserSearch) (xs : List Exchange) (result : Except Directory.Error String) :
    (searchUser (.opened url) limits username searches).Yields xs result ↔
      ∃ found, InTurn (PassedOver limits username) (Found limits username) searches xs found ∧
        result = found.elim (.error .userNotFound) .ok := by
  induction searches generalizing xs with
  | nil =>
      rw [inTurn_nil_iff]
      exact Iff.rfl
  | cons search others ih =>
      rw [searchUser, inTurn_cons_iff]
      constructor
      · rintro ⟨answer, rest, rfl, h⟩
        -- Every answer but a single entry leads on to the other searches, in the same way.
        match answer, h with
        | .ok [entry], ⟨hrest, hresult⟩ =>
            subst hrest hresult
            exact .inl ⟨_, _, rfl, ⟨entry, rfl, rfl⟩, rfl⟩
        | .ok [], h => exact .inr ⟨_, rest, rfl, ⟨_, rfl, by simp⟩, (ih rest).mp h⟩
        | .ok (_ :: _ :: _), h => exact .inr ⟨_, rest, rfl, ⟨_, rfl, by simp⟩, (ih rest).mp h⟩
        | .error _, h => exact .inr ⟨_, rest, rfl, ⟨_, rfl, by simp⟩, (ih rest).mp h⟩
      · rintro (⟨_, _, rfl, ⟨entry, rfl, rfl⟩, hresult⟩ | ⟨_, rest, rfl, ⟨answer, rfl, hne⟩, h⟩)
        · exact ⟨.ok [entry], [], rfl, rfl, hresult⟩
        · have hothers := (ih rest).mpr h
          refine ⟨answer, rest, rfl, ?_⟩
          match answer, hne with
          | .ok [entry], hne => exact absurd rfl (hne entry)
          | .ok [], _ => exact hothers
          | .ok (_ :: _ :: _), _ => exact hothers
          | .error _, _ => exact hothers

/-- How the password of a user is checked on the session. -/
inductive PasswordCheck (settings : Settings) (username password : String) :
    List Exchange → Except Directory.Error Unit → Prop
  | unknown {xs} (h : List.Forall₂ (PassedOver settings.limits username) settings.userSearches xs) :
      PasswordCheck settings username password xs (.error .unauthorized)
  | untried {xs dn} (h : InTurn (PassedOver settings.limits username)
      (Found settings.limits username) settings.userSearches xs (some dn)) (empty : password = "") :
      PasswordCheck settings username password xs (.error .unauthorized)
  | accepted {xs dn} (h : InTurn (PassedOver settings.limits username)
      (Found settings.limits username) settings.userSearches xs (some dn)) (given : password ≠ "") :
      PasswordCheck settings username password (xs ++ [⟨.simpleBind dn password, .ok ()⟩]) (.ok ())
  | rejected {xs dn cause} (h : InTurn (PassedOver settings.limits username)
      (Found settings.limits username) settings.userSearches xs (some dn)) (given : password ≠ "") :
      PasswordCheck settings username password
        (xs ++ [⟨.simpleBind dn password, .error cause⟩]) (.error .unauthorized)

theorem yields_verifyPassword (settings : Settings) (username password : String)
    (url : String) (xs : List Exchange) (result : Except Directory.Error Unit) :
    (verifyPassword settings username password (.opened url)).Yields xs result ↔
      PasswordCheck settings username password xs result := by
  unfold verifyPassword lookupUser
  rw [Program.yields_bind]
  simp only [yields_searchUser]
  constructor
  · intro hyields
    obtain ⟨ys, zs, _, ⟨found, hfound, rfl⟩, hzs, rfl⟩ := hyields
    cases found with
    | none =>
        obtain ⟨rfl, rfl⟩ := hzs
        rw [List.append_nil]
        exact .unknown (inTurn_none_iff.mp hfound)
    | some dn =>
        by_cases hp : password = ""
        · subst hp
          obtain ⟨rfl, rfl⟩ := hzs
          rw [List.append_nil]
          exact .untried hfound rfl
        · have hempty : ¬ password.isEmpty := by rwa [String.isEmpty_iff]
          simp only [Option.elim_some, if_neg hempty] at hzs
          obtain ⟨answer, rest, rfl, hrest⟩ := hzs
          cases answer with
          | ok =>
              obtain ⟨rfl, rfl⟩ := hrest
              exact .accepted hfound hp
          | error cause =>
              obtain ⟨rfl, rfl⟩ := hrest
              exact .rejected hfound hp
  · intro hcheck
    cases hcheck with
    | unknown h =>
        refine ⟨xs, [], _, ⟨none, ?_, rfl⟩, ⟨rfl, rfl⟩, (List.append_nil xs).symm⟩
        exact inTurn_none_iff.mpr h
    | untried h empty =>
        subst empty
        exact ⟨xs, [], _, ⟨_, h, rfl⟩, ⟨rfl, rfl⟩, (List.append_nil xs).symm⟩
    | accepted h given =>
        refine ⟨_, _, _, ⟨_, h, rfl⟩, ?_, rfl⟩
        have hempty : ¬ password.isEmpty := by rwa [String.isEmpty_iff]
        simp only [Option.elim_some, if_neg hempty]
        exact ⟨.ok (), [], rfl, rfl, rfl⟩
    | @rejected _ _ cause h given =>
        refine ⟨_, _, _, ⟨_, h, rfl⟩, ?_, rfl⟩
        have hempty : ¬ password.isEmpty := by rwa [String.isEmpty_iff]
        simp only [Option.elim_some, if_neg hempty]
        exact ⟨.error cause, [], rfl, rfl, rfl⟩

/-! ## Searches only -/

theorem isSearch_of_inTurn {limits : Limits} {username : String} {searches : List UserSearch}
    {xs : List Exchange} {found : Option String}
    (h : InTurn (PassedOver limits username) (Found limits username) searches xs found) :
    ∀ x ∈ xs, x.call.IsSearch := by
  intro x hx
  induction h with
  | exhausted => cases hx
  | hit h =>
      obtain ⟨entry, rfl, -⟩ := h
      rw [List.mem_singleton.mp hx]
      trivial
  | miss h _ ih =>
      obtain ⟨answer, rfl, -⟩ := h
      rcases List.mem_cons.mp hx with rfl | hx
      · trivial
      · exact ih hx

section Searches

variable (url : String)

theorem asks_search (request : SearchRequest) :
    ((Connection.opened url).search request).Asks (Connection.opened url).Searches :=
  .ask ⟨rfl, trivial⟩ fun _ => .done _

theorem asks_searchUser (limits : Limits) (username : String) (searches : List UserSearch) :
    (searchUser (.opened url) limits username searches).Asks (Connection.opened url).Searches := by
  induction searches with
  | nil => exact .done _
  | cons search others ih =>
      rw [searchUser]
      refine .note _ ((asks_search url _).bind fun answer => ?_)
      rcases answer with cause | (_ | ⟨entry, _ | ⟨second, more⟩⟩)
      · exact .note _ ih
      · exact .note _ ih
      · exact .note _ (.done _)
      · exact .note _ ih

theorem asks_searchUserGroups (limits : Limits) (dn : String) (found : List String)
    (searches : List GroupSearch) :
    (searchUserGroups (.opened url) limits dn found searches).Asks
      (Connection.opened url).Searches := by
  induction searches generalizing found with
  | nil => exact .note _ (.done _)
  | cons search others ih =>
      rw [searchUserGroups]
      refine .note _ ((asks_search url _).bind fun answer => ?_)
      cases answer with
      | ok entries => exact ih _
      | error cause => exact .note _ (ih found)

theorem asks_lookupGroups (settings : Settings) (username : String) :
    (lookupGroups settings username (.opened url)).Asks (Connection.opened url).Searches := by
  unfold lookupGroups lookupUser
  refine (asks_searchUser url _ _ _).bind fun looked => ?_
  cases looked with
  | error e => exact .done _
  | ok dn => exact asks_searchUserGroups _ _ _ _ _

private theorem asks_loginNames {allowed : Option Connection → Call → Prop}
    (loginAttribute : String) (entries : List Entry) :
    (loginNames loginAttribute entries).Asks allowed := by
  induction entries with
  | nil => exact .done _
  | cons entry rest ih =>
      rw [loginNames]
      split
      · exact ih.bind fun _ => .done _
      · exact .note _ ih

private theorem asks_memberships {allowed : Option Connection → Call → Prop}
    (memberAttribute : String) (entries : List Entry) :
    (memberships memberAttribute entries).Asks allowed := by
  induction entries with
  | nil => exact .done _
  | cons entry rest ih =>
      rw [memberships]
      split
      · exact ih.bind fun _ => .done _
      · exact .note _ ih

private theorem asks_enumerate {α β : Type} {policy : Policy} {request : β → SearchRequest}
    {yield : β → List Entry → Program (List α)}
    (hyield : ∀ search entries, (yield search entries).Asks (Connection.opened url).Searches)
    (found : List α) (searches : List β) :
    (enumerate policy (.opened url) request yield found searches).Asks
      (Connection.opened url).Searches := by
  induction searches generalizing found with
  | nil => exact .done _
  | cons search others ih =>
      rw [enumerate]
      refine (asks_search url _).bind fun answer => ?_
      cases answer with
      | ok entries => exact (hyield search entries).bind fun more => ih _
      | error cause =>
          cases policy with
          | bestEffort => exact .note _ (ih found)
          | failFast => exact .note _ (.done _)

theorem asks_enumerateUsers (settings : Settings) :
    (enumerateUsers settings (.opened url)).Asks (Connection.opened url).Searches := by
  apply asks_enumerate
  intro search entries
  exact asks_loginNames search.loginAttribute entries

theorem asks_enumerateMemberships (settings : Settings) :
    (enumerateMemberships settings (.opened url)).Asks (Connection.opened url).Searches := by
  apply asks_enumerate
  intro search entries
  exact asks_memberships search.memberAttribute entries

end Searches

end DirectoryLogin.Client
