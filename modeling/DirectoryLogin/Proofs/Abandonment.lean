import DirectoryLogin.Proofs.Release
import DirectoryLogin.Session.Connection

/-!
# Sessions of abandoned operations

An operation can be given up at any call that waits for its answer. A session that is open then is
released, as it is at the end of an operation, but for one case: while the close is pending nobody
holds the connection, and giving up leaves the session open.
-/

namespace DirectoryLogin.Session

/-! ## What a given up run leaves -/

/-- The connection that is at hand after an exchange, with or without its session. -/
def Exchange.held (before : Option Connection) : Exchange → Option Connection
  | ⟨.connect url _ _, .ok ()⟩ => some (.opened url)
  | ⟨.close, _⟩ | ⟨.abort, _⟩ => before.map .taken
  | _ => before

/-- The connection that is at hand while the call is pending. -/
def Call.holding (held : Option Connection) : Call → Option Connection
  | .close | .abort => held.map .taken
  | .build _ | .connect .. | .simpleBind .. | .anonymousBind | .search _ => held

/-- The exchanges of giving up while the call is pending. -/
def Call.parting (held : Option Connection) (call : Call) : List Exchange :=
  if ((call.holding held).bind (·.session?)).isSome then [⟨.abort, ()⟩] else []

/-- The exchange that is pending when a run with these exchanges is given up after `n` of them. -/
def pending? (n : Nat) (xs : List Exchange) : Option Exchange :=
  (xs.drop n).find? fun x => x.call.waits

/-- A run with these exchanges is closing its session when it is given up after `n` of them. -/
def Closing (n : Nat) (xs : List Exchange) : Prop := ∃ x ∈ pending? n xs, x.call = .close

/-- What is left of the exchanges of a run that is given up after `n` of them. -/
def abandoned (held : Option Connection) : Nat → List Exchange → List Exchange
  | _, [] => []
  | n, x :: rest =>
      if n = 0 ∧ x.call.waits then x.call.parting held
      else x :: abandoned (x.held held) (n - 1) rest

theorem pending?_cons_of_waits {x : Exchange} (rest : List Exchange) (hx : x.call.waits) :
    pending? 0 (x :: rest) = some x := by simp [pending?, hx]

theorem pending?_cons {n : Nat} {x : Exchange} (rest : List Exchange)
    (h : ¬ (n = 0 ∧ x.call.waits)) : pending? n (x :: rest) = pending? (n - 1) rest := by
  cases n with
  | zero =>
      have hx : x.call.waits = false := by simpa using h
      simp [pending?, hx]
  | succ n => rfl

theorem closing_cons_of_waits {x : Exchange} (rest : List Exchange) (hx : x.call.waits) :
    Closing 0 (x :: rest) ↔ x.call = .close := by
  simp [Closing, pending?_cons_of_waits rest hx]

theorem closing_cons {n : Nat} {x : Exchange} (rest : List Exchange)
    (h : ¬ (n = 0 ∧ x.call.waits)) : Closing n (x :: rest) ↔ Closing (n - 1) rest := by
  rw [Closing, Closing, pending?_cons rest h]

@[simp] theorem not_closing_nil (n : Nat) : ¬ Closing n [] := by simp [Closing, pending?]

section Run

variable {σ α : Type} (world : World σ)

theorem exchanges_leave (connection? : Option Connection) (state : σ) :
    ((leave connection?).run world state).exchanges =
      if (connection?.bind (·.session?)).isSome then [⟨.abort, ()⟩] else [] := by
  match connection? with
  | none => rfl
  | some ⟨_, none⟩ => rfl
  | some ⟨_, some _⟩ =>
      refine (Program.exchanges_run_note ..).trans ?_
      exact Program.exchanges_run_ask ..

/-- The program asks each call with the connection at hand that the calls before it leave. What is
at hand in the end goes with the result. -/
def Program.Holds (held : Option Connection) (program : Program α)
    (after : α → Option Connection → Prop) : Prop :=
  match program with
  | .done a => after a held
  | .note _ next => next.Holds held after
  | .ask connection? call next =>
      connection? = call.holding held ∧
        ∀ answer, (next answer).Holds (Exchange.held held ⟨call, answer⟩) after

theorem exchanges_abandon {program : Program α} {held : Option Connection}
    {after : α → Option Connection → Prop} (h : program.Holds held after) (n : Nat) (state : σ) :
    (program.abandon world n state).exchanges =
      abandoned held n (program.run world state).exchanges := by
  induction program generalizing held n state with
  | done result => rfl
  | note event next ih => exact ih h n state
  | ask connection? call next ih =>
      obtain ⟨rfl, hnext⟩ := h
      rw [Program.abandon, Program.exchanges_run_ask, abandoned]
      split
      · exact exchanges_leave world _ state
      · simp [ih _ (hnext _), List.filterMap_map, Function.comp_def, Step.exchange?]

theorem result_abandon (program : Program α) (n : Nat) (state : σ) :
    (program.abandon world n state).result = none ↔
      (pending? n (program.run world state).exchanges).isSome := by
  induction program generalizing n state with
  | done result => simp [Program.abandon, pending?, Run.exchanges]
  | note event next ih => exact ih n state
  | ask _ call next ih =>
      rw [Program.abandon, Program.exchanges_run_ask]
      split
      · next h =>
          obtain ⟨rfl, hwaits⟩ := h
          rw [pending?_cons_of_waits _ (by exact hwaits)]
          simp
      · next h =>
          rw [pending?_cons _ h]
          simp [ih]

end Run

/-- A session is ended: closed, or given up with or without an attempt to close it. -/
inductive Ending : List Exchange → Prop
  | released {xs} (h : Released xs) : Ending xs
  | dropped : Ending [⟨.abort, ()⟩]

/-- A session is used and then ended once. -/
def Ended (xs : List Exchange) : Prop :=
  ∃ session ending, xs = session ++ ending ∧ (∀ x ∈ session, x.call.UsesSession) ∧ Ending ending

/-- At most one session is opened, and it is ended once. -/
inductive EndedOnce : List Exchange → Prop
  | unopened {xs} (h : ∀ x ∈ xs, Preliminary x) : EndedOnce xs
  | opened {opening rest} (h : ∀ x ∈ opening, Preliminary x) (url : String)
      (security : Transport.Security) (timeout : Option UInt64) (hrest : Ended rest) :
      EndedOnce (opening ++ ⟨.connect url security timeout, .ok ()⟩ :: rest)

/-- A session is opened and never ended. -/
inductive LeftOpen : List Exchange → Prop
  | mk {opening session} (h : ∀ x ∈ opening, Preliminary x) (url : String)
      (security : Transport.Security) (timeout : Option UInt64)
      (hs : ∀ x ∈ session, x.call.UsesSession) :
      LeftOpen (opening ++ ⟨.connect url security timeout, .ok ()⟩ :: session)

private theorem Ended.last {xs : List Exchange} (h : Ended xs) :
    ∃ ys x, xs = ys ++ [x] ∧ ¬ x.call.UsesSession ∧ ¬ x.call.Opens := by
  obtain ⟨session, ending, rfl, -, hending⟩ := h
  rcases hending with (_ | cause) | _
  · exact ⟨session, ⟨.close, .ok ()⟩, rfl, id, id⟩
  · exact ⟨session ++ [⟨.close, .error cause⟩], ⟨.abort, ()⟩, by simp, id, id⟩
  · exact ⟨session, ⟨.abort, ()⟩, rfl, id, id⟩

/-- A session that is left open has not been ended. -/
theorem LeftOpen.not_endedOnce {xs : List Exchange} (h : LeftOpen xs) : ¬ EndedOnce xs := by
  obtain @⟨opening, session, h, url, security, timeout, hs⟩ := h
  generalize hopened : (⟨.connect url security timeout, .ok ()⟩ : Exchange) = opened
  have hopens : opened.call.Opens := hopened ▸ trivial
  intro hended
  generalize hxs : opening ++ opened :: session = xs at hended
  cases hended with
  | unopened hpreliminary =>
      have hmem : opened ∈ xs := by simp [← hxs]
      rw [← hopened] at hmem
      cases hpreliminary _ hmem
  | opened _ url' security' timeout' hrest =>
      -- What comes last uses the session or opens it, but no session that was ended leaves it so.
      obtain ⟨ys, x, rfl, hunused, hunopened⟩ := hrest.last
      obtain ⟨init, last, hinit⟩ :=
        (List.eq_nil_or_concat (opened :: session)).resolve_left (List.cons_ne_nil _ _)
      have hlast : last = x := by
        rw [hinit, List.concat_eq_append, ← List.append_assoc, ← List.cons_append,
          ← List.append_assoc] at hxs
        exact (List.cons.inj (List.append_inj' hxs rfl).2).1
      have hmem : last ∈ opened :: session := by simp [hinit]
      rcases List.mem_cons.mp hmem with heq | hused
      · exact hunopened (hlast ▸ heq ▸ hopens)
      · exact hunused (hlast ▸ hs last hused)

/-- What becomes of the session of a run with these exchanges when it is given up after `n` of
them. -/
structure Fate {σ α : Type} (n : Nat) (xs : List Exchange) (given : Run σ (Option α))
    (ended leftOpen : List Exchange → Prop) : Prop where
  givenUp : given.result = none ↔ (pending? n xs).isSome
  released : ¬ Closing n xs → ended given.exchanges
  lost : Closing n xs → leftOpen given.exchanges

theorem Call.UsesSession.waits {call : Call} (h : call.UsesSession) : call.waits := by
  rcases h.cases with ⟨_, _, rfl⟩ | rfl | ⟨_, rfl⟩ <;> rfl

theorem Call.UsesSession.holding {call : Call} (h : call.UsesSession)
    (held : Option Connection) : call.holding held = held := by
  rcases h.cases with ⟨_, _, rfl⟩ | rfl | ⟨_, rfl⟩ <;> rfl

theorem Call.UsesSession.parting {call : Call} (h : call.UsesSession) (url : String) :
    call.parting (some (.opened url)) = [⟨.abort, ()⟩] := by
  rw [Call.parting, h.holding]
  rfl

theorem Call.UsesSession.held {x : Exchange} (h : x.call.UsesSession)
    (held : Option Connection) : x.held held = held := by
  obtain ⟨call, answer⟩ := x
  rcases Call.UsesSession.cases h with ⟨_, _, rfl⟩ | rfl | ⟨_, rfl⟩ <;> rfl

theorem Preliminary.parting {x : Exchange} (h : Preliminary x) : x.call.parting none = [] := by
  cases h <;> rfl

theorem Preliminary.held {x : Exchange} (h : Preliminary x) : x.held none = none := by
  cases h <;> rfl

theorem abandoned_cons {n : Nat} {x : Exchange} (held : Option Connection)
    (rest : List Exchange) (h : ¬ (n = 0 ∧ x.call.waits)) :
    abandoned held n (x :: rest) = x :: abandoned (x.held held) (n - 1) rest := by
  rw [abandoned, if_neg h]

theorem abandoned_of_waits {x : Exchange} (held : Option Connection) (rest : List Exchange)
    (h : x.call.waits) : abandoned held 0 (x :: rest) = x.call.parting held := by
  rw [abandoned, if_pos ⟨rfl, h⟩]

private theorem abandoned_ending {ending : List Exchange} (h : Ending ending)
    (url : String) (n : Nat) :
    (¬ Closing n ending → abandoned (some (.opened url)) n ending = ending) ∧
      (Closing n ending → abandoned (some (.opened url)) n ending = []) := by
  have habort (n : Nat) (held : Option Connection) :
      ¬ Closing n [⟨.abort, ()⟩] ∧ abandoned held n [⟨.abort, ()⟩] = [⟨.abort, ()⟩] := by
    rw [closing_cons _ (by simp [Call.waits]), abandoned_cons _ _ (by simp [Call.waits])]
    exact ⟨not_closing_nil _, rfl⟩
  cases h with
  | released h =>
      cases n with
      | zero =>
          have hclosing : Closing 0 ending := by
            cases h <;> exact ⟨_, rfl, rfl⟩
          refine ⟨fun hnot => absurd hclosing hnot, fun _ => ?_⟩
          cases h <;> rfl
      | succ n =>
          cases h with
          | closed => exact ⟨fun _ => rfl, fun h => absurd h (not_closing_nil n)⟩
          | aborted cause =>
              obtain ⟨hnot, habandoned⟩ := habort n (some (Connection.opened url).taken)
              exact ⟨fun _ => congrArg (List.cons _) habandoned, fun h => absurd h hnot⟩
  | dropped =>
      obtain ⟨hnot, habandoned⟩ := habort n (some (.opened url))
      exact ⟨fun _ => habandoned, fun h => absurd h hnot⟩

/-- A session that is given up is ended once, unless its close is pending. -/
private theorem abandoned_use {session ending : List Exchange}
    (hsession : ∀ x ∈ session, x.call.UsesSession) (hending : Ending ending)
    (url : String) (n : Nat) :
    (¬ Closing n (session ++ ending) →
        Ended (abandoned (some (.opened url)) n (session ++ ending))) ∧
      (Closing n (session ++ ending) →
        ∀ x ∈ abandoned (some (.opened url)) n (session ++ ending), x.call.UsesSession) := by
  induction session generalizing n with
  | nil =>
      obtain ⟨hended, hlost⟩ := abandoned_ending hending url n
      rw [List.nil_append]
      constructor
      · intro hnot
        exact ⟨[], ending, hended hnot, by simp, hending⟩
      · intro hclosing
        rw [hlost hclosing]
        simp
  | cons x session ih =>
      have hx : x.call.UsesSession := hsession x List.mem_cons_self
      rw [List.cons_append]
      cases n with
      | zero =>
          rw [closing_cons_of_waits _ hx.waits, abandoned_of_waits _ _ hx.waits,
            hx.parting url]
          exact ⟨fun _ => ⟨[], _, rfl, by simp, .dropped⟩, fun hclose => absurd hclose hx.ne_close⟩
      | succ n =>
          have hcut : ¬ (n + 1 = 0 ∧ x.call.waits) := by simp
          have hrest := ih (fun y hy => hsession y (List.mem_cons_of_mem x hy)) n
          rw [closing_cons _ hcut, abandoned_cons _ _ hcut, hx.held, Nat.add_sub_cancel]
          constructor
          · intro hnot
            obtain ⟨used, last, heq, hused, hlast⟩ := hrest.1 hnot
            exact ⟨x :: used, last, by rw [heq, List.cons_append],
              List.forall_mem_cons.mpr ⟨hx, hused⟩, hlast⟩
          · intro hclosing
            exact List.forall_mem_cons.mpr ⟨hx, hrest.2 hclosing⟩

private theorem abandoned_opening {opening : List Exchange}
    (hopening : ∀ x ∈ opening, Preliminary x) (rest : List Exchange) (n : Nat) :
    (¬ Closing n (opening ++ rest) ∧ ∀ x ∈ abandoned none n (opening ++ rest), Preliminary x) ∨
      ∃ m, (Closing n (opening ++ rest) ↔ Closing m rest) ∧
        abandoned none n (opening ++ rest) = opening ++ abandoned none m rest := by
  induction opening generalizing n with
  | nil => exact .inr ⟨n, Iff.rfl, rfl⟩
  | cons x opening ih =>
      have hx : Preliminary x := hopening x List.mem_cons_self
      rw [List.cons_append]
      by_cases hcut : n = 0 ∧ x.call.waits
      · obtain ⟨rfl, hwaits⟩ := hcut
        rw [closing_cons_of_waits _ hwaits, abandoned_of_waits _ _ hwaits, hx.parting]
        exact .inl ⟨hx.ne_close, by simp⟩
      · rw [closing_cons _ hcut, abandoned_cons _ _ hcut, hx.held]
        rcases ih (fun y hy => hopening y (List.mem_cons_of_mem x hy)) (n - 1) with
          ⟨hnot, hrest⟩ | ⟨m, hiff, hrest⟩
        · exact .inl ⟨hnot, List.forall_mem_cons.mpr ⟨hx, hrest⟩⟩
        · exact .inr ⟨m, hiff, by rw [hrest, List.cons_append]⟩

private theorem abandoned_trace {xs : List Exchange} (n : Nat)
    (h : SessionTrace (fun session => ∀ x ∈ session, x.call.UsesSession) xs) :
    (¬ Closing n xs → EndedOnce (abandoned none n xs)) ∧
      (Closing n xs → LeftOpen (abandoned none n xs)) := by
  cases h with
  | unopened h =>
      have hcut := abandoned_opening h [] n
      rw [List.append_nil] at hcut
      rcases hcut with ⟨hnot, hleft⟩ | ⟨m, hiff, hleft⟩
      · exact ⟨fun _ => .unopened hleft, fun hclosing => absurd hclosing hnot⟩
      · rw [hiff, hleft, abandoned, List.append_nil]
        exact ⟨fun _ => .unopened h, fun hclosing => absurd hclosing (not_closing_nil m)⟩
  | @opened opening session release h url security timeout hs hr =>
      rcases abandoned_opening h (⟨.connect url security timeout, .ok ()⟩ :: (session ++ release)) n
        with ⟨hnot, hleft⟩ | ⟨m, hiff, hleft⟩
      · exact ⟨fun _ => .unopened hleft, fun hclosing => absurd hclosing hnot⟩
      rw [hiff, hleft]
      cases m with
      | zero =>
          -- The connection is still waited for, so that nobody holds it yet.
          rw [closing_cons_of_waits _ rfl, abandoned_of_waits _ _ rfl]
          exact ⟨fun _ => .unopened (by simpa [Call.parting, Call.holding] using h), nofun⟩
      | succ m =>
          have hcut : ¬ (m + 1 = 0 ∧ (Call.connect url security timeout).waits) := by simp
          obtain ⟨hended, hlost⟩ := abandoned_use hs (.released hr) url m
          rw [closing_cons _ hcut, abandoned_cons _ _ hcut]
          exact ⟨fun hnot => .opened h url security timeout (hended hnot),
            fun hclosing => .mk h url security timeout (hlost hclosing)⟩

/-! ## Programs that hold a connection -/

namespace Program.Holds

variable {α β : Type} {held : Option Connection} {program : Program α}
  {after : α → Option Connection → Prop}

theorem mono (h : program.Holds held after) {after' : α → Option Connection → Prop}
    (himp : ∀ a held', after a held' → after' a held') : program.Holds held after' := by
  induction program generalizing held with
  | done a => exact himp a held h
  | note event rest ih => exact ih h
  | ask connection? call rest ih => exact ⟨h.1, fun answer => ih answer (h.2 answer)⟩

theorem bind {next : α → Program β} {after' : β → Option Connection → Prop}
    (h : program.Holds held after)
    (hnext : ∀ a held', after a held' → (next a).Holds held' after') :
    (program >>= next).Holds held after' := by
  induction program generalizing held with
  | done a => exact hnext a held h
  | note event rest ih => exact ih h
  | ask connection? call rest ih => exact ⟨h.1, fun answer => ih answer (h.2 answer)⟩

end Program.Holds

theorem Program.Asks.holds {α : Type} {connection : Connection} {program : Program α}
    (h : program.Asks connection.Serves) :
    program.Holds (some connection) fun _ held => held = some connection := by
  induction program with
  | done a => rfl
  | note event rest ih => exact ih h
  | ask connection? call rest ih =>
      obtain ⟨⟨rfl, huses⟩, hrest⟩ := h
      refine ⟨(huses.holding _).symm, fun answer => ?_⟩
      rw [Call.UsesSession.held huses]
      exact ih answer (hrest answer)

theorem holds_close (url : String) :
    (Connection.opened url).close.Holds (some (.opened url)) fun _ _ => True := by
  refine ⟨rfl, fun answer => ?_⟩
  cases answer with
  | ok => trivial
  | error cause => exact ⟨rfl, fun _ => trivial⟩

theorem holds_drop (url : String) :
    (Connection.opened url).drop.Holds (some (.opened url)) fun _ _ => True :=
  ⟨rfl, fun _ => trivial⟩

theorem holds_establish (security : Transport.Security) (timeout : Option UInt64)
    (urls : List String) : (establish security timeout urls).Holds none fun acquired held =>
      (∃ e, acquired = .error e) ∨
        ∃ url, acquired = .ok (.opened url) ∧ held = some (.opened url) := by
  induction urls with
  | nil => exact .inl ⟨_, rfl⟩
  | cons url others ih =>
      rw [establish]
      refine ⟨rfl, fun answer => ?_⟩
      cases answer with
      | ok => exact .inr ⟨url, rfl, rfl⟩
      | error cause => exact ih

/-- A caller's own use of a connection, up to its close or its drop. -/
def Connection.used {α : Type} (connection : Connection) (use : Program α) (closes : Bool) :
    Program α := do
  let result ← use
  if closes then connection.close else connection.drop
  return result

section Used

variable {α : Type} {url : String} {use : Program α}

private theorem holds_used (h : use.Asks (Connection.opened url).Serves) (closes : Bool) :
    ((Connection.opened url).used use closes).Holds (some (.opened url)) fun _ _ => True := by
  refine h.holds.bind ?_
  rintro result _ rfl
  cases closes with
  | true => exact (holds_close url).bind fun _ _ _ => trivial
  | false => exact (holds_drop url).bind fun _ _ _ => trivial

private theorem ending_of_drop {xs : List Exchange} {u : Unit}
    (h : (Connection.opened url).drop.Yields xs u) : Ending xs := by
  obtain ⟨_, _, rfl, rfl, -⟩ := h
  exact .dropped

private theorem yields_used {closes : Bool} {xs : List Exchange} {result : α}
    (h : ((Connection.opened url).used use closes).Yields xs result) :
    ∃ session ending, xs = session ++ ending ∧ use.Yields session result ∧ Ending ending := by
  obtain ⟨session, rest, a, hsession, hrest, rfl⟩ := (Program.yields_bind _ _ _ _).mp h
  cases closes with
  | true =>
      obtain ⟨ending, _, u, hclose, ⟨rfl, rfl⟩, rfl⟩ := (Program.yields_bind _ _ _ _).mp hrest
      rw [List.append_nil]
      exact ⟨session, ending, rfl, hsession, .released ((yields_close _ _ _).mp hclose)⟩
  | false =>
      obtain ⟨ending, _, u, hdrop, ⟨rfl, rfl⟩, rfl⟩ := (Program.yields_bind _ _ _ _).mp hrest
      rw [List.append_nil]
      exact ⟨session, ending, rfl, hsession, ending_of_drop hdrop⟩

end Used

end DirectoryLogin.Session

namespace DirectoryLogin.Client

open Config (Settings)
open Session

section Uses

variable (url : String) (settings : Settings)

private theorem asks_simpleBind (dn password : String) :
    ((Connection.opened url).simpleBind dn password).Asks (Connection.opened url).Serves :=
  .ask ⟨rfl, trivial⟩ fun _ => .done _

private theorem asks_bindReader :
    (bindReader settings (.opened url)).Asks (Connection.opened url).Serves := by
  unfold bindReader
  split
  · exact .done _
  · refine .note _ ((asks_simpleBind url _ _).bind fun answer => ?_)
    cases answer with
    | ok => exact .done _
    | error cause => exact .note _ (.done _)

variable {url settings} in
private theorem asks_asReader {ε α : Type} {lift : Directory.Error → ε}
    {use : Connection → Program (Except ε α)}
    (h : (use (.opened url)).Asks (Connection.opened url).Serves) :
    (asReader settings lift use (.opened url)).Asks (Connection.opened url).Serves := by
  refine (asks_bindReader url settings).bind fun bound => ?_
  cases bound with
  | error e => exact .done _
  | ok => exact h

private theorem asks_verifyPassword (username password : String) :
    (verifyPassword settings username password (.opened url)).Asks
      (Connection.opened url).Serves := by
  refine (asks_searchUser url _ username _).serves.bind fun looked => ?_
  rcases looked with e | dn
  · cases e <;> exact .done _
  · dsimp only
    split
    · exact .done _
    · refine (asks_simpleBind url dn password).bind fun answer => ?_
      cases answer with
      | ok => exact .done _
      | error cause => exact .note _ (.done _)

private theorem asks_probe :
    (probe settings (.opened url)).Asks (Connection.opened url).Serves := by
  unfold probe
  split
  · refine .ask ⟨rfl, trivial⟩ fun answer => ?_
    cases answer with
    | ok => exact .done _
    | error cause => exact .note _ (.done _)
  · exact asks_bindReader url settings

/-- An operation uses its own connection only, and that for binds and searches. -/
theorem asks_use (op : Operation) :
    (op.use settings (.opened url)).Asks (Connection.opened url).Serves := by
  cases op with
  | authenticate username password =>
      exact asks_asReader (asks_verifyPassword url settings username password)
  | resolveUser username => exact asks_asReader (asks_searchUser url _ username _).serves
  | userGroups username => exact asks_asReader (asks_lookupGroups url settings username).serves
  | searchUsers => exact asks_asReader (asks_enumerateUsers url settings).serves
  | searchGroups => exact asks_asReader (asks_enumerateMemberships url settings).serves
  | testConnectivity => exact asks_probe url settings

end Uses

private theorem holds_acquire (settings : Settings) :
    (acquire settings).Holds none fun acquired held => (∃ e, acquired = .error e) ∨
      ∃ url, acquired = .ok (.opened url) ∧ held = some (.opened url) := by
  unfold acquire
  split
  · exact .inl ⟨_, rfl⟩
  · unfold negotiate
    split
    · refine ⟨rfl, fun answer => ?_⟩
      cases answer with
      | error e => exact .inl ⟨_, rfl⟩
      | ok material => exact holds_establish _ _ _
    · exact holds_establish _ _ _

private theorem holds_withConnection {ε α : Type} {settings : Settings}
    {lift : Directory.Error → ε} {use : Connection → Program (Except ε α)}
    {note : Except ε α → Program Unit}
    (huse : ∀ url, (use (.opened url)).Asks (Connection.opened url).Serves)
    (hnote : ∀ result held, (note result).Holds held fun _ _ => True) :
    (withConnection settings lift use note).Holds none fun _ _ => True := by
  refine (holds_acquire settings).bind ?_
  rintro _ _ (⟨e, rfl⟩ | ⟨url, rfl, rfl⟩)
  · trivial
  · refine (huse url).holds.bind ?_
    rintro result _ rfl
    refine (holds_close url).bind fun _ held _ => ?_
    exact (hnote result held).bind fun _ _ _ => trivial

theorem holds_program (op : Operation) (settings : Settings) :
    (op.program settings).Holds none fun _ _ => True := by
  have huse (url : String) := asks_use url settings op
  have hsilently {γ : Type} (result : γ) (held : Option Connection) :
      (silently result).Holds held fun _ _ => True := trivial
  cases op with
  | authenticate username password =>
      refine holds_withConnection huse fun result _ => ?_
      cases result <;> trivial
  | resolveUser username => exact holds_withConnection huse hsilently
  | userGroups username => exact holds_withConnection huse hsilently
  | searchUsers => exact holds_withConnection huse hsilently
  | searchGroups => exact holds_withConnection huse hsilently
  | testConnectivity =>
      refine holds_withConnection huse fun result _ => ?_
      cases result <;> trivial

/-- Where an operation, or a use of a connection of one's own, is given up at any point, the
session is ended once and not used after that, unless it is just being closed: then nothing ends
it. -/
theorem released_unless_closing {σ : Type} (world : World σ) (state : σ) (n : Nat) :
    (∀ (op : Operation) (settings : Settings),
      Fate n ((op.program settings).run world state).exchanges
        ((op.program settings).abandon world n state) EndedOnce LeftOpen) ∧
      ∀ (α : Type) (url : String) (use : Program α) (closes : Bool),
        use.Asks (Connection.opened url).Serves →
          Fate n (((Connection.opened url).used use closes).run world state).exchanges
            (((Connection.opened url).used use closes).abandon world n state) Ended
            (∀ x ∈ ·, x.call.UsesSession) := by
  constructor
  · intro op settings
    have hyields := Program.yields_run world (op.program settings) state
    have htrace := Operation.sessionTrace_of_yields
      (fun url _ _ h => (asks_use url settings op).usesSession h) hyields
    have hfate := abandoned_trace n htrace
    rw [← exchanges_abandon world (holds_program op settings) n state] at hfate
    exact ⟨result_abandon world (op.program settings) n state, hfate.1, hfate.2⟩
  · intro α url use closes hasks
    have hyields := Program.yields_run world ((Connection.opened url).used use closes) state
    obtain ⟨session, ending, hxs, hsession, hending⟩ := yields_used hyields
    have hfate := abandoned_use (hasks.usesSession hsession) hending url n
    rw [← hxs, ← exchanges_abandon world (holds_used hasks closes) n state] at hfate
    exact ⟨result_abandon world ((Connection.opened url).used use closes) n state, hfate.1,
      hfate.2⟩

/-- A caller's own bind, given up when the session is just being closed. -/
theorem released_unless_closing_bind :
    let connection := Connection.opened "ldap1"
    connection.anonymousBind.Asks connection.Serves ∧
      Fate 1
        ((connection.used connection.anonymousBind true).run (Scripted.world none) {}).exchanges
        ((connection.used connection.anonymousBind true).abandon (Scripted.world none) 1 {})
        Ended (∀ x ∈ ·, x.call.UsesSession) := by
  intro connection
  have hasks : connection.anonymousBind.Asks connection.Serves :=
    .ask ⟨rfl, trivial⟩ fun _ => .done _
  exact ⟨hasks, (released_unless_closing (Scripted.world none) {} 1).2 _ "ldap1" _ true hasks⟩

/-- A connectivity test that is given up while it takes leave of its server does not end the
session. -/
theorem not_endedOnce_of_closing :
    ((Operation.testConnectivity.program { urls := ["ldap1"], anonymous := true }).abandon
        (Scripted.world none) 2 {}).result = none ∧
      ¬ EndedOnce
        ((Operation.testConnectivity.program { urls := ["ldap1"], anonymous := true }).abandon
          (Scripted.world none) 2 {}).exchanges := by
  have hopen : LeftOpen [⟨.connect "ldap1" .plain none, .ok ()⟩, ⟨.anonymousBind, .ok ()⟩] :=
    @LeftOpen.mk [] [⟨.anonymousBind, .ok ()⟩] (by simp) "ldap1" .plain none
      (by simp [Call.UsesSession])
  exact ⟨rfl, hopen.not_endedOnce⟩

end DirectoryLogin.Client
