import DirectoryLogin.Proofs.Prediction

/-!
# Passwords of binds

A bind with a name and an empty password proves nothing, and servers let it in all the same. A user
is never bound without a password. The service account is bound with the password of the settings,
also where that is empty: then searches and connectivity tests go on from a bind that proves
nothing.
-/

namespace DirectoryLogin.Session

open Directory (SessionError)

/-- The name and the password that are bound, with the answer. -/
def Exchange.bind? : Exchange → Option (String × String × Except SessionError Unit)
  | ⟨.simpleBind dn password, answer⟩ => some (dn, password, answer)
  | ⟨.build _, _⟩ | ⟨.connect .., _⟩ | ⟨.anonymousBind, _⟩ | ⟨.search _, _⟩ | ⟨.close, _⟩
  | ⟨.abort, _⟩ => none

def binds (xs : List Exchange) : List (String × String × Except SessionError Unit) :=
  xs.filterMap Exchange.bind?

@[simp] theorem binds_append (xs ys : List Exchange) : binds (xs ++ ys) = binds xs ++ binds ys :=
  List.filterMap_append

theorem binds_of_preliminary {xs : List Exchange} (h : ∀ x ∈ xs, Preliminary x) :
    binds xs = [] := by
  rw [binds, List.filterMap_eq_nil_iff]
  intro x hx
  cases h x hx <;> rfl

theorem binds_of_searches {xs : List Exchange} (h : ∀ x ∈ xs, x.call.IsSearch) :
    binds xs = [] := by
  rw [binds, List.filterMap_eq_nil_iff]
  rintro ⟨call, answer⟩ hx
  cases call with
  | search request => rfl
  | _ => exact (h _ hx).elim

theorem Released.binds {xs : List Exchange} (h : Released xs) : binds xs = [] := by
  cases h <;> rfl

/-- The directory has let the name in by a password. -/
def Proven (dn : String) (xs : List Exchange) : Prop :=
  ∃ password, password ≠ "" ∧ (dn, password, .ok ()) ∈ binds xs

private theorem before_of_middle {front middle back before after : List Exchange} {x : Exchange}
    (heq : before ++ x :: after = front ++ (middle ++ back)) (hfront : x ∉ front)
    (hback : x ∉ back) :
    ∃ earlier later, middle = earlier ++ x :: later ∧ before = front ++ earlier := by
  induction front generalizing before with
  | nil =>
      rw [List.nil_append] at heq
      rcases List.append_eq_append_iff.mp heq with ⟨rest, hmiddle, hrest⟩ | ⟨rest, -, hrest⟩
      · cases rest with
        | nil =>
            rw [List.nil_append] at hrest
            exact absurd (hrest ▸ List.mem_cons_self) hback
        | cons y later =>
            obtain ⟨rfl, -⟩ := List.cons.inj hrest
            exact ⟨before, later, hmiddle, rfl⟩
      · rw [hrest] at hback
        exact absurd (List.mem_append_right rest List.mem_cons_self) hback
  | cons y front ih =>
      rw [List.mem_cons, not_or] at hfront
      cases before with
      | nil => exact absurd (List.cons.inj heq).1 hfront.1
      | cons z before =>
          obtain ⟨rfl, hrest⟩ := List.cons.inj heq
          obtain ⟨earlier, later, hmiddle, rfl⟩ := ih hrest hfront.2
          exact ⟨earlier, later, hmiddle, rfl⟩

end DirectoryLogin.Session

namespace DirectoryLogin.Client

open Config (Settings)
open Session

/-- Which binds of a run prove something. -/
structure Vouched (op : Operation) (settings : Settings) (xs : List Exchange)
    (result : Except op.Failure op.Value) : Prop where
  /-- All binds are those of the service account and of a user with a password. -/
  bound : ∀ dn password answer, (dn, password, answer) ∈ binds xs →
    settings.anonymous = false ∧ dn = settings.readerDn ∧ password = settings.password ∨
      password ≠ "" ∧ ∃ username, op = .authenticate username password
  /-- Binds lack a password exactly on sessions as a service account that has none. -/
  given : (∀ dn password answer, (dn, password, answer) ∈ binds xs → password ≠ "") ↔
    (Connected xs → settings.anonymous = true ∨ settings.password ≠ "")
  tested : settings.anonymous = false → op = .testConnectivity → (∃ value, result = .ok value) →
    (Proven settings.readerDn xs ↔ settings.password ≠ "")
  searched : settings.anonymous = false → ∀ before request answer after,
    xs = before ++ ⟨.search request, answer⟩ :: after →
      (Proven settings.readerDn before ↔ settings.password ≠ "")

/-! ## The first and the last bind -/

theorem FirstBind.binds_eq {op : Operation} {settings : Settings} {xs : List Exchange}
    (h : FirstBind op settings xs) : settings.anonymous = true ∧ binds xs = [] ∨
      settings.anonymous = false ∧
        ∃ answer, xs = [⟨.simpleBind settings.readerDn settings.password, answer⟩] ∧
          binds xs = [(settings.readerDn, settings.password, answer)] := by
  cases h with
  | reader h answer => exact .inr ⟨h, answer, rfl, rfl⟩
  | anonymous h => exact .inl ⟨h, rfl⟩
  | none h => exact .inl ⟨h, rfl⟩

theorem LastBind.given {op : Operation} {searches xs : List Exchange}
    (h : LastBind op searches xs) {dn password : String} {answer}
    (hbind : (dn, password, answer) ∈ binds xs) :
    password ≠ "" ∧ ∃ username, op = .authenticate username password := by
  cases h with
  | none => cases hbind
  | @user username _ _ _ _ hop given answer =>
      cases List.mem_singleton.mp hbind
      exact ⟨given, username, hop⟩

/-- The binds of a run are the first and the last one on its session. -/
theorem binds_of_trace {op : Operation} {settings : Settings} {xs : List Exchange}
    (h : SessionTrace (Disciplined op settings) xs) : ¬ Connected xs ∧ binds xs = [] ∨
      Connected xs ∧ ∃ searches first last, binds xs = binds first ++ binds last ∧
        FirstBind op settings first ∧ LastBind op searches last := by
  cases h with
  | unopened h =>
      refine .inl ⟨fun hconnected => ?_, binds_of_preliminary h⟩
      obtain ⟨rest, hafter⟩ := hconnected
      exact not_afterConnection_of_preliminary h hafter
  | @opened opening session release h url security timeout hsession hrelease =>
      obtain ⟨first, searches, last, rfl, hfirst, hsearches, hlast, -⟩ := hsession
      refine .inr ⟨⟨_, opening, url, security, timeout, rfl⟩, searches, first, last, ?_, hfirst,
        hlast⟩
      have hconnect (rest : List Exchange) :
          binds (⟨.connect url security timeout, .ok ()⟩ :: rest) = binds rest := rfl
      rw [binds_append, hconnect]
      simp only [binds_append, binds_of_preliminary h, binds_of_searches hsearches, hrelease.binds,
        List.nil_append, List.append_nil]

private theorem bound_of_trace {op : Operation} {settings : Settings} {xs : List Exchange}
    (h : SessionTrace (Disciplined op settings) xs) {dn password : String} {answer}
    (hbind : (dn, password, answer) ∈ binds xs) :
    settings.anonymous = false ∧ dn = settings.readerDn ∧ password = settings.password ∨
      password ≠ "" ∧ ∃ username, op = .authenticate username password := by
  rcases binds_of_trace h with ⟨-, hnone⟩ | ⟨-, searches, first, last, heq, hfirst, hlast⟩
  · rw [hnone] at hbind
    cases hbind
  · rw [heq] at hbind
    rcases List.mem_append.mp hbind with hbind | hbind
    · rcases hfirst.binds_eq with ⟨-, hnone⟩ | ⟨hnamed, reply, -, hreader⟩
      · rw [hnone] at hbind
        cases hbind
      · rw [hreader] at hbind
        cases List.mem_singleton.mp hbind
        exact .inl ⟨hnamed, rfl, rfl⟩
    · exact .inr (hlast.given hbind)

private theorem given_iff_of_trace {op : Operation} {settings : Settings} {xs : List Exchange}
    (h : SessionTrace (Disciplined op settings) xs) :
    (∀ dn password answer, (dn, password, answer) ∈ binds xs → password ≠ "") ↔
      (Connected xs → settings.anonymous = true ∨ settings.password ≠ "") := by
  constructor
  · intro hgiven hconnected
    rcases binds_of_trace h with ⟨hnot, -⟩ | ⟨-, searches, first, last, heq, hfirst, -⟩
    · exact absurd hconnected hnot
    · rcases hfirst.binds_eq with ⟨hanonymous, -⟩ | ⟨-, answer, -, hreader⟩
      · exact .inl hanonymous
      · apply Or.inr
        apply hgiven settings.readerDn settings.password answer
        rw [heq, hreader]
        exact List.mem_cons_self
  · intro hreader dn password answer hbind
    have hconnected : Connected xs := by
      rcases binds_of_trace h with ⟨-, hnone⟩ | ⟨hconnected, -⟩
      · rw [hnone] at hbind
        cases hbind
      · exact hconnected
    rcases bound_of_trace h hbind with ⟨hnamed, -, rfl⟩ | ⟨hgiven, -⟩
    · rcases hreader hconnected with hanonymous | hgiven
      · rw [hnamed] at hanonymous
        cases hanonymous
      · exact hgiven
    · exact hgiven

/-! ## What has been proven -/

/-- Where the service account was let in and nobody else was bound, it is by its password that it
was. -/
private theorem proven_iff {settings : Settings} {xs : List Exchange}
    (h : binds xs = [(settings.readerDn, settings.password, .ok ())]) :
    Proven settings.readerDn xs ↔ settings.password ≠ "" := by
  rw [Proven, h]
  constructor
  · rintro ⟨password, hgiven, hbind⟩
    cases List.mem_singleton.mp hbind
    exact hgiven
  · intro hgiven
    exact ⟨settings.password, hgiven, List.mem_cons_self⟩

private theorem searched_of_trace {op : Operation} {settings : Settings} {xs : List Exchange}
    (h : SessionTrace (Disciplined op settings) xs) (hnamed : settings.anonymous = false)
    {before after : List Exchange} {request : Directory.SearchRequest} {answer}
    (heq : xs = before ++ ⟨.search request, answer⟩ :: after) :
    Proven settings.readerDn before ↔ settings.password ≠ "" := by
  cases h with
  | unopened h => cases h _ (heq ▸ List.mem_append_right before List.mem_cons_self)
  | @opened opening session release h url security timeout hsession hrelease =>
      obtain ⟨first, searches, last, rfl, hfirst, hsearches, hlast, hrefused, -⟩ := hsession
      rcases hfirst.binds_eq with ⟨hanonymous, -⟩ | ⟨-, bound, rfl, -⟩
      · rw [hnamed] at hanonymous
        cases hanonymous
      let front := opening ++ [⟨.connect url security timeout, .ok ()⟩,
        ⟨.simpleBind settings.readerDn settings.password, bound⟩]
      have hsplit : before ++ ⟨.search request, answer⟩ :: after =
          front ++ (searches ++ (last ++ release)) := by
        rw [← heq]
        simp [front]
      have hfront : ⟨.search request, answer⟩ ∉ front := by
        intro hmem
        rcases List.mem_append.mp hmem with hmem | hmem
        · cases h _ hmem
        · simp at hmem
      have hback : ⟨.search request, answer⟩ ∉ last ++ release := by
        intro hmem
        rcases List.mem_append.mp hmem with hmem | hmem
        · cases hlast with
          | none => cases hmem
          | user => simp at hmem
        · cases hrelease <;> simp at hmem
      obtain ⟨earlier, later, hmiddle, rfl⟩ := before_of_middle hsplit hfront hback
      have hearlier : ∀ x ∈ earlier, x.call.IsSearch := by
        intro x hx
        exact hsearches x (hmiddle ▸ List.mem_append_left _ hx)
      cases bound with
      | ok =>
          apply proven_iff
          rw [binds_append, binds_append, binds_of_preliminary h, binds_of_searches hearlier]
          rfl
      | error cause =>
          -- A refused service account leaves nothing to search.
          have hnone := (hrefused _ _ cause List.mem_cons_self).1
          rw [hnone] at hmiddle
          cases earlier <;> cases hmiddle

private theorem tested_of_course {settings : Settings} {xs : List Exchange}
    {result : Except Operation.testConnectivity.Failure Operation.testConnectivity.Value}
    (h : Course .testConnectivity settings xs result)
    (hnamed : settings.anonymous = false) (hok : ∃ value, result = .ok value) :
    Proven settings.readerDn xs ↔ settings.password ≠ "" := by
  obtain ⟨value, rfl⟩ := hok
  cases h with
  | @performed opening url login session release _ opened bind task released =>
      obtain ⟨before, security, rfl, hbefore⟩ := opened.connected
      obtain ⟨rfl, -⟩ := task
      cases bind with
      | omitted hanonymous | anonymous hanonymous =>
          rw [hnamed] at hanonymous
          cases hanonymous
      | reader =>
          apply proven_iff
          simp only [binds_append, binds_of_preliminary hbefore, released.binds]
          rfl

/-- Every bind of a user carries a password, and every bind as the service account the one of the
settings. What is searched for or tested outside of anonymous mode comes after the service account
was let in, and that proves something exactly if the settings have a password for it. -/
theorem binds_vouched {σ : Type} (world : World σ) (state : σ) (op : Operation)
    (settings : Settings) :
    Vouched op settings ((op.program settings).run world state).exchanges
      ((op.program settings).run world state).result := by
  have htrace := session_disciplined world state op settings
  have hcourse := course_of_yields (Program.yields_run world (op.program settings) state)
  refine ⟨fun _ _ _ => bound_of_trace htrace, given_iff_of_trace htrace, ?_, ?_⟩
  · rintro hnamed rfl hok
    exact tested_of_course hcourse hnamed hok
  · intro hnamed before request answer after heq
    exact searched_of_trace htrace hnamed heq

/-- Settings that break no rule, but have no password for the service account: a directory that lets
it in without one passes a test of its connection and is searched. -/
theorem unproven_of_emptyPassword :
    ∃ settings : Settings, settings.validate = .ok () ∧ settings.anonymous = false ∧
      ∃ script : Scripted.Script,
        ((Operation.testConnectivity.program settings).run (Scripted.world none) script).result =
            .ok () ∧
          binds ((Operation.testConnectivity.program settings).run (Scripted.world none)
            script).exchanges = [(settings.readerDn, "", .ok ())] ∧
          binds ((Operation.searchUsers.program settings).run (Scripted.world none)
            script).exchanges = [(settings.readerDn, "", .ok ())] ∧
          searches ((Operation.searchUsers.program settings).run (Scripted.world none)
            script).exchanges ≠ [] :=
  ⟨{ urls := ["ldap1"], readerDn := "cn=reader", userSearches := [{ baseDn := "ou=staff" }] }, rfl,
    rfl, { accounts := [("cn=reader", "")], allowsEmptyPassword := true }, rfl, rfl, rfl, by
      intro h
      cases h⟩

end DirectoryLogin.Client
