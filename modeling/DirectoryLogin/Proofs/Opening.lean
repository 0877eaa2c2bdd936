import DirectoryLogin.Client.Opening
import DirectoryLogin.Proofs.Exchanges
import Mathlib.Data.List.Forall2

/-!
# Opening and releasing a session

What an operation asks before it has a session and after it is done with it. `Opening` lists the
ways in which an operation comes to a session or fails before it has one, `Released` the two ways in
which a session ends. Servers, like search bases, are tried in turn up to the first hit (`InTurn`).
-/

namespace DirectoryLogin.Session

open Transport (Security)

/-- Items are tried in turn, with one exchange each, up to the first hit. -/
inductive InTurn {β γ : Type} (miss : β → Exchange → Prop) (hit : β → Exchange → γ → Prop) :
    List β → List Exchange → Option γ → Prop
  | exhausted : InTurn miss hit [] [] none
  | hit {b rest x c} (h : hit b x c) : InTurn miss hit (b :: rest) [x] (some c)
  | miss {b rest x xs found} (h : miss b x) (others : InTurn miss hit rest xs found) :
      InTurn miss hit (b :: rest) (x :: xs) found

section InTurn

variable {β γ : Type} {miss : β → Exchange → Prop} {hit : β → Exchange → γ → Prop}

theorem inTurn_none_iff {items : List β} {xs : List Exchange} :
    InTurn miss hit items xs none ↔ List.Forall₂ miss items xs := by
  constructor
  · intro h
    generalize hfound : (none : Option γ) = found at h
    induction h with
    | exhausted => exact .nil
    | hit => cases hfound
    | miss h _ ih => exact .cons h (ih hfound)
  · intro h
    induction h with
    | nil => exact .exhausted
    | cons h _ ih => exact .miss h ih

/-- The first hit comes after misses only, and nothing comes after it. -/
theorem inTurn_some_iff {items : List β} {xs : List Exchange} {c : γ} :
    InTurn miss hit items xs (some c) ↔ ∃ before b after ys x, items = before ++ b :: after ∧
      List.Forall₂ miss before ys ∧ hit b x c ∧ xs = ys ++ [x] := by
  constructor
  · intro h
    generalize hfound : some c = found at h
    induction h with
    | exhausted => cases hfound
    | @hit b rest x _ h =>
        cases hfound
        exact ⟨[], b, rest, [], x, rfl, .nil, h, rfl⟩
    | @miss b rest x xs _ h _ ih =>
        obtain ⟨before, b', after, ys, x', rfl, hmiss, hhit, rfl⟩ := ih hfound
        exact ⟨b :: before, b', after, x :: ys, x', rfl, .cons h hmiss, hhit, rfl⟩
  · intro hsplit
    obtain ⟨before, b, after, ys, x, rfl, hmiss, hhit, rfl⟩ := hsplit
    induction hmiss with
    | nil => exact .hit hhit
    | cons h _ ih => exact .miss h ih

theorem inTurn_nil_iff {P : Option γ → Prop} {xs : List Exchange} :
    (∃ found, InTurn miss hit [] xs found ∧ P found) ↔ xs = [] ∧ P none := by
  constructor
  · rintro ⟨found, h, hfound⟩
    cases h
    exact ⟨rfl, hfound⟩
  · rintro ⟨rfl, hnone⟩
    exact ⟨none, .exhausted, hnone⟩

theorem inTurn_cons_iff {P : Option γ → Prop} {item : β} {others : List β} {xs : List Exchange} :
    (∃ found, InTurn miss hit (item :: others) xs found ∧ P found) ↔
      (∃ x c, xs = [x] ∧ hit item x c ∧ P (some c)) ∨
        ∃ x rest, xs = x :: rest ∧ miss item x ∧
          ∃ found, InTurn miss hit others rest found ∧ P found := by
  constructor
  · rintro ⟨found, h, hfound⟩
    cases h with
    | hit h => exact .inl ⟨_, _, rfl, h, hfound⟩
    | miss h hothers => exact .inr ⟨_, _, rfl, h, found, hothers, hfound⟩
  · rintro (⟨x, c, rfl, h, hfound⟩ | ⟨x, rest, rfl, h, found, hothers, hfound⟩)
    · exact ⟨some c, .hit h, hfound⟩
    · exact ⟨found, .miss h hothers, hfound⟩

end InTurn

def Refused (security : Security) (timeout : Option UInt64) (url : String) (x : Exchange) : Prop :=
  ∃ cause, x = ⟨.connect url security timeout, .error cause⟩

theorem exists_of_refused {security : Security} {timeout : Option UInt64} {urls : List String}
    {xs : List Exchange} (h : List.Forall₂ (Refused security timeout) urls xs) :
    ∀ x ∈ xs, ∃ url cause, x = ⟨.connect url security timeout, .error cause⟩ := by
  intro x hx
  induction h with
  | nil => cases hx
  | @cons url _ _ _ h _ ih =>
      rcases List.mem_cons.mp hx with rfl | hx
      · exact ⟨url, h⟩
      · exact ih hx

def Reached (security : Security) (timeout : Option UInt64) (url : String) (x : Exchange)
    (connection : Connection) : Prop :=
  x = ⟨.connect url security timeout, .ok ()⟩ ∧ connection = .opened url

theorem yields_establish (security : Security) (timeout : Option UInt64) (urls : List String)
    (xs : List Exchange) (result : Except Directory.Error Connection) :
    (establish security timeout urls).Yields xs result ↔
      ∃ found, InTurn (Refused security timeout) (Reached security timeout) urls xs found ∧
        result = found.elim (.error .noReachableServer) .ok := by
  induction urls generalizing xs with
  | nil =>
      rw [inTurn_nil_iff]
      exact Iff.rfl
  | cons url others ih =>
      rw [establish, inTurn_cons_iff]
      constructor
      · rintro ⟨answer, rest, rfl, h⟩
        cases answer with
        | ok =>
            obtain ⟨rfl, rfl⟩ := h
            exact .inl ⟨_, _, rfl, ⟨rfl, rfl⟩, rfl⟩
        | error cause => exact .inr ⟨_, rest, rfl, ⟨cause, rfl⟩, (ih rest).mp h⟩
      · rintro (⟨_, _, rfl, ⟨rfl, rfl⟩, hresult⟩ | ⟨_, rest, rfl, ⟨cause, rfl⟩, h⟩)
        · exact ⟨.ok (), [], rfl, rfl, hresult⟩
        · exact ⟨.error cause, rest, rfl, (ih rest).mpr h⟩

/-- A session is closed, and given up if that fails. -/
inductive Released : List Exchange → Prop
  | closed : Released [⟨.close, .ok ()⟩]
  | aborted (cause : Directory.SessionError) : Released [⟨.close, .error cause⟩, ⟨.abort, ()⟩]

theorem yields_close (url : String) (xs : List Exchange) (u : Unit) :
    (Connection.opened url).close.Yields xs u ↔ Released xs := by
  constructor
  · intro hyields
    obtain ⟨answer, rest, rfl, h⟩ := hyields
    cases answer with
    | ok =>
        obtain ⟨rfl, -⟩ := h
        exact .closed
    | error cause =>
        obtain ⟨_, _, rfl, rfl, -⟩ := h
        exact .aborted cause
  · intro hreleased
    cases hreleased with
    | closed => exact ⟨.ok (), [], rfl, rfl, rfl⟩
    | aborted cause => exact ⟨.error cause, _, rfl, (), [], rfl, rfl, rfl⟩

def Program.Silent (program : Program Unit) : Prop := ∀ xs u, program.Yields xs u ↔ xs = []

end DirectoryLogin.Session

namespace DirectoryLogin.Client

open Config (Settings TlsSettings)
open Session
open Transport (MaterialRequest Mode Security)

/-- How the security of an operation is decided: nothing is built for plain connections. -/
inductive Negotiated (tls : TlsSettings) : List Exchange → Except Directory.Error Security → Prop
  | plain (h : (Mode.ofSettings tls).isSecure = false) : Negotiated tls [] (.ok .plain)
  | built (h : (Mode.ofSettings tls).isSecure = true) (material : Transport.Material) :
      Negotiated tls [⟨.build (.ofSettings tls), .ok material⟩]
        (.ok { mode := .ofSettings tls, material? := some material })
  | unbuilt (h : (Mode.ofSettings tls).isSecure = true) (e : Directory.Error) :
      Negotiated tls [⟨.build (.ofSettings tls), .error e⟩] (.error e)

theorem yields_negotiate (tls : TlsSettings) (xs : List Exchange)
    (result : Except Directory.Error Security) :
    (negotiate tls).Yields xs result ↔ Negotiated tls xs result := by
  unfold negotiate
  split
  · next h =>
      constructor
      · intro hyields
        obtain ⟨answer, rest, rfl, hrest⟩ := hyields
        cases answer with
        | error e =>
            obtain ⟨rfl, rfl⟩ := hrest
            exact .unbuilt h e
        | ok material =>
            obtain ⟨rfl, rfl⟩ := hrest
            exact .built h material
      · intro hnegotiated
        cases hnegotiated with
        | plain hplain =>
            rw [h] at hplain
            cases hplain
        | built _ material => exact ⟨.ok material, [], rfl, rfl, rfl⟩
        | unbuilt _ e => exact ⟨.error e, [], rfl, rfl, rfl⟩
  · next h =>
      constructor
      · intro hyields
        obtain ⟨rfl, rfl⟩ := hyields
        exact .plain (by simpa using h)
      · intro hnegotiated
        cases hnegotiated with
        | plain => exact ⟨rfl, rfl⟩
        | built hsecure => exact absurd hsecure h
        | unbuilt hsecure => exact absurd hsecure h

/-- How an operation comes to a session, or fails before it has one. -/
inductive Opening (settings : Settings) :
    List Exchange → Except Directory.Error Connection → Prop
  | invalid {violation} (h : settings.validate = .error violation) :
      Opening settings [] (.error (.ofConfig (.ofViolation violation)))
  | unbuilt {xs e} (valid : settings.validate = .ok ())
      (h : Negotiated settings.tls xs (.error e)) : Opening settings xs (.error e)
  | unreachable {xs ys security} (valid : settings.validate = .ok ())
      (h : Negotiated settings.tls xs (.ok security))
      (refused : List.Forall₂ (Refused security settings.connectTimeout) settings.urls ys) :
      Opening settings (xs ++ ys) (.error .noReachableServer)
  | opened {xs ys security before url after} (valid : settings.validate = .ok ())
      (h : Negotiated settings.tls xs (.ok security))
      (split : settings.urls = before ++ url :: after)
      (refused : List.Forall₂ (Refused security settings.connectTimeout) before ys) :
      Opening settings (xs ++ (ys ++ [⟨.connect url security settings.connectTimeout, .ok ()⟩]))
        (.ok (.opened url))

theorem Opening.of_invalid {settings : Settings} {violation} {xs : List Exchange}
    {acquired : Except Directory.Error Connection} (invalid : settings.validate = .error violation)
    (h : Opening settings xs acquired) :
    xs = [] ∧ acquired = .error (.ofConfig (.ofViolation violation)) := by
  have absurd_valid (valid : settings.validate = .ok ()) : False := by
    rw [invalid] at valid
    cases valid
  cases h with
  | invalid hviolation =>
      rw [invalid] at hviolation
      cases hviolation
      exact ⟨rfl, rfl⟩
  | unbuilt valid => exact (absurd_valid valid).elim
  | unreachable valid => exact (absurd_valid valid).elim
  | opened valid => exact (absurd_valid valid).elim

theorem Opening.exists_opened {settings : Settings} {xs : List Exchange} {connection : Connection}
    (h : Opening settings xs (.ok connection)) : ∃ url, connection = .opened url := by
  cases h
  exact ⟨_, rfl⟩

theorem yields_acquire (settings : Settings) (xs : List Exchange)
    (result : Except Directory.Error Connection) :
    (acquire settings).Yields xs result ↔ Opening settings xs result := by
  unfold acquire
  split
  · next violation h =>
      constructor
      · intro hyields
        obtain ⟨rfl, rfl⟩ := hyields
        exact .invalid h
      · exact Opening.of_invalid h
  · next valid =>
      rw [Program.yields_bind]
      simp only [yields_negotiate]
      constructor
      · intro hyields
        obtain ⟨ys, zs, negotiated, h, hzs, rfl⟩ := hyields
        cases negotiated with
        | error e =>
            obtain ⟨rfl, rfl⟩ := hzs
            rw [List.append_nil]
            exact .unbuilt valid h
        | ok security =>
            obtain ⟨found, hfound, rfl⟩ := (yields_establish _ _ _ _ _).mp hzs
            cases found with
            | none => exact .unreachable valid h (inTurn_none_iff.mp hfound)
            | some connection =>
                obtain ⟨before, url, after, refusals, x, hsplit, hrefused, ⟨rfl, rfl⟩, rfl⟩ :=
                  inTurn_some_iff.mp hfound
                exact .opened valid h hsplit hrefused
      · intro hopening
        cases hopening with
        | invalid h =>
            rw [valid] at h
            cases h
        | unbuilt _ h => exact ⟨xs, [], _, h, ⟨rfl, rfl⟩, (List.append_nil _).symm⟩
        | unreachable _ h refused =>
            refine ⟨_, _, _, h, ?_, rfl⟩
            exact (yields_establish _ _ _ _ _).mpr ⟨none, inTurn_none_iff.mpr refused, rfl⟩
        | opened _ h split refused =>
            refine ⟨_, _, _, h, ?_, rfl⟩
            refine (yields_establish _ _ _ _ _).mpr ⟨some _, inTurn_some_iff.mpr ?_, rfl⟩
            exact ⟨_, _, _, _, _, split, refused, ⟨rfl, rfl⟩, rfl⟩

/-- An operation fails before it has a session, or it uses one and releases it. -/
theorem yields_withConnection {ε α : Type} {settings : Settings} {lift : Directory.Error → ε}
    {use : Connection → Program (Except ε α)} {note : Except ε α → Program Unit}
    (silent : ∀ result, (note result).Silent) (xs : List Exchange) (result : Except ε α) :
    (withConnection settings lift use note).Yields xs result ↔
      (∃ e, Opening settings xs (.error e) ∧ result = .error (lift e)) ∨
        ∃ opening url session release, Opening settings opening (.ok (.opened url)) ∧
          (use (.opened url)).Yields session result ∧ Released release ∧
          xs = opening ++ (session ++ release) := by
  unfold withConnection
  rw [Program.yields_bind]
  simp only [yields_acquire]
  constructor
  · intro hyields
    obtain ⟨opening, rest, acquired, hopening, hrest, rfl⟩ := hyields
    cases acquired with
    | error e =>
        obtain ⟨rfl, rfl⟩ := hrest
        exact .inl ⟨e, by rwa [List.append_nil], rfl⟩
    | ok connection =>
        obtain ⟨url, rfl⟩ := hopening.exists_opened
        simp only [Program.yields_bind, yields_close] at hrest
        obtain ⟨session, _, used, hsession, ⟨release, _, _, hrelease, hnote, rfl⟩, rfl⟩ := hrest
        obtain ⟨noted, _, _, hnoted, ⟨rfl, rfl⟩, rfl⟩ := hnote
        obtain rfl := (silent _ _ _).mp hnoted
        exact .inr ⟨opening, url, session, release, hopening, hsession, hrelease, by simp⟩
  · intro hstages
    rcases hstages with ⟨e, hopening, rfl⟩ |
      ⟨opening, url, session, release, hopening, hsession, hrelease, rfl⟩
    · exact ⟨xs, [], _, hopening, ⟨rfl, rfl⟩, (List.append_nil _).symm⟩
    · refine ⟨opening, session ++ release, _, hopening, ?_, rfl⟩
      simp only [Program.yields_bind, yields_close]
      refine ⟨session, release, result, hsession, ⟨release, [], (), hrelease, ?_, by simp⟩, rfl⟩
      exact ⟨[], [], (), (silent _ _ _).mpr rfl, ⟨rfl, rfl⟩, rfl⟩

end DirectoryLogin.Client
