import DirectoryLogin.Proofs.Operation
import DirectoryLogin.Scripted.Directory

/-!
# Who is let in

A user is let in by exactly one chain of exchanges: valid settings, security, the first server that
can be reached, the service account, the first search that finds exactly one entry, and the bind of
that entry with the user's own password.
-/

namespace DirectoryLogin.Client

open Config (Settings)
open Session
open Transport (Security)

/-- The exchanges of a password check that lets the user in, stage by stage. -/
inductive Admitted (settings : Settings) (username password : String) : List Exchange → Prop
  | intro {built : List Exchange} {security : Security} {before after : List String} {url : String}
      {refusals login : List Exchange} {earlier later : List Config.UserSearch}
      {search : Config.UserSearch} {passed release : List Exchange} (entry : Directory.Entry)
      (valid : settings.validate = .ok ())
      (negotiated : Negotiated settings.tls built (.ok security))
      (servers : settings.urls = before ++ url :: after)
      (refused : List.Forall₂ (Refused security settings.connectTimeout) before refusals)
      (reader : ReaderBind settings login (.ok ()))
      (bases : settings.userSearches = earlier ++ search :: later)
      (passedOver : List.Forall₂ (PassedOver settings.limits username) earlier passed)
      (given : password ≠ "")
      (released : Released release) :
      Admitted settings username password
        (built ++ refusals ++ [⟨.connect url security settings.connectTimeout, .ok ()⟩] ++ login ++
          passed ++ [⟨.search (userRequest settings.limits username search), .ok [entry]⟩] ++
          [⟨.simpleBind entry.dn password, .ok ()⟩] ++ release)

private theorem yields_authenticate_ok {settings : Settings} {username password : String}
    {xs : List Exchange} :
    (authenticate settings username password).Yields xs (.ok ()) ↔
      Admitted settings username password xs := by
  refine (Operation.yields_program (.authenticate username password) settings xs (.ok ())).trans ?_
  constructor
  · intro hstages
    rcases hstages with ⟨e, -, h⟩ |
      ⟨opening, url, session, release, hopening, hsession, hrelease, rfl⟩
    · cases h
    · rcases (yields_asReader _ _ _ _ _ _).mp hsession with ⟨e, -, h⟩ | ⟨login, check, hlogin,
        hcheck, rfl⟩
      · cases h
      · cases (yields_verifyPassword _ _ _ _ _ _).mp hcheck with
        | accepted hfound given =>
            obtain ⟨earlier, search, later, passed, x, bases, passedOver, ⟨entry, rfl, rfl⟩, rfl⟩ :=
              inTurn_some_iff.mp hfound
            cases hopening with
            | opened valid negotiated servers refused =>
                have h := Admitted.intro entry valid negotiated servers refused hlogin bases
                  passedOver given hrelease
                simpa only [List.append_assoc] using h
  · intro h
    cases h with
    | @intro built security before after url refusals login earlier later search passed release
        entry valid negotiated servers refused reader bases passedOver given released =>
        have hfound : InTurn (PassedOver settings.limits username) (Found settings.limits username)
            settings.userSearches
            (passed ++ [⟨.search (userRequest settings.limits username search), .ok [entry]⟩])
            (some entry.dn) :=
          inTurn_some_iff.mpr
            ⟨earlier, search, later, passed, _, bases, passedOver, ⟨entry, rfl, rfl⟩, rfl⟩
        have hcheck := (yields_verifyPassword settings username password url _ _).mpr
          (.accepted hfound given)
        have hsession := (yields_asReader settings id (verifyPassword settings username password)
          url _ _).mpr (.inr ⟨login, _, reader, hcheck, rfl⟩)
        refine .inr ⟨_, _, _, release, .opened valid negotiated servers refused, hsession, released,
          ?_⟩
        simp only [List.append_assoc]

/-- A user is let in exactly by the exchanges of `Admitted`: never by searches that fail or do not
find exactly one entry, never with an empty password, and never by the bind of another entry. -/
theorem authenticate_eq_ok_iff {σ : Type} (world : World σ) (state : σ) (settings : Settings)
    (username password : String) :
    ((authenticate settings username password).run world state).result = .ok () ↔
      Admitted settings username password
        ((authenticate settings username password).run world state).exchanges := by
  have hrun := Program.yields_run world (authenticate settings username password) state
  constructor
  · intro h
    rw [h] at hrun
    exact yields_authenticate_ok.mp hrun
  · intro h
    exact hrun.result_unique (yields_authenticate_ok.mpr h)

/-- Two entries under the first base are passed over, and the one under the second is let in. -/
theorem admitted_under_second_base :
    let settings : Settings := {
      urls := ["ldap1"]
      anonymous := true
      userSearches := [{ baseDn := "ou=staff" }, { baseDn := "ou=guests" }] }
    let script : Scripted.Script := {
      accounts := [("uid=ada,ou=guests", "secret")]
      rules := [
        { base := "ou=staff", answer := .ok [{ dn := "uid=ada,ou=staff" }, { dn := "uid=Ada" }] },
        { base := "ou=guests", answer := .ok [{ dn := "uid=ada,ou=guests" }] }] }
    let run := (authenticate settings "ada" "secret").run (Scripted.world none) script
    run.result = .ok () ∧ Admitted settings "ada" "secret" run.exchanges := by
  intro settings script run
  have hresult : run.result = .ok () := rfl
  exact ⟨hresult, (authenticate_eq_ok_iff _ _ settings "ada" "secret").mp hresult⟩

end DirectoryLogin.Client
