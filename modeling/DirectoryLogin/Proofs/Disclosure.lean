import DirectoryLogin.Command.Report
import DirectoryLogin.Proofs.Course
import DirectoryLogin.Scripted.Directory

/-!
# No disclosure of accounts

A password check that comes to the searches fails in one way only. Whether there is no such user,
more than one, a broken base or a wrong password, the caller gets the same error and the command
prints the same.
-/

namespace DirectoryLogin.Client

open Config (Settings)
open Session

private theorem result_of_task {settings : Settings} {username password : String}
    {url : String} {xs : List Exchange} {result : Except Directory.Error Unit}
    (h : (verifyPassword settings username password (.opened url)).Yields xs result) :
    result = .ok () ∨ result = .error .unauthorized := by
  cases (yields_verifyPassword _ _ _ _ _ _).mp h with
  | unknown | untried | rejected => exact .inr rfl
  | accepted => exact .inl rfl

private theorem result_of_reached {settings : Settings} {username password : String}
    {xs : List Exchange} {result : Except Directory.Error Unit}
    (h : (authenticate settings username password).Yields xs result)
    (hreached : Reached settings xs) : result = .ok () ∨ result = .error .unauthorized := by
  have hcourse := @course_of_yields (.authenticate username password) settings xs result h
  obtain ⟨url, session, htask, -⟩ := hcourse.performed_of_reached nofun hreached
  exact result_of_task htask

private theorem result_auth {σ : Type} (world : World σ) (state : σ) (settings : Settings)
    (username password : String) (manner : Command.Manner) :
    ((Command.run manner settings (.auth username password)).run world state).result =
      .ofLogin manner username
        ((authenticate settings username password).run world state).result := by
  rw [Command.run, Program.run_bind]
  rfl

private theorem ofLogin_error (manner manner' : Command.Manner) (username : String)
    (e : Directory.Error) (h : manner.format = manner'.format) :
    Command.Report.ofLogin manner username (.error e) =
      Command.Report.ofLogin manner' username (.error e) := by
  unfold Command.Report.ofLogin
  rw [h]
  cases manner'.format <;> rfl

/-- Of two password checks that came to the searches and failed, whatever the searches and the bind
of the user were answered, neither the errors nor the reports tell which was for a known user. -/
theorem failedLogins_indistinguishable {σ σ' : Type} (world : World σ) (world' : World σ')
    (state : σ) (state' : σ') (settings settings' : Settings)
    (username password username' password' : String)
    (reached : Reached settings
      ((authenticate settings username password).run world state).exchanges)
    (reached' : Reached settings'
      ((authenticate settings' username' password').run world' state').exchanges) :
    (((authenticate settings username password).run world state).result = .ok () ∨
      ((authenticate settings username password).run world state).result =
        .error .unauthorized) ∧
    ∀ e e', ((authenticate settings username password).run world state).result = .error e →
      ((authenticate settings' username' password').run world' state').result = .error e' →
        e = e' ∧ e.message = e'.message ∧ e.code = e'.code ∧
          ∀ manner manner', manner.format = manner'.format → username = username' →
            ((Command.run manner settings (.auth username password)).run world state).result =
              ((Command.run manner' settings' (.auth username' password')).run
                world' state').result := by
  have hresult := result_of_reached (Program.yields_run world _ state) reached
  have hresult' := result_of_reached (Program.yields_run world' _ state') reached'
  refine ⟨hresult, ?_⟩
  intro e e' he he'
  obtain rfl : e = .unauthorized := by
    rw [he] at hresult
    simpa using hresult
  obtain rfl : e' = .unauthorized := by
    rw [he'] at hresult'
    simpa using hresult'
  refine ⟨rfl, rfl, rfl, ?_⟩
  intro manner manner' hformat husername
  subst husername
  rw [result_auth, result_auth, he, he', ofLogin_error manner manner' username _ hformat]

/-- A directory that has no such user, and one that would let the user in with another password. -/
theorem failedLogins_indistinguishable_unknown :
    ∃ (settings : Settings) (without having : Scripted.Script),
      ((authenticate settings "ada" "other").run (Scripted.world none) having).result = .ok () ∧
      Reached settings
        ((authenticate settings "ada" "secret").run (Scripted.world none) without).exchanges ∧
      Reached settings
        ((authenticate settings "ada" "secret").run (Scripted.world none) having).exchanges ∧
      ((Command.run { format := .json } settings (.auth "ada" "secret")).run
          (Scripted.world none) without).result =
        ((Command.run { format := .json } settings (.auth "ada" "secret")).run
          (Scripted.world none) having).result := by
  let settings : Settings :=
    { urls := ["ldap1"], anonymous := true, userSearches := [{ baseDn := "ou=people" }] }
  let having : Scripted.Script :=
    { accounts := [("uid=ada", "other")]
      rules := [{ base := "ou=people", answer := .ok [{ dn := "uid=ada" }] }] }
  have hwithout : Reached settings
      ((authenticate settings "ada" "secret").run (Scripted.world none) {}).exchanges :=
    ⟨_, ⟨[], "ldap1", .plain, none, rfl⟩, .inl rfl⟩
  have hhaving : Reached settings
      ((authenticate settings "ada" "secret").run (Scripted.world none) having).exchanges :=
    ⟨_, ⟨[], "ldap1", .plain, none, rfl⟩, .inl rfl⟩
  have h := failedLogins_indistinguishable (Scripted.world none) (Scripted.world none) {} having
    settings settings "ada" "secret" "ada" "secret" hwithout hhaving
  have hreport := (h.2 .unauthorized .unauthorized rfl rfl).2.2.2 { format := .json }
  exact ⟨settings, {}, having, rfl, hwithout, hhaving, hreport _ rfl rfl⟩

end DirectoryLogin.Client
