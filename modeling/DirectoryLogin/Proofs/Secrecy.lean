import DirectoryLogin.Command.Report
import DirectoryLogin.Config.Encoding
import DirectoryLogin.Proofs.Operation
import DirectoryLogin.Scripted.Directory
import DirectoryLogin.Wire.Link

/-!
# Secrecy of passwords

Two programs are alike if they differ in the passwords only that they send. Answered alike, they
leave the same log and come to the same result, so that neither the log nor the output of a command
tells more of a password than whether it let anyone in.
-/

namespace DirectoryLogin.Session

open Directory (SessionError)

/-- The exchange without its password. -/
def Exchange.veiled : Exchange → Exchange
  | ⟨.simpleBind dn _, answer⟩ => ⟨.simpleBind dn "", answer⟩
  | x => x

theorem Exchange.veiled_simpleBind (dn password : String) (answer : Except SessionError Unit) :
    veiled ⟨.simpleBind dn password, answer⟩ = ⟨.simpleBind dn "", answer⟩ := rfl

/-- What a world notes of an exchange does not depend on the password. -/
def World.Notes {σ : Type} (world : World σ) (noted : Exchange → List Log.Event) : Prop :=
  ∀ call state, (world.reply call state).1.events =
    noted (Exchange.veiled ⟨call, (world.reply call state).1.answer⟩)

/-- The world with nothing noted but by the program itself. -/
def World.muted {σ : Type} (world : World σ) : World σ where
  reply call state := (⟨[], (world.reply call state).1.answer⟩, (world.reply call state).2)

theorem World.notes_muted {σ : Type} (world : World σ) : world.muted.Notes fun _ => [] :=
  fun _ _ => rfl

namespace Program

variable {α β : Type}

theorem run_muted {σ : Type} (world : World σ) (program : Program α) (state : σ) :
    (program.run world.muted state).result = (program.run world state).result ∧
      (program.run world.muted state).exchanges = (program.run world state).exchanges := by
  induction program generalizing state with
  | done result => exact ⟨rfl, rfl⟩
  | note event next ih => exact ih state
  | ask _ call next ih =>
      obtain ⟨hresult, hexchanges⟩ :=
        ih (world.reply call state).1.answer (world.reply call state).2
      refine ⟨hresult, ?_⟩
      rw [exchanges_run_ask, exchanges_run_ask, ← hexchanges]
      rfl

/-- The programs differ in the passwords only that they send. -/
inductive Alike : Program α → Program α → Prop
  | done (result : α) : Alike (.done result) (.done result)
  | note (event : Log.Event) {next next'} (h : Alike next next') :
      Alike (.note event next) (.note event next')
  | ask (connection? : Option Connection) (call : Call) {next next'}
      (h : ∀ answer, Alike (next answer) (next' answer)) :
      Alike (.ask connection? call next) (.ask connection? call next')
  | simpleBind (connection? : Option Connection) (dn password password' : String)
      {next next' : Except SessionError Unit → Program α}
      (h : ∀ answer, Alike (next answer) (next' answer)) :
      Alike (.ask connection? (.simpleBind dn password) next)
        (.ask connection? (.simpleBind dn password') next')

namespace Alike

theorem refl (program : Program α) : program.Alike program := by
  induction program with
  | done result => exact .done result
  | note event next ih => exact .note event ih
  | ask connection? call next ih => exact .ask connection? call ih

theorem bind {program program' : Program α} {next next' : α → Program β}
    (h : program.Alike program') (hnext : ∀ a, (next a).Alike (next' a)) :
    (program >>= next).Alike (program' >>= next') := by
  induction h with
  | done result => exact hnext result
  | note event _ ih => exact .note event ih
  | ask connection? call _ ih => exact .ask connection? call ih
  | simpleBind connection? dn password password' _ ih =>
      exact .simpleBind connection? dn password password' ih

end Alike

/-- Answered alike, the programs come to the same result and note the same, and where the worlds do
not note passwords either the whole log is the same. -/
def Indistinguishable (program program' : Program α) : Prop :=
  ∀ {σ σ' : Type} (world : World σ) (world' : World σ') (state : σ) (state' : σ'),
    AgreeOn (fun _ => True) ((program.run world state).exchanges.map Exchange.veiled)
      ((program'.run world' state').exchanges.map Exchange.veiled) →
    (program.run world state).result = (program'.run world' state').result ∧
      (program.run world.muted state).events = (program'.run world'.muted state').events ∧
      ∀ noted, world.Notes noted → world'.Notes noted →
        (program.run world state).events = (program'.run world' state').events

private theorem answer_eq_of_agreeOn {call : Call} {a b : call.Answer} {xs ys : List Exchange}
    (h : AgreeOn (fun _ => True) (Exchange.veiled ⟨call, a⟩ :: xs)
      (Exchange.veiled ⟨call, b⟩ :: ys)) : a = b := by
  cases call <;> exact h.head trivial

private theorem Alike.run_eq {program program' : Program α} (h : program.Alike program')
    {σ σ' : Type} {world : World σ} {world' : World σ'} {noted : Exchange → List Log.Event}
    (notes : world.Notes noted) (notes' : world'.Notes noted) (state : σ) (state' : σ')
    (agree : AgreeOn (fun _ => True) ((program.run world state).exchanges.map Exchange.veiled)
      ((program'.run world' state').exchanges.map Exchange.veiled)) :
    (program.run world state).result = (program'.run world' state').result ∧
      (program.run world state).events = (program'.run world' state').events := by
  induction h generalizing state state' with
  | done result => exact ⟨rfl, rfl⟩
  | note event h ih =>
      obtain ⟨hresult, hevents⟩ := ih state state' agree
      refine ⟨hresult, ?_⟩
      simp only [run_note, Run.events_after, hevents]
  | ask _ call h ih =>
      rw [exchanges_run_ask, exchanges_run_ask, List.map_cons, List.map_cons] at agree
      have hanswer := answer_eq_of_agreeOn agree
      rw [hanswer] at agree
      obtain ⟨hresult, hevents⟩ := ih _ _ _ agree.tail
      constructor
      · rw [result_run_ask, result_run_ask, hanswer, hresult]
      · rw [events_run_ask, events_run_ask, notes, notes', hanswer, hevents]
  | simpleBind _ dn password password' h ih =>
      rw [exchanges_run_ask, exchanges_run_ask, List.map_cons, List.map_cons] at agree
      rw [Exchange.veiled_simpleBind, Exchange.veiled_simpleBind] at agree
      have hanswer := agree.head trivial
      rw [hanswer] at agree
      obtain ⟨hresult, hevents⟩ := ih _ _ _ agree.tail
      constructor
      · rw [result_run_ask, result_run_ask, hanswer, hresult]
      · rw [events_run_ask, events_run_ask, notes, notes', Exchange.veiled_simpleBind,
          Exchange.veiled_simpleBind, hanswer, hevents]

theorem Alike.indistinguishable {program program' : Program α} (h : program.Alike program') :
    program.Indistinguishable program' := by
  intro σ σ' world world' state state' agree
  obtain ⟨hresult, hexchanges⟩ := run_muted world program state
  obtain ⟨hresult', hexchanges'⟩ := run_muted world' program' state'
  have hmuted := h.run_eq world.notes_muted world'.notes_muted state state'
    (by rwa [hexchanges, hexchanges'])
  refine ⟨?_, hmuted.2, fun noted notes notes' => (h.run_eq notes notes' state state' agree).2⟩
  rw [← hresult, ← hresult']
  exact hmuted.1

end Program

end DirectoryLogin.Session

namespace DirectoryLogin.Wire

open Session

/-- What certificates and servers leave in the log: never anything of a bind. -/
def noted (builder : Builder) (x : Exchange) : List Log.Event :=
  match x.call with
  | .build request => (builder request).1
  | .connect url security _ => [.connecting (Server.target url security.mode) security.mode]
  | .abort => [.released]
  | .simpleBind .. | .anonymousBind | .search _ | .close => []

theorem notes_world (builder : Builder) (now : Der.Instant) :
    (world builder now).Notes (noted builder) := by
  intro call state
  cases call <;> rfl

end DirectoryLogin.Wire

namespace DirectoryLogin.Scripted

open Session

theorem notes_world (buildFailure : Option String) : (world buildFailure).Notes fun _ => [] := by
  intro call state
  cases call <;> rfl

end DirectoryLogin.Scripted

namespace DirectoryLogin.Client

open Config (Settings)
open Session

section Alike

variable (settings : Settings) (password : String)

private theorem alike_simpleBind (connection : Connection) (dn given given' : String) :
    (connection.simpleBind dn given).Alike (connection.simpleBind dn given') := by
  unfold Connection.simpleBind Connection.onSession
  split
  · exact .done _
  · exact .simpleBind _ dn given given' fun answer => .refl _

private theorem alike_bindReader (connection : Connection) :
    (bindReader settings connection).Alike
      (bindReader { settings with password } connection) := by
  unfold bindReader
  split
  · exact .done _
  · exact .note _ ((alike_simpleBind connection _ _ _).bind fun answer => .refl _)

private theorem alike_asReader {ε α : Type} (lift : Directory.Error → ε)
    {use use' : Connection → Program (Except ε α)} (connection : Connection)
    (h : (use connection).Alike (use' connection)) :
    (asReader settings lift use connection).Alike
      (asReader { settings with password } lift use' connection) := by
  refine (alike_bindReader settings password connection).bind fun bound => ?_
  cases bound with
  | error e => exact .done _
  | ok => exact h

private theorem alike_verifyPassword (username given given' : String)
    (hgiven : given = "" ↔ given' = "") (connection : Connection) :
    (verifyPassword settings username given connection).Alike
      (verifyPassword { settings with password } username given' connection) := by
  have hempty : given.isEmpty = given'.isEmpty := by
    rw [Bool.eq_iff_iff, String.isEmpty_iff, String.isEmpty_iff]
    exact hgiven
  refine .bind (.refl _) fun looked => ?_
  cases looked with
  | error e => cases e <;> exact .done _
  | ok dn =>
      dsimp only
      rw [hempty]
      split
      · exact .done _
      · exact (alike_simpleBind connection dn given given').bind fun answer => .refl _

private theorem alike_withConnection {ε α : Type} (lift : Directory.Error → ε)
    {use use' : Connection → Program (Except ε α)} (note : Except ε α → Program Unit)
    (h : ∀ connection, (use connection).Alike (use' connection)) :
    (withConnection settings lift use note).Alike
      (withConnection { settings with password } lift use' note) := by
  refine .bind (.refl _) fun acquired => ?_
  cases acquired with
  | error e => exact .done _
  | ok connection => exact (h connection).bind fun result => .refl _

private theorem alike_authenticate (username given given' : String)
    (hgiven : given = "" ↔ given' = "") :
    (authenticate settings username given).Alike
      (authenticate { settings with password } username given') :=
  alike_withConnection settings password id (noteLogin username) fun connection =>
    alike_asReader settings password id connection
      (alike_verifyPassword settings password username given given' hgiven connection)

private theorem alike_program (op : Operation) :
    (op.program settings).Alike (op.program { settings with password }) := by
  have reader {ε α : Type} (lift : Directory.Error → ε) (use : Connection → Program (Except ε α)) :
      (withConnection settings lift (asReader settings lift use) silently).Alike
        (withConnection { settings with password } lift
          (asReader { settings with password } lift use) silently) :=
    alike_withConnection settings password lift silently fun connection =>
      alike_asReader settings password lift connection (.refl _)
  cases op with
  | authenticate username given =>
      exact alike_authenticate settings password username given given Iff.rfl
  | resolveUser username => exact reader id _
  | userGroups username => exact reader id _
  | searchUsers => exact reader Directory.Partial.ofError _
  | searchGroups => exact reader Directory.Partial.ofError _
  | testConnectivity =>
      refine alike_withConnection settings password id noteProbe fun connection => ?_
      unfold probe
      split
      · exact .refl _
      · exact alike_bindReader settings password connection

private theorem alike_loginCommand (manner : Command.Manner) (username given given' : String)
    (hgiven : given = "" ↔ given' = "") :
    ((Command.auth username given).run manner settings).Alike
      ((Command.auth username given').run manner { settings with password }) :=
  (alike_authenticate settings password username given given' hgiven).bind fun _ => .done _

private theorem alike_command (manner : Command.Manner) (command : Command) :
    (command.run manner settings).Alike (command.run manner { settings with password }) := by
  cases command with
  | test => exact (alike_program settings password .testConnectivity).bind fun _ => .done _
  | auth username given =>
      exact alike_loginCommand settings password manner username given given Iff.rfl
  | userGroups username =>
      exact (alike_program settings password (.userGroups username)).bind fun _ => .done _
  | users => exact (alike_program settings password .searchUsers).bind fun _ => .done _
  | groups => exact (alike_program settings password .searchGroups).bind fun _ => .done _

end Alike

/-- What can be seen of the operations, the commands and the settings is the same with another
password of the service account, and with another password of the user if both or neither are
empty. -/
structure Undisclosed (settings : Settings) (password : String) : Prop where
  operations : ∀ op : Operation,
    (op.program settings).Indistinguishable (op.program { settings with password })
  logins : ∀ username given given', (given = "" ↔ given' = "") →
    (authenticate settings username given).Indistinguishable
      (authenticate { settings with password } username given')
  commands : ∀ manner (command : Command), (command.run manner settings).Indistinguishable
    (command.run manner { settings with password })
  loginCommands : ∀ manner username given given', (given = "" ↔ given' = "") →
    ((Command.auth username given).run manner settings).Indistinguishable
      ((Command.auth username given').run manner { settings with password })
  dumps : settings.password ≠ "" → password ≠ "" →
    settings.dump.line = { settings with password : Settings }.dump.line ∧
      settings.dump.pretty = { settings with password : Settings }.dump.pretty ∧
      ∀ logging, (Config.Configuration.mk logging settings).dump.line =
          (Config.Configuration.mk logging { settings with password }).dump.line ∧
        (Config.Configuration.mk logging settings).dump.pretty =
          (Config.Configuration.mk logging { settings with password }).dump.pretty

/-- Passwords leave no mark on the log, on results and errors, on the output of commands and on
dumps of the settings; nor does what certificates and servers note by themselves. -/
theorem passwords_undisclosed (settings : Settings) (password : String) :
    Undisclosed settings password ∧
      ∀ builder now, (Wire.world builder now).Notes (Wire.noted builder) := by
  refine ⟨?_, Wire.notes_world⟩
  constructor
  case operations =>
    exact fun op => (alike_program settings password op).indistinguishable
  case logins =>
    intro username given given' hgiven
    exact (alike_authenticate settings password username given given' hgiven).indistinguishable
  case commands =>
    exact fun manner command => (alike_command settings password manner command).indistinguishable
  case loginCommands =>
    intro manner username given given' hgiven
    exact
      (alike_loginCommand settings password manner username given given' hgiven).indistinguishable
  case dumps =>
    intro hold hnew
    have hdump : settings.dump = { settings with password : Settings }.dump := by
      simp [Config.Settings.dump, Config.redacted, hold, hnew]
    simp [Config.Configuration.dump, hdump]

/-- The service account is let in with the password of each script, and the user with neither of the
two that were given. -/
theorem passwords_undisclosed_rejected :
    ∃ (settings : Settings) (password given given' : String) (script script' : Scripted.Script),
      settings.password ≠ password ∧ given ≠ given' ∧ (given = "" ↔ given' = "") ∧
      AgreeOn (fun _ => True)
        (((authenticate settings "ada" given).run (Scripted.world none) script).exchanges.map
          Exchange.veiled)
        (((authenticate { settings with password } "ada" given').run (Scripted.world none)
          script').exchanges.map Exchange.veiled) ∧
      ((authenticate settings "ada" given).run (Scripted.world none) script).result =
        ((authenticate { settings with password } "ada" given').run (Scripted.world none)
          script').result ∧
      ((authenticate settings "ada" given).run (Scripted.world none) script).events =
        ((authenticate { settings with password } "ada" given').run (Scripted.world none)
          script').events := by
  let settings : Settings :=
    { urls := ["ldap1"], readerDn := "cn=reader", password := "spring"
      userSearches := [{ baseDn := "ou=people" }] }
  let script : Scripted.Script :=
    { accounts := [("cn=reader", "spring"), ("uid=ada", "right")]
      rules := [{ base := "ou=people", answer := .ok [{ dn := "uid=ada" }] }] }
  let script' : Scripted.Script :=
    { script with accounts := [("cn=reader", "autumn"), ("uid=ada", "right")] }
  have agree : AgreeOn (fun _ => True)
      (((authenticate settings "ada" "guess").run (Scripted.world none) script).exchanges.map
        Exchange.veiled)
      (((authenticate { settings with password := "autumn" } "ada" "other").run
        (Scripted.world none) script').exchanges.map Exchange.veiled) := AgreeOn.refl _
  have hgiven : "guess" = "" ↔ "other" = "" := by simp
  have notes := Scripted.notes_world none
  obtain ⟨hresult, -, hevents⟩ := (passwords_undisclosed settings "autumn").1.logins "ada" "guess"
    "other" hgiven (Scripted.world none) (Scripted.world none) script script' agree
  exact ⟨settings, "autumn", "guess", "other", script, script', by decide, by decide, hgiven, agree,
    hresult, hevents _ notes notes⟩

end DirectoryLogin.Client
