import DirectoryLogin.Proofs.Opening
import DirectoryLogin.Session.Connection

/-!
# Failover

Servers are tried one after the other, up to the first that can be reached. `World.trials` is how
the whole list would be answered if no attempt put an end to it; `FailsOver` says which of these
attempts a run makes, what comes of them, and what is held afterwards.
-/

namespace DirectoryLogin.Session

open Transport (Security)

variable {σ : Type}

/-- A server in its place of the list, with the answer to an attempt to connect to it there and the
state that the attempt leaves. -/
structure Trial (σ : Type) where
  url : String
  answer : Except Directory.SessionError Unit
  state : σ

def Trial.Refused (trial : Trial σ) : Prop := ∃ cause, trial.answer = .error cause

def Trial.exchange (security : Security) (timeout : Option UInt64) (trial : Trial σ) : Exchange :=
  ⟨.connect trial.url security timeout, trial.answer⟩

/-- The connection that is held after a step. -/
def Step.held (before : Option Connection) : Step → Option Connection
  | .noted _ => before
  | .asked (.connect url _ _) (.ok ()) => some (.opened url)
  | .asked .close _ | .asked .abort _ => none
  | .asked .. => before

/-- The connection that is held after all steps. -/
def held (steps : List Step) : Option Connection := steps.foldl Step.held none

/-- What the attempts along the list make of a run: it ends with the first that is not in vain, in
the state that this one leaves, and without a connection if all are. -/
structure FailsOver (security : Security) (timeout : Option UInt64) (trials : List (Trial σ))
    (run : Run σ (Except Directory.Error Connection)) : Prop where
  connected : ∀ connection, run.result = .ok connection ↔ ∃ before trial after,
    trials = before ++ trial :: after ∧ (∀ earlier ∈ before, earlier.Refused) ∧
      trial.answer = .ok () ∧ connection = .opened trial.url
  unreachable : ∀ e, run.result = .error e ↔
    (∀ trial ∈ trials, trial.Refused) ∧ e = .noReachableServer
  upToFirst : ∀ before trial after, trials = before ++ trial :: after →
    (∀ earlier ∈ before, earlier.Refused) → trial.answer = .ok () →
      run.exchanges = (before ++ [trial]).map (Trial.exchange security timeout) ∧
        run.state = trial.state
  exhausted : (∀ trial ∈ trials, trial.Refused) →
    run.exchanges = trials.map (Trial.exchange security timeout)
  held : held run.steps = run.result.toOption

theorem refused_or_split (trials : List (Trial σ)) : (∀ trial ∈ trials, trial.Refused) ∨
    ∃ before trial after, trials = before ++ trial :: after ∧
      (∀ earlier ∈ before, earlier.Refused) ∧ trial.answer = .ok () := by
  induction trials with
  | nil => exact .inl (by simp)
  | cons trial others ih =>
      cases hanswer : trial.answer with
      | ok => exact .inr ⟨[], trial, others, rfl, by simp, hanswer⟩
      | error cause =>
          have hrefused : trial.Refused := ⟨cause, hanswer⟩
          rcases ih with hothers | ⟨before, first, after, rfl, hbefore, hok⟩
          · exact .inl (List.forall_mem_cons.mpr ⟨hrefused, hothers⟩)
          · exact .inr ⟨trial :: before, first, after, rfl,
              List.forall_mem_cons.mpr ⟨hrefused, hbefore⟩, hok⟩

section Establish

variable (world : World σ) (security : Security) (timeout : Option UInt64)

/-- The attempt to connect to a server in a state. -/
def World.trial (url : String) (state : σ) : Trial σ :=
  let answered := world.reply (.connect url security timeout) state
  ⟨url, answered.1.answer, answered.2⟩

/-- The attempts along a list of servers, each in the state that those before it leave. -/
def World.trials : List String → σ → List (Trial σ)
  | [], _ => []
  | url :: others, state =>
      world.trial security timeout url state ::
        World.trials others (world.trial security timeout url state).state

theorem map_url_trials (urls : List String) (state : σ) :
    (world.trials security timeout urls state).map Trial.url = urls := by
  induction urls generalizing state with
  | nil => rfl
  | cons url others ih =>
      rw [World.trials, List.map_cons, ih]
      rfl

variable {world security timeout} {url : String} {state : σ}

theorem run_establish_of_ok (others : List String)
    (h : (world.trial security timeout url state).answer = .ok ()) :
    (establish security timeout (url :: others)).run world state =
      ⟨.ok (.opened url),
        (world.reply (.connect url security timeout) state).1.events.map .noted ++
          [.asked (.connect url security timeout) (.ok ()), .noted (.connected url security.mode)],
        (world.trial security timeout url state).state⟩ := by
  change (world.reply (.connect url security timeout) state).1.answer = _ at h
  rw [establish, Program.call, Program.ask_bind, Program.run_ask, h]
  simp [Program.log, Run.after, World.trial]

theorem run_establish_of_error (others : List String) {cause : Directory.SessionError}
    (h : (world.trial security timeout url state).answer = .error cause) :
    (establish security timeout (url :: others)).run world state =
      ((establish security timeout others).run world
        (world.trial security timeout url state).state).after
          ((world.reply (.connect url security timeout) state).1.events.map .noted ++
            [.asked (.connect url security timeout) (.error cause),
              .noted (.connectFailed url cause)]) := by
  change (world.reply (.connect url security timeout) state).1.answer = _ at h
  rw [establish, Program.call, Program.ask_bind, Program.run_ask, h]
  simp [Program.log, Run.after, World.trial]

private theorem exchanges_trial {answer : Except Directory.SessionError Unit}
    (events : List Log.Event) (event : Log.Event)
    (h : (world.trial security timeout url state).answer = answer) :
    (events.map Step.noted ++ [Step.asked (.connect url security timeout) answer,
        Step.noted event]).filterMap Step.exchange? =
      [(world.trial security timeout url state).exchange security timeout] := by
  subst h
  simp [List.filterMap_map, Function.comp_def, Step.exchange?, Trial.exchange, World.trial]

/-- A run goes as far as the first attempt that is not in vain. -/
theorem run_establish_split {urls : List String} {before after : List (Trial σ)} {trial : Trial σ}
    (hsplit : world.trials security timeout urls state = before ++ trial :: after)
    (hbefore : ∀ earlier ∈ before, earlier.Refused) (hok : trial.answer = .ok ()) :
    let run := (establish security timeout urls).run world state
    run.result = .ok (.opened trial.url) ∧ run.state = trial.state ∧
      run.exchanges = (before ++ [trial]).map (Trial.exchange security timeout) := by
  induction urls generalizing state before with
  | nil => exact absurd hsplit (by simp [World.trials])
  | cons url others ih =>
      rw [World.trials] at hsplit
      cases before with
      | nil =>
          obtain ⟨rfl, -⟩ := List.cons.inj hsplit
          rw [run_establish_of_ok others hok]
          exact ⟨rfl, rfl, exchanges_trial _ _ hok⟩
      | cons earlier before =>
          obtain ⟨rfl, hrest⟩ := List.cons.inj hsplit
          obtain ⟨⟨cause, hcause⟩, hothers⟩ := List.forall_mem_cons.mp hbefore
          obtain ⟨hresult, hstate, hexchanges⟩ := ih hrest hothers
          rw [run_establish_of_error others hcause]
          refine ⟨hresult, hstate, ?_⟩
          rw [Run.exchanges_after, hexchanges, exchanges_trial _ _ hcause]
          rfl

theorem run_establish_exhausted {urls : List String}
    (h : ∀ trial ∈ world.trials security timeout urls state, trial.Refused) :
    let run := (establish security timeout urls).run world state
    run.result = .error .noReachableServer ∧ run.exchanges =
      (world.trials security timeout urls state).map (Trial.exchange security timeout) := by
  induction urls generalizing state with
  | nil => exact ⟨rfl, rfl⟩
  | cons url others ih =>
      obtain ⟨⟨cause, hcause⟩, hothers⟩ := List.forall_mem_cons.mp h
      obtain ⟨hresult, hexchanges⟩ := ih hothers
      rw [run_establish_of_error others hcause]
      refine ⟨hresult, ?_⟩
      rw [Run.exchanges_after, hexchanges, exchanges_trial _ _ hcause]
      rfl

private theorem foldl_held_noted (events : List Log.Event) (holding : Option Connection) :
    (events.map Step.noted).foldl Step.held holding = holding := by
  induction events with
  | nil => rfl
  | cons event rest ih => exact ih

/-- A connection is held exactly if one is returned, and it is that one. -/
theorem held_establish (urls : List String) :
    held ((establish security timeout urls).run world state).steps =
      ((establish security timeout urls).run world state).result.toOption := by
  induction urls generalizing state with
  | nil => rfl
  | cons url others ih =>
      cases h : (world.trial security timeout url state).answer with
      | ok =>
          rw [run_establish_of_ok others h, held, List.foldl_append, foldl_held_noted]
          rfl
      | error cause =>
          rw [run_establish_of_error others h, held, Run.after_steps, List.append_assoc,
            List.foldl_append, foldl_held_noted]
          exact ih

end Establish

/-- Whatever a list of servers is and however the attempts are answered, each server in it stands
for one attempt, and a run makes these in order up to the first that is not in vain. -/
theorem servers_failOver (world : World σ) (state : σ) (security : Security)
    (timeout : Option UInt64) (urls : List String) :
    (world.trials security timeout urls state).map Trial.url = urls ∧
      FailsOver security timeout (world.trials security timeout urls state)
        ((establish security timeout urls).run world state) := by
  refine ⟨map_url_trials world security timeout urls state, ?_⟩
  have hdecided := refused_or_split (world.trials security timeout urls state)
  constructor
  case connected =>
    intro connection
    constructor
    · intro hresult
      rcases hdecided with hrefused | ⟨before, trial, after, hsplit, hbefore, hok⟩
      · rw [(run_establish_exhausted hrefused).1] at hresult
        cases hresult
      · rw [(run_establish_split hsplit hbefore hok).1] at hresult
        cases hresult
        exact ⟨before, trial, after, hsplit, hbefore, hok, rfl⟩
    · rintro ⟨before, trial, after, hsplit, hbefore, hok, rfl⟩
      exact (run_establish_split hsplit hbefore hok).1
  case unreachable =>
    intro e
    constructor
    · intro hresult
      rcases hdecided with hrefused | ⟨before, trial, after, hsplit, hbefore, hok⟩
      · rw [(run_establish_exhausted hrefused).1] at hresult
        cases hresult
        exact ⟨hrefused, rfl⟩
      · rw [(run_establish_split hsplit hbefore hok).1] at hresult
        cases hresult
    · rintro ⟨hrefused, rfl⟩
      exact (run_establish_exhausted hrefused).1
  case upToFirst =>
    intro before trial after hsplit hbefore hok
    obtain ⟨-, hstate, hexchanges⟩ := run_establish_split hsplit hbefore hok
    exact ⟨hexchanges, hstate⟩
  case exhausted => exact fun hrefused => (run_establish_exhausted hrefused).2
  case held => exact held_establish urls

end DirectoryLogin.Session
