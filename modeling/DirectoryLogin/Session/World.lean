import DirectoryLogin.Session.Program

/-!
# Worlds and runs

A world answers every call, and may change with it. A run of a program in a world has a result and
leaves a trace of all that was noted and asked, in order.
-/

namespace DirectoryLogin.Session

/-- An answer, and what is noted before it comes. -/
structure Reply (call : Call) where
  events : List Log.Event := []
  answer : call.Answer

/-- How calls are answered in each state. -/
structure World (σ : Type) where
  reply : (call : Call) → σ → Reply call × σ

/-- One entry of a trace. -/
inductive Step where
  | noted (event : Log.Event)
  | asked (call : Call) (answer : call.Answer)

def Step.event? : Step → Option Log.Event
  | .noted event => some event
  | .asked .. => none

def Step.call? : Step → Option Call
  | .noted _ => none
  | .asked call _ => some call

/-- The outcome of a program in a world. -/
structure Run (σ α : Type) where
  result : α
  steps : List Step
  state : σ

namespace Run

variable {σ α β : Type}

def events (run : Run σ α) : List Log.Event := run.steps.filterMap Step.event?

def calls (run : Run σ α) : List Call := run.steps.filterMap Step.call?

/-- The run with steps before it. -/
def after (run : Run σ α) (steps : List Step) : Run σ α := { run with steps := steps ++ run.steps }

@[simp] theorem after_result (run : Run σ α) (steps : List Step) :
    (run.after steps).result = run.result := rfl

@[simp] theorem after_steps (run : Run σ α) (steps : List Step) :
    (run.after steps).steps = steps ++ run.steps := rfl

@[simp] theorem after_state (run : Run σ α) (steps : List Step) :
    (run.after steps).state = run.state := rfl

end Run

namespace Program

variable {σ α β : Type}

def run (world : World σ) : Program α → σ → Run σ α
  | .done result, state => ⟨result, [], state⟩
  | .note event next, state => (run world next state).after [.noted event]
  | .ask _ call next, state =>
      match world.reply call state with
      | (reply, state) =>
          (run world (next reply.answer) state).after
            (reply.events.map .noted ++ [.asked call reply.answer])

variable (world : World σ)

@[simp] theorem run_done (a : α) (state : σ) : (done a).run world state = ⟨a, [], state⟩ := rfl

@[simp] theorem run_note (event : Log.Event) (next : Program α) (state : σ) :
    (note event next).run world state = (next.run world state).after [.noted event] := rfl

theorem run_ask (connection? : Option Connection) (call : Call) (next : call.Answer → Program α)
    (state : σ) :
    (ask connection? call next).run world state =
      ((next (world.reply call state).1.answer).run world (world.reply call state).2).after
        ((world.reply call state).1.events.map .noted ++
          [.asked call (world.reply call state).1.answer]) := rfl

theorem run_bind (program : Program α) (next : α → Program β) (state : σ) :
    (program >>= next).run world state =
      ((next (program.run world state).result).run world (program.run world state).state).after
        (program.run world state).steps := by
  induction program generalizing state with
  | done => rfl
  | note event rest ih => simp only [note_bind, run_note, ih]; simp [Run.after]
  | ask connection? call rest ih => simp only [ask_bind, run_ask, ih]; simp [Run.after]

end Program

end DirectoryLogin.Session
