import DirectoryLogin.Session.World

/-!
# Exchanges

What an operation asks and is answered, without the events that are noted on the way. `Yields` holds
of the exchanges that a program can make, whatever the world around it answers; `yields_run` takes
every run to it, and `yields_bind` splits it along a sequence. Two runs that are answered alike make
the same exchanges.
-/

namespace DirectoryLogin.Session

/-- A call with the answer that it got. -/
structure Exchange where
  call : Call
  answer : call.Answer

def Step.exchange? : Step → Option Exchange
  | .noted _ => none
  | .asked call answer => some ⟨call, answer⟩

namespace Run

variable {σ α : Type}

def exchanges (run : Run σ α) : List Exchange := run.steps.filterMap Step.exchange?

@[simp] theorem exchanges_after (run : Run σ α) (steps : List Step) :
    (run.after steps).exchanges = steps.filterMap Step.exchange? ++ run.exchanges := by
  simp only [exchanges, after_steps, List.filterMap_append]

@[simp] theorem events_after (run : Run σ α) (steps : List Step) :
    (run.after steps).events = steps.filterMap Step.event? ++ run.events := by
  simp only [events, after_steps, List.filterMap_append]

end Run

namespace Program

variable {α β : Type}

section Note

variable {σ : Type} (world : World σ) (event : Log.Event) (next : Program α) (state : σ)

theorem exchanges_run_note :
    ((note event next).run world state).exchanges = (next.run world state).exchanges := rfl

theorem events_run_note :
    ((note event next).run world state).events = event :: (next.run world state).events := rfl

end Note

section Ask

variable {σ : Type} (world : World σ) {connection? : Option Connection} (c : Call)
  (next : c.Answer → Program α) (state : σ)

theorem result_run_ask : ((ask connection? c next).run world state).result =
    ((next (world.reply c state).1.answer).run world (world.reply c state).2).result := rfl

theorem exchanges_run_ask : ((ask connection? c next).run world state).exchanges =
    ⟨c, (world.reply c state).1.answer⟩ ::
      ((next (world.reply c state).1.answer).run world (world.reply c state).2).exchanges := by
  simp [run_ask, List.filterMap_map, Function.comp_def, Step.exchange?]

theorem events_run_ask : ((ask connection? c next).run world state).events =
    (world.reply c state).1.events ++
      ((next (world.reply c state).1.answer).run world (world.reply c state).2).events := by
  simp [run_ask, List.filterMap_map, Function.comp_def, Step.event?]

end Ask

/-- The program can make these exchanges and end with this result. -/
def Yields : Program α → List Exchange → α → Prop
  | .done a, xs, result => xs = [] ∧ result = a
  | .note _ next, xs, result => Yields next xs result
  | .ask _ call next, xs, result =>
      ∃ answer rest, xs = ⟨call, answer⟩ :: rest ∧ Yields (next answer) rest result

@[simp] theorem yields_done (a result : α) (xs : List Exchange) :
    (done a).Yields xs result ↔ xs = [] ∧ result = a := Iff.rfl

@[simp] theorem yields_note (event : Log.Event) (next : Program α) (xs : List Exchange)
    (result : α) : (note event next).Yields xs result ↔ next.Yields xs result := Iff.rfl

@[simp] theorem yields_ask {connection? : Option Connection} (c : Call)
    (next : c.Answer → Program α) (xs : List Exchange) (result : α) :
    (ask connection? c next).Yields xs result ↔
      ∃ answer rest, xs = ⟨c, answer⟩ :: rest ∧ (next answer).Yields rest result := Iff.rfl

@[simp] theorem yields_log (event : Log.Event) (xs : List Exchange) (result : Unit) :
    (log event).Yields xs result ↔ xs = [] := by
  simp only [log, yields_note, yields_done, and_true]

theorem yields_bind (program : Program α) (next : α → Program β) (xs : List Exchange) (b : β) :
    (program >>= next).Yields xs b ↔
      ∃ ys zs a, program.Yields ys a ∧ (next a).Yields zs b ∧ xs = ys ++ zs := by
  induction program generalizing xs with
  | done a =>
      constructor
      · intro h
        exact ⟨[], xs, a, ⟨rfl, rfl⟩, h, rfl⟩
      · intro hyields
        obtain ⟨_, zs, _, ⟨rfl, rfl⟩, h, rfl⟩ := hyields
        exact h
  | note event rest ih => exact ih xs
  | ask _ c rest ih =>
      simp only [ask_bind, yields_ask]
      constructor
      · intro hyields
        obtain ⟨answer, tail, rfl, h⟩ := hyields
        obtain ⟨ys, zs, a, hys, hzs, rfl⟩ := (ih answer tail).mp h
        exact ⟨⟨c, answer⟩ :: ys, zs, a, ⟨answer, ys, rfl, hys⟩, hzs, rfl⟩
      · intro hyields
        obtain ⟨_, zs, a, ⟨answer, ys, rfl, hys⟩, hzs, rfl⟩ := hyields
        exact ⟨answer, ys ++ zs, rfl, (ih answer _).mpr ⟨ys, zs, a, hys, hzs, rfl⟩⟩

/-- Whatever the world answers, a run makes exchanges that the program can make. -/
theorem yields_run {σ : Type} (world : World σ) (program : Program α) (state : σ) :
    program.Yields (program.run world state).exchanges (program.run world state).result := by
  induction program generalizing state with
  | done a => exact ⟨rfl, rfl⟩
  | note event rest ih => exact ih state
  | ask _ c rest ih =>
      have h := ih (world.reply c state).1.answer (world.reply c state).2
      exact ⟨(world.reply c state).1.answer, _, exchanges_run_ask world c rest state, h⟩

end Program

/-- Where both have had the same exchanges and ask the same thing of those that `matters` holds of,
they get the same answer. -/
def AgreeOn (matters : Call → Prop) (xs ys : List Exchange) : Prop :=
  ∀ history call (a b : call.Answer), matters call →
    history ++ [⟨call, a⟩] <+: xs → history ++ [⟨call, b⟩] <+: ys → a = b

namespace AgreeOn

variable {matters : Call → Prop} {x : Exchange} {xs ys : List Exchange}

theorem refl (xs : List Exchange) : AgreeOn matters xs xs := by
  intro history call a b _ ha hb
  have hlength : (history ++ [Exchange.mk call a]).length =
      (history ++ [Exchange.mk call b]).length := by simp
  have hprefix := List.prefix_of_prefix_length_le ha hb (Nat.le_of_eq hlength)
  simpa using hprefix.eq_of_length hlength

theorem head {call : Call} {a b : call.Answer} (h : AgreeOn matters (⟨call, a⟩ :: xs)
    (⟨call, b⟩ :: ys)) (hm : matters call) : a = b :=
  h [] call a b hm (by simp) (by simp)

theorem tail (h : AgreeOn matters (x :: xs) (x :: ys)) : AgreeOn matters xs ys := by
  intro history call a b hm ha hb
  apply h (x :: history) call a b hm
  · simpa using ha
  · simpa using hb

theorem append_left (zs : List Exchange) (h : AgreeOn matters (zs ++ xs) (zs ++ ys)) :
    AgreeOn matters xs ys := by
  induction zs with
  | nil => exact h
  | cons z zs ih => exact ih h.tail

/-- Whatever comes after the first difference, if that is in an answer that does not matter. -/
theorem of_first_difference (call : Call) (a b : call.Answer) (zs xs ys : List Exchange)
    (hm : ¬ matters call) (hne : a ≠ b) :
    AgreeOn matters (zs ++ ⟨call, a⟩ :: xs) (zs ++ ⟨call, b⟩ :: ys) := by
  induction zs with
  | nil =>
      intro history call' a' b' hm' ha hb
      cases history with
      | nil =>
          cases (List.cons_prefix_cons.mp ha).1
          exact absurd hm' hm
      | cons x history =>
          -- A history that goes on from the difference would contain both answers.
          have hx := (List.cons_prefix_cons.mp ha).1.symm.trans (List.cons_prefix_cons.mp hb).1
          cases hx
          exact absurd rfl hne
  | cons z zs ih =>
      intro history call' a' b' hm' ha hb
      cases history with
      | nil =>
          have hz := (List.cons_prefix_cons.mp ha).1.trans (List.cons_prefix_cons.mp hb).1.symm
          cases hz
          rfl
      | cons x history =>
          exact ih history call' a' b' hm' (List.cons_prefix_cons.mp ha).2
            (List.cons_prefix_cons.mp hb).2

end AgreeOn

/-- Runs that agree on all that a program asks are the same as far as the program goes. -/
theorem Program.Yields.eq_of_agreeOn {α : Type} {program : Program α} {matters : Call → Prop}
    {xs ys xs' ys' : List Exchange} {a b : α} (ha : program.Yields xs a) (hb : program.Yields ys b)
    (hm : ∀ x ∈ xs, matters x.call) (h : AgreeOn matters (xs ++ xs') (ys ++ ys')) :
    xs = ys ∧ a = b := by
  induction program generalizing xs ys with
  | done result =>
      obtain ⟨rfl, rfl⟩ := ha
      obtain ⟨rfl, rfl⟩ := hb
      exact ⟨rfl, rfl⟩
  | note event rest ih => exact ih ha hb hm h
  | ask _ call rest ih =>
      obtain ⟨answer, tail, rfl, ha⟩ := ha
      obtain ⟨answer', tail', rfl, hb⟩ := hb
      have hanswer : answer = answer' := h.head (hm _ List.mem_cons_self)
      subst hanswer
      have hrest := ih answer ha hb (fun x hx => hm x (List.mem_cons_of_mem _ hx)) h.tail
      exact ⟨by rw [hrest.1], hrest.2⟩

theorem Program.Yields.result_unique {α : Type} {program : Program α} {xs : List Exchange} {a b : α}
    (ha : program.Yields xs a) (hb : program.Yields xs b) : a = b := by
  induction program generalizing xs with
  | done result => rw [ha.2, hb.2]
  | note event rest ih => exact ih ha hb
  | ask _ call rest ih =>
      obtain ⟨answer, tail, rfl, ha⟩ := ha
      obtain ⟨answer', tail', heq, hb⟩ := hb
      cases heq
      exact ih answer ha hb

end DirectoryLogin.Session
