import DirectoryLogin.Proofs.Course

/-!
# Bases and their answers

The bases of a search phase, each with the answer that its search gets if it is made. Such a list
settles which searches of the phase are made, and which of them ends it.
-/

namespace DirectoryLogin.Session

open Directory (Entry)

/-- The searches get these answers one after the other, as far as there are both. -/
def AnsweredBy (answers : List SearchAnswer) (xs : List Exchange) : Prop :=
  ∀ made ∈ (searches xs).zip answers, made.1.2 = made.2

theorem answeredBy_cons {answers : List SearchAnswer} {xs : List Exchange}
    {request : Directory.SearchRequest} {answer given : SearchAnswer} :
    AnsweredBy (answer :: answers) (⟨.search request, given⟩ :: xs) ↔
      given = answer ∧ AnsweredBy answers xs := List.forall_mem_cons

theorem AnsweredBy.of_searches_eq {answers : List SearchAnswer} {xs ys : List Exchange}
    (h : AnsweredBy answers xs) (hsearches : searches xs = searches ys) :
    AnsweredBy answers ys := by
  rwa [AnsweredBy, ← hsearches]

/-- The entries that an answer brings; none if the search failed. -/
def entriesOf : SearchAnswer → List Entry
  | .ok entries => entries
  | .error _ => []

/-- The only entry that an answer brings. -/
def single? : SearchAnswer → Option Entry
  | .ok [entry] => some entry
  | _ => none

theorem single?_eq_some_iff {answer : SearchAnswer} {entry : Entry} :
    single? answer = some entry ↔ answer = .ok [entry] := by
  constructor
  · intro h
    unfold single? at h
    split at h
    · rw [Option.some.inj h]
    · cases h
  · rintro rfl
    rfl

theorem single?_eq_none_iff {answer : SearchAnswer} :
    single? answer = none ↔ ¬ IsSingle answer := by
  simp only [Option.eq_none_iff_forall_ne_some, ne_eq, single?_eq_some_iff, IsSingle, not_exists]

end DirectoryLogin.Session

namespace DirectoryLogin.Client

open Directory (SearchRequest)
open Session

/-- The exchange that asks a base. -/
def asking {β : Type} (request : β → SearchRequest) (base : β × SearchAnswer) : Exchange :=
  ⟨.search (request base.1), base.2⟩

theorem entries_asking {β : Type} (request : β → SearchRequest) (base : β × SearchAnswer) :
    (asking request base).entries = entriesOf base.2 := by
  obtain ⟨b, answer⟩ := base
  cases answer <;> rfl

def inquiry {β : Type} (request : β → SearchRequest) (base : β × SearchAnswer) :
    SearchRequest × SearchAnswer := (request base.1, base.2)

theorem searches_map_asking {β : Type} (request : β → SearchRequest)
    (bases : List (β × SearchAnswer)) :
    searches (bases.map (asking request)) = bases.map (inquiry request) := by
  rw [searches, List.filterMap_map]
  exact congrFun List.filterMap_eq_map bases

section Phase

variable {β γ : Type} {request : β → SearchRequest} {ends : SearchAnswer → Prop}
  {miss : β → Exchange → Prop} {hit : β → Exchange → γ → Prop}

/-- The searches of a phase miss or hit by their answers only. -/
structure Phase (request : β → SearchRequest) (ends : SearchAnswer → Prop)
    (miss : β → Exchange → Prop) (hit : β → Exchange → γ → Prop) : Prop where
  missed : ∀ {b x}, miss b x → ∃ answer, x = ⟨.search (request b), answer⟩ ∧ ¬ ends answer
  met : ∀ {b x c}, hit b x c → ∃ answer, x = ⟨.search (request b), answer⟩ ∧ ends answer

/-- Where no answer ends the phase, every base is asked. -/
theorem Phase.exhausted (phase : Phase request ends miss hit) {bases : List (β × SearchAnswer)}
    {more : List SearchAnswer} {xs ys : List Exchange} {found : Option γ}
    (h : InTurn miss hit (bases.map Prod.fst) xs found)
    (answers : AnsweredBy (bases.map Prod.snd ++ more) (xs ++ ys))
    (hopen : ∀ base ∈ bases, ¬ ends base.2) :
    found = none ∧ xs = bases.map (asking request) ∧ AnsweredBy more ys := by
  -- Every base takes one exchange off the phase and one answer off the list.
  induction bases generalizing xs with
  | nil =>
      cases h
      exact ⟨rfl, rfl, answers⟩
  | cons base others ih =>
      obtain ⟨hbase, hothers⟩ := List.forall_mem_cons.mp hopen
      cases h with
      | hit h =>
          obtain ⟨answer, rfl, hends⟩ := phase.met h
          obtain ⟨rfl, -⟩ := answeredBy_cons.mp answers
          exact absurd hends hbase
      | miss h hrest =>
          obtain ⟨answer, rfl, -⟩ := phase.missed h
          obtain ⟨rfl, hanswers⟩ := answeredBy_cons.mp answers
          obtain ⟨hfound, rfl, hmore⟩ := ih hrest hanswers hothers
          exact ⟨hfound, rfl, hmore⟩

/-- The first answer that ends the phase is the last that is asked for. -/
theorem Phase.ended (phase : Phase request ends miss hit) {before : List (β × SearchAnswer)}
    (base : β × SearchAnswer) {after : List β} {more : List SearchAnswer} {xs ys : List Exchange}
    {found : Option γ} (h : InTurn miss hit (before.map Prod.fst ++ base.1 :: after) xs found)
    (answers : AnsweredBy (before.map Prod.snd ++ base.2 :: more) (xs ++ ys))
    (hopen : ∀ passed ∈ before, ¬ ends passed.2) (hends : ends base.2) :
    ∃ c, found = some c ∧ hit base.1 (asking request base) c ∧
      xs = (before ++ [base]).map (asking request) ∧ AnsweredBy more ys := by
  induction before generalizing xs with
  | nil =>
      cases h with
      | hit h =>
          obtain ⟨answer, rfl, -⟩ := phase.met h
          obtain ⟨rfl, hmore⟩ := answeredBy_cons.mp answers
          exact ⟨_, rfl, h, rfl, hmore⟩
      | miss h =>
          obtain ⟨answer, rfl, hanswer⟩ := phase.missed h
          obtain ⟨rfl, -⟩ := answeredBy_cons.mp answers
          exact absurd hends hanswer
  | cons passed others ih =>
      obtain ⟨hpassed, hothers⟩ := List.forall_mem_cons.mp hopen
      cases h with
      | hit h =>
          obtain ⟨answer, rfl, hanswer⟩ := phase.met h
          obtain ⟨rfl, -⟩ := answeredBy_cons.mp answers
          exact absurd hanswer hpassed
      | miss h hrest =>
          obtain ⟨answer, rfl, -⟩ := phase.missed h
          obtain ⟨rfl, hanswers⟩ := answeredBy_cons.mp answers
          obtain ⟨c, hfound, hhit, rfl, hmore⟩ := ih hrest hanswers hothers
          exact ⟨c, hfound, hhit, rfl, hmore⟩

end Phase

/-- The run has a session to search, and the configured bases are these, answered as they say. -/
structure Queried {β : Type} (settings : Config.Settings) (configured : List β)
    (bases : List (β × SearchAnswer)) (xs : List Exchange) : Prop where
  reached : Reached settings xs
  configured : configured = bases.map Prod.fst
  answered : AnsweredBy (bases.map Prod.snd) xs

theorem exists_queried {β : Type} {settings : Config.Settings} {xs : List Exchange}
    (h : Reached settings xs) (configured : List β) :
    ∃ bases, Queried settings configured bases xs := by
  have hanswers (made : List (SearchRequest × SearchAnswer)) : ∃ bases : List (β × SearchAnswer),
      configured = bases.map Prod.fst ∧ ∀ m ∈ made.zip (bases.map Prod.snd), m.1.2 = m.2 := by
    induction configured generalizing made with
    | nil => exact ⟨[], rfl, by simp⟩
    | cons b others ih =>
        cases made with
        | nil =>
            obtain ⟨bases, rfl, -⟩ := ih []
            exact ⟨(b, .ok []) :: bases, rfl, by simp⟩
        | cons m made =>
            obtain ⟨bases, rfl, hbases⟩ := ih made
            exact ⟨(b, m.2) :: bases, rfl, List.forall_mem_cons.mpr ⟨rfl, hbases⟩⟩
  obtain ⟨bases, hconfigured, hbases⟩ := hanswers (searches xs)
  exact ⟨bases, h, hconfigured, hbases⟩

theorem Queried.task {β : Type} {op : Operation} {settings : Config.Settings} {configured : List β}
    {bases : List (β × SearchAnswer)} {xs : List Exchange} {result : Except op.Failure op.Value}
    (h : Queried settings configured bases xs) (hcourse : Course op settings xs result)
    (hop : op ≠ .testConnectivity) : ∃ url session,
      (op.task settings (.opened url)).Yields session result ∧ searches xs = searches session ∧
        AnsweredBy (bases.map Prod.snd ++ []) (session ++ []) := by
  obtain ⟨url, session, htask, hsearches⟩ := hcourse.performed_of_reached hop h.reached
  refine ⟨url, session, htask, hsearches, ?_⟩
  rw [List.append_nil, List.append_nil]
  exact h.answered.of_searches_eq hsearches

end DirectoryLogin.Client
