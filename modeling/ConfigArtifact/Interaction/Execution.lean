import ConfigArtifact.Interaction.Pool

/-! Programs and pools run by a function that answers their calls.

Where the answers conform to the environment, what the function computes is one
of the executions of the program and one of the schedules of the pool. A program
is a finite tree, so it finishes wherever each of its calls can be answered.
-/

set_option autoImplicit false

namespace Interaction

/-- A reply and a next state for every call. -/
abbrev Answers (I : Interface) (S : Type) := (request : I.Call) → S → I.Reply request × S

variable {I : Interface} {S A : Type}

/-- The answers to the allowed calls are ones the environment may give, and keep
the states they are given in good. -/
structure Answers.Conform (answers : Answers I S) (env : Environment I S) (allowed : I.Call → Prop)
    (good : S → Prop) : Prop where
  answered : ∀ request s, allowed request → good s →
    env request s (answers request s).1 (answers request s).2
  kept : ∀ request s, allowed request → good s → good (answers request s).2

namespace Program

def execute (answers : Answers I S) : Program I A → S → A × S
  | .done value, s => (value, s)
  | .call request resume, s => (resume (answers request s).1).execute answers (answers request s).2

variable {answers : Answers I S} {env : Environment I S} {allowed : I.Call → Prop} {good : S → Prop}

theorem runs_execute (conform : answers.Conform env allowed good) {program : Program I A}
    (uses : program.Uses allowed) {s : S} (kept : good s) :
    program.Runs env s (program.execute answers s).1 (program.execute answers s).2 ∧
      good (program.execute answers s).2 := by
  induction program generalizing s with
  | done value => exact ⟨⟨rfl, rfl⟩, kept⟩
  | call request resume ih =>
    have answered := conform.answered request s uses.1 kept
    have rest := ih (answers request s).1 (uses.2 _) (conform.kept request s uses.1 kept)
    exact ⟨⟨_, _, answered, rest.1⟩, rest.2⟩

end Program

/-- One turn of a schedule: a client starts a request, or its next call is answered. -/
inductive Turn (ι Q : Type) where
  | start (client : ι) (request : Q)
  | run (client : ι)

/-- A client starts a request and has its next calls answered before any other. -/
def Turn.alone {ι Q : Type} (client : ι) (request : Q) (calls : Nat) : List (Turn ι Q) :=
  .start client request :: List.replicate calls (.run client)

namespace Pool

variable {Q ι : Type} {F : Q → Type} [DecidableEq ι]

/-- One turn; a client that has no such turn is left as it is. -/
def turn (service : Service I S Q F) (answers : Answers I S) (pool : Pool I S Q F ι) :
    Turn ι Q → Pool I S Q F ι
  | .start i request =>
    match pool.threads i with
    | none => pool.launch i request (service.body request)
    | some _ => pool
  | .run i =>
    match pool.threads i with
    | some ⟨request, .call call resume⟩ =>
      pool.advance i request (resume (answers call pool.state).1)
        ⟨pool.state, call, (answers call pool.state).1, (answers call pool.state).2⟩
    | _ => pool

/-- Take the turns of a schedule one after the other. -/
def play (service : Service I S Q F) (answers : Answers I S) (schedule : List (Turn ι Q))
    (pool : Pool I S Q F ι) : Pool I S Q F ι :=
  schedule.foldl (fun pool next => pool.turn service answers next) pool

/-- Every program of the pool issues allowed calls only. -/
def Uses (pool : Pool I S Q F ι) (allowed : I.Call → Prop) : Prop :=
  ∀ i request program, pool.threads i = some ⟨request, program⟩ → program.Uses allowed

/-- A request that is admitted and issues allowed calls only. -/
def Serviceable (service : Service I S Q F) (allowed : I.Call → Prop) (request : Q) : Prop :=
  (∀ s, service.admits s request) ∧ (service.body request).Uses allowed

/-- The requests a schedule starts. -/
def starts : List (Turn ι Q) → List Q
  | [] => []
  | .start _ request :: rest => request :: starts rest
  | .run _ :: rest => starts rest

/-- The request a client serves. -/
def request? (pool : Pool I S Q F ι) (i : ι) : Option Q := (pool.threads i).map Sigma.fst

/-- The client has been served, with a value that passes a test. -/
def ends (pool : Pool I S Q F ι) (i : ι) (test : (request : Q) → F request → Bool) : Bool :=
  match pool.threads i with
  | some ⟨request, .done value⟩ => test request value
  | _ => false

variable {service : Service I S Q F} {answers : Answers I S} {allowed : I.Call → Prop}
  {good : S → Prop} {pool : Pool I S Q F ι}

omit [DecidableEq ι] in
theorem uses_initial (s : S) : (initial s : Pool I S Q F ι).Uses allowed :=
  fun _ _ _ selected => by cases selected

theorem Uses.launch (uses : pool.Uses allowed) {i : ι} {request : Q}
    {program : Program I (F request)} (permitted : program.Uses allowed) :
    (pool.launch i request program).Uses allowed := by
  intro j other remaining selected
  rw [launch_threads] at selected
  split at selected
  · cases selected
    exact permitted
  · exact uses j other remaining selected

theorem Uses.advance (uses : pool.Uses allowed) {i : ι} {request : Q}
    {rest : Program I (F request)} (permitted : rest.Uses allowed) (event : Event I S) :
    (pool.advance i request rest event).Uses allowed := by
  intro j other remaining selected
  rw [advance_threads] at selected
  split at selected
  · cases selected
    exact permitted
  · exact uses j other remaining selected

theorem Uses.steps {next : Pool I S Q F ι} (uses : pool.Uses allowed)
    (steps : Steps service pool next) (bodies : ∀ request, (service.body request).Uses allowed) :
    next.Uses allowed := by
  induction steps with
  | refl => exact uses
  | tail _ step ih =>
    cases step with
    | start idle admitted => exact ih.launch (bodies _)
    | run selected answered => exact ih.advance ((ih _ _ _ selected).2 _) _

theorem turn_steps (conform : answers.Conform service.env allowed good) (uses : pool.Uses allowed)
    (kept : good pool.state) {next : Turn ι Q}
    (startable : ∀ request ∈ starts [next], Serviceable service allowed request) :
    Steps service pool (pool.turn service answers next) ∧
      (pool.turn service answers next).Uses allowed ∧ good (pool.turn service answers next).state := by
  unfold turn
  cases next with
  | start i request =>
    obtain ⟨admitted, permitted⟩ := startable request List.mem_cons_self
    dsimp only
    split
    · next idle => exact ⟨.single (.start idle (admitted _)), uses.launch permitted, kept⟩
    · exact ⟨.refl, uses, kept⟩
  | run i =>
    dsimp only
    split
    · next request call resume selected =>
      have permitted := uses i request _ selected
      exact ⟨.single (.run selected (conform.answered call _ permitted.1 kept)),
        uses.advance (permitted.2 _) _, conform.kept call _ permitted.1 kept⟩
    · exact ⟨.refl, uses, kept⟩

/-- What a schedule plays is a run of the pool. -/
theorem play_steps (conform : answers.Conform service.env allowed good) (schedule : List (Turn ι Q))
    (uses : pool.Uses allowed) (kept : good pool.state)
    (startable : ∀ request ∈ starts schedule, Serviceable service allowed request) :
    Steps service pool (pool.play service answers schedule) ∧
      (pool.play service answers schedule).Uses allowed ∧
      good (pool.play service answers schedule).state := by
  induction schedule generalizing pool with
  | nil => exact ⟨.refl, uses, kept⟩
  | cons next rest ih =>
    have first : ∀ request ∈ starts [next], Serviceable service allowed request := by
      cases next with
      | start i request =>
        intro other member
        obtain rfl := List.mem_singleton.mp member
        exact startable other List.mem_cons_self
      | run i => exact fun _ member => by cases member
    have others : ∀ request ∈ starts rest, Serviceable service allowed request := by
      cases next with
      | start i request => exact fun other member => startable other (List.mem_cons_of_mem _ member)
      | run i => exact startable
    obtain ⟨step, uses, kept⟩ := turn_steps conform uses kept first
    obtain ⟨steps, final⟩ := ih uses kept others
    exact ⟨step.trans steps, final⟩

theorem turn_request {i : ι} {request : Q} (serves : pool.request? i = some request)
    (next : Turn ι Q) : (pool.turn service answers next).request? i = some request := by
  obtain ⟨⟨_, program⟩, selected, rfl⟩ := Option.map_eq_some_iff.mp serves
  unfold turn request?
  cases next with
  | start j other =>
    dsimp only
    split
    · next idle =>
      rw [launch_threads, if_neg, selected, Option.map_some]
      rintro rfl
      rw [idle] at selected
      cases selected
    · rw [selected, Option.map_some]
  | run j =>
    dsimp only
    split
    · next other call resume running =>
      rw [advance_threads]
      split
      · next same =>
        subst same
        rw [running] at selected
        cases selected
        rfl
      · rw [selected, Option.map_some]
    · rw [selected, Option.map_some]

/-- A client serves the request it started with. -/
theorem play_request {i : ι} {request : Q} (serves : pool.request? i = some request)
    (schedule : List (Turn ι Q)) :
    (pool.play service answers schedule).request? i = some request := by
  induction schedule generalizing pool with
  | nil => exact serves
  | cons next rest ih => exact ih (turn_request serves next)

omit [DecidableEq ι] in
theorem finished_of_ends {i : ι} {request : Q} {test : (request : Q) → F request → Bool}
    (serves : pool.request? i = some request) (passed : pool.ends i test = true) :
    ∃ value, pool.Finished i request value ∧ test request value = true := by
  obtain ⟨⟨_, program⟩, selected, rfl⟩ := Option.map_eq_some_iff.mp serves
  unfold ends at passed
  rw [selected] at passed
  cases program with
  | done value => exact ⟨value, selected, passed⟩
  | call call resume => cases passed

/-- A client whose calls can all be answered can be served to its end, alone. -/
theorem finishes (conform : answers.Conform service.env allowed good) {i : ι} {request : Q}
    {program : Program I (F request)} (selected : pool.threads i = some ⟨request, program⟩)
    (uses : program.Uses allowed) (kept : good pool.state) :
    ∃ next value, Steps service pool next ∧ next.Finished i request value ∧
      ∀ j, j ≠ i → next.threads j = pool.threads j := by
  induction program generalizing pool with
  | done value => exact ⟨pool, value, .refl, selected, fun _ _ => rfl⟩
  | call call resume ih =>
    have answered := conform.answered call _ uses.1 kept
    obtain ⟨next, value, steps, finished, others⟩ :=
      @ih _ (pool.advance i request (resume (answers call pool.state).1)
        ⟨pool.state, call, (answers call pool.state).1, (answers call pool.state).2⟩)
        (by rw [advance_threads, if_pos rfl]) (uses.2 _) (conform.kept call _ uses.1 kept)
    refine ⟨next, value, .head (.run selected answered) steps, finished, fun j different => ?_⟩
    rw [others j different, advance_threads, if_neg different]

end Pool

end Interaction
