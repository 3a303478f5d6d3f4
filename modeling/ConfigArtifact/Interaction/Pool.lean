import ConfigArtifact.Interaction.Safety
import Mathlib.Data.List.Pairwise
import Mathlib.Logic.Function.Basic

/-! Pools of programs interleaved call by call.

A pool serves requests: each request is started once by some client and then
advances one call at a time, in any order relative to the others. A client that
is never scheduled again models a call stopped between two of its steps. The log
records every answered call of every client in the order they happened.
-/

set_option autoImplicit false

namespace Interaction

/-- The program that serves each request, and the states in which a request may start. -/
structure Service (I : Interface) (S Q : Type) (A : Q → Type) where
  env : Environment I S
  body : (request : Q) → Program I (A request)
  admits : S → Q → Prop

/-- A request a client serves, and what is left of its program. -/
abbrev Thread (I : Interface) (Q : Type) (A : Q → Type) := (request : Q) × Program I (A request)

structure Pool (I : Interface) (S Q : Type) (A : Q → Type) (ι : Type) where
  state : S
  threads : ι → Option (Thread I Q A)
  log : List (ι × Event I S)

namespace Pool

variable {I : Interface} {S Q ι : Type} {A : Q → Type} [DecidableEq ι]

def initial (s : S) : Pool I S Q A ι := ⟨s, fun _ => none, []⟩

/-- The events of one client, in order. -/
def history (pool : Pool I S Q A ι) (i : ι) : List (Event I S) :=
  pool.log.filterMap fun entry => if entry.1 = i then some entry.2 else none

/-- One client starts serving a request. -/
def launch (pool : Pool I S Q A ι) (i : ι) (request : Q)
    (program : Program I (A request)) : Pool I S Q A ι :=
  { pool with threads := Function.update pool.threads i (some ⟨request, program⟩) }

/-- One client's call has been answered. -/
def advance (pool : Pool I S Q A ι) (i : ι) (request : Q) (rest : Program I (A request))
    (event : Event I S) : Pool I S Q A ι where
  state := event.after
  threads := Function.update pool.threads i (some ⟨request, rest⟩)
  log := pool.log ++ [(i, event)]

inductive Step (service : Service I S Q A) : Pool I S Q A ι → Pool I S Q A ι → Prop
  | start {pool : Pool I S Q A ι} {i : ι} {request : Q} :
      pool.threads i = none → service.admits pool.state request →
      Step service pool (pool.launch i request (service.body request))
  | run {pool : Pool I S Q A ι} {i : ι} {request : Q} {call : I.Call}
      {resume : I.Reply call → Program I (A request)} {reply : I.Reply call} {after : S} :
      pool.threads i = some ⟨request, .call call resume⟩ →
      service.env call pool.state reply after →
      Step service pool
        (pool.advance i request (resume reply) ⟨pool.state, call, reply, after⟩)

abbrev Steps (service : Service I S Q A) : Pool I S Q A ι → Pool I S Q A ι → Prop :=
  Relation.ReflTransGen (Step service)

/-- A pool reached from an initial state by any finite schedule. -/
abbrev Reachable (service : Service I S Q A) (s : S) (pool : Pool I S Q A ι) : Prop :=
  Steps service (initial s) pool

/-- The client's request has been served with this value. -/
def Finished (pool : Pool I S Q A ι) (i : ι) (request : Q) (value : A request) : Prop :=
  pool.threads i = some ⟨request, .done value⟩

/-- A schedule is one of any environment that answers more. -/
theorem Steps.mono {service : Service I S Q A} {wider : Environment I S}
    (covers : ∀ request s reply t, service.env request s reply t → wider request s reply t)
    {pool next : Pool I S Q A ι} (steps : Steps service pool next) :
    Steps { service with env := wider } pool next := by
  induction steps with
  | refl => exact .refl
  | tail _ step ih =>
    refine ih.tail ?_
    cases step with
    | start idle admitted => exact .start idle admitted
    | run selected answered => exact .run selected (covers _ _ _ _ answered)

@[simp] theorem launch_state (pool : Pool I S Q A ι) (i : ι) (request : Q)
    (program : Program I (A request)) : (pool.launch i request program).state = pool.state := rfl

@[simp] theorem launch_log (pool : Pool I S Q A ι) (i : ι) (request : Q)
    (program : Program I (A request)) : (pool.launch i request program).log = pool.log := rfl

@[simp] theorem launch_history (pool : Pool I S Q A ι) (i j : ι) (request : Q)
    (program : Program I (A request)) : (pool.launch i request program).history j = pool.history j := rfl

theorem launch_threads (pool : Pool I S Q A ι) (i j : ι) (request : Q) (program : Program I (A request)) :
    (pool.launch i request program).threads j =
      if j = i then some ⟨request, program⟩ else pool.threads j := by
  simp [launch, Function.update_apply]

@[simp] theorem advance_state (pool : Pool I S Q A ι) (i : ι) (request : Q)
    (rest : Program I (A request)) (event : Event I S) :
    (pool.advance i request rest event).state = event.after := rfl

@[simp] theorem advance_log (pool : Pool I S Q A ι) (i : ι) (request : Q)
    (rest : Program I (A request)) (event : Event I S) :
    (pool.advance i request rest event).log = pool.log ++ [(i, event)] := rfl

theorem advance_threads (pool : Pool I S Q A ι) (i j : ι) (request : Q) (rest : Program I (A request))
    (event : Event I S) :
    (pool.advance i request rest event).threads j =
      if j = i then some ⟨request, rest⟩ else pool.threads j := by
  simp [advance, Function.update_apply]

theorem advance_history (pool : Pool I S Q A ι) (i j : ι) (request : Q) (rest : Program I (A request))
    (event : Event I S) :
    (pool.advance i request rest event).history j =
      pool.history j ++ if j = i then [event] else [] := by
  by_cases same : i = j <;> simp [history, same, eq_comm]

theorem mem_log_of_history {pool : Pool I S Q A ι} {i : ι} {event : Event I S}
    (member : event ∈ pool.history i) : (i, event) ∈ pool.log := by
  obtain ⟨⟨j, other⟩, inLog, same⟩ := List.mem_filterMap.mp member
  by_cases owner : j = i
  · subst owner
    simp only [if_true, Option.some.injEq] at same
    exact same ▸ inLog
  · simp [owner] at same

theorem mem_history_of_log {pool : Pool I S Q A ι} {i : ι} {event : Event I S}
    (member : (i, event) ∈ pool.log) : event ∈ pool.history i :=
  List.mem_filterMap.mpr ⟨(i, event), member, by simp⟩

/-- A client that has been served stays served. -/
theorem Finished.later {service : Service I S Q A} {pool next : Pool I S Q A ι} {i : ι} {request : Q}
    {value : A request} (finished : pool.Finished i request value) (steps : Steps service pool next) :
    next.Finished i request value := by
  unfold Finished at finished ⊢
  induction steps with
  | refl => exact finished
  | tail _ step ih =>
    cases step with
    | @start j other idle admitted =>
      rw [launch_threads, if_neg, ih]
      rintro rfl
      rw [ih] at idle
      cases idle
    | @run j other call resume reply after running answered =>
      rw [advance_threads, if_neg, ih]
      rintro rfl
      rw [ih] at running
      cases running

/-- What holds of every pool reached under a discipline whose guarantee the
other programs may rely on. -/
structure Sound (service : Service I S Q A) (D : Discipline S) (post : (request : Q) → Postcondition I S (A request))
    (first : S) (pool : Pool I S Q A ι) : Prop where
  invariant : D.invariant pool.state
  moved : D.rely first pool.state
  idle : ∀ i, pool.threads i = none → pool.history i = []
  safe : ∀ i request program, pool.threads i = some ⟨request, program⟩ →
    program.Safe D service.env (post request) (pool.history i) pool.state
  ordered : pool.log.Pairwise fun entry later => D.rely entry.2.after later.2.before
  past : ∀ entry ∈ pool.log, D.rely first entry.2.before ∧ D.rely entry.2.after pool.state
  genuine : ∀ entry ∈ pool.log, D.invariant entry.2.before ∧ D.invariant entry.2.after ∧
    service.env entry.2.request entry.2.before entry.2.reply entry.2.after ∧
    D.guarantee entry.2.before entry.2.after

variable {service : Service I S Q A} {D : Discipline S} 
  {post : (request : Q) → Postcondition I S (A request)}

theorem sound_initial {s : S} (kept : D.invariant s) :
    Sound service D post s (initial s : Pool I S Q A ι) where
  invariant := kept
  moved := D.refl s
  idle := fun _ _ => rfl
  safe := fun _ _ _ selected => by cases selected
  ordered := List.Pairwise.nil
  past := fun _ member => by cases member
  genuine := fun _ member => by cases member

section

variable (starts : ∀ s request, D.invariant s → service.admits s request →
    (service.body request).Safe D service.env (post request) [] s)
  (guaranteed : ∀ s t, D.guarantee s t → D.rely s t)

include starts guaranteed

theorem Sound.step {first : S} {pool next : Pool I S Q A ι}
    (sound : Sound service D post first pool) (step : Step service pool next) :
    Sound service D post first next := by
  cases step with
  | @start i request idle admitted =>
    refine ⟨sound.invariant, sound.moved, ?_, ?_, sound.ordered, sound.past, sound.genuine⟩
    · intro j unstarted
      rw [launch_threads] at unstarted
      split at unstarted
      · cases unstarted
      · exact sound.idle j unstarted
    · intro j other program selected
      rw [launch_threads] at selected
      split at selected
      · next same =>
        subst same
        cases selected
        rw [launch_history, sound.idle j idle]
        exact starts pool.state request sound.invariant admitted
      · exact sound.safe j other program selected
  | @run i request call resume reply after selected answered =>
    obtain ⟨invariant, guarantee, rest⟩ :=
      sound.safe i request _ selected pool.state (D.refl _) sound.invariant reply after answered
    have moved := guaranteed _ _ guarantee
    refine ⟨invariant, D.trans sound.moved moved, ?_, ?_, ?_, ?_, ?_⟩
    · intro j unstarted
      rw [advance_threads] at unstarted
      split at unstarted
      · cases unstarted
      · next other => rw [advance_history, sound.idle j unstarted, if_neg other, List.append_nil]
    · intro j other program served
      -- The caller goes on with its reply; the others have seen a step they rely on.
      rw [advance_threads] at served
      rw [advance_history]
      split at served
      · next same =>
        subst same
        cases served
        rw [if_pos rfl]
        exact rest
      · next different =>
        rw [if_neg different, List.append_nil]
        exact (sound.safe j other program served).later moved
    · refine List.pairwise_append.mpr ⟨sound.ordered, List.pairwise_singleton _ _, ?_⟩
      intro entry member last isLast
      rw [List.mem_singleton] at isLast
      subst isLast
      exact (sound.past entry member).2
    · intro entry member
      rcases List.mem_append.mp member with member | member
      · obtain ⟨began, kept⟩ := sound.past entry member
        exact ⟨began, D.trans kept moved⟩
      · rw [List.mem_singleton] at member
        subst member
        exact ⟨sound.moved, D.refl _⟩
    · intro entry member
      rcases List.mem_append.mp member with member | member
      · exact sound.genuine entry member
      · rw [List.mem_singleton] at member
        subst member
        exact ⟨sound.invariant, invariant, answered, guarantee⟩

theorem Sound.steps {first : S} {pool next : Pool I S Q A ι}
    (sound : Sound service D post first pool) (steps : Steps service pool next) :
    Sound service D post first next := by
  induction steps with
  | refl => exact sound
  | tail _ step ih => exact ih.step starts guaranteed step

/-- Every schedule from a state that satisfies the invariant keeps the pool sound. -/
theorem sound_of_reachable {s : S} {pool : Pool I S Q A ι} (kept : D.invariant s)
    (reachable : Reachable service s pool) : Sound service D post s pool :=
  (sound_initial kept).steps starts guaranteed reachable

/-- Between two pools of one run the state moves by the rely relation. -/
theorem Sound.moves {first : S} {pool next : Pool I S Q A ι}
    (sound : Sound service D post first pool) (steps : Steps service pool next) :
    D.rely pool.state next.state := by
  induction steps with
  | refl => exact D.refl _
  | tail earlier step ih =>
    have kept := sound.steps starts guaranteed earlier
    have later := kept.step starts guaranteed step
    cases step with
    | start => exact ih
    | run selected answered =>
      obtain ⟨_, guarantee, _⟩ := kept.safe _ _ _ selected _ (D.refl _) kept.invariant _ _ answered
      exact D.trans ih (guaranteed _ _ guarantee)

/-- A client whose own calls have all been answered by another environment ends as its request does
there, whatever the calls of the others were answered by. -/
theorem served_of_reachable {env : Environment I S} {s : S} {pool : Pool I S Q A ι}
    (kept : D.invariant s) (reachable : Reachable service s pool) {i : ι} {request : Q}
    {program : Program I (A request)} (selected : pool.threads i = some ⟨request, program⟩)
    {ends : Postcondition I S (A request)}
    (body : ∀ t, D.invariant t → (service.body request).Safe D env ends [] t)
    (own : ∀ event ∈ pool.history i, env event.request event.before event.reply event.after) :
    program.Safe D env ends (pool.history i) pool.state := by
  induction reachable generalizing program with
  | refl => cases selected
  | tail earlier step ih =>
    have sound := sound_of_reachable starts guaranteed kept earlier
    cases step with
    | @start j other unstarted admitted =>
      rw [launch_threads] at selected
      rw [launch_history] at own ⊢
      split at selected
      · next same =>
        subst same
        cases selected
        rw [sound.idle i unstarted]
        exact body _ sound.invariant
      · exact ih selected own
    | @run j other call resume reply after running answered =>
      rw [advance_threads] at selected
      rw [advance_history] at own ⊢
      split at selected
      · next same =>
        -- The client's own call.
        subst same
        cases selected
        rw [if_pos rfl] at own ⊢
        have safe := ih running fun event member => own event (List.mem_append_left _ member)
        have served := own _ (List.mem_append_right _ List.mem_cons_self)
        exact (safe _ (D.refl _) sound.invariant reply after served).2.2
      · next different =>
        rw [if_neg different, List.append_nil] at own ⊢
        obtain ⟨-, guarantee, -⟩ :=
          sound.safe j other _ running _ (D.refl _) sound.invariant reply after answered
        exact (ih selected own).later (guaranteed _ _ guarantee)

end

theorem Sound.finished {first : S} {pool : Pool I S Q A ι} {i : ι} {request : Q}
    {value : A request}
    (sound : Sound service D post first pool) (finished : pool.Finished i request value) :
    post request (pool.history i) pool.state value :=
  sound.safe i request _ finished pool.state (D.refl _) sound.invariant

/-- Two different events of one run happened one after the other. -/
theorem Sound.comparable {first : S} {pool : Pool I S Q A ι} {i j : ι} {event other : Event I S}
    (sound : Sound service D post first pool) (member : event ∈ pool.history i)
    (another : other ∈ pool.history j) (distinct : (i, event) ≠ (j, other)) :
    D.rely event.after other.before ∨ D.rely other.after event.before := by
  let apart (entry later : ι × Event I S) : Prop :=
    D.rely entry.2.after later.2.before ∨ D.rely later.2.after entry.2.before
  have : Std.Symm apart := ⟨fun _ _ => Or.symm⟩
  have ordered : pool.log.Pairwise apart := sound.ordered.imp Or.inl
  exact ordered.forall (mem_log_of_history member) (mem_log_of_history another) distinct

theorem Sound.event {first : S} {pool : Pool I S Q A ι} {i : ι} {event : Event I S}
    (sound : Sound service D post first pool) (member : event ∈ pool.history i) :
    D.invariant event.before ∧ D.invariant event.after ∧
      service.env event.request event.before event.reply event.after ∧
      D.guarantee event.before event.after :=
  sound.genuine _ (mem_log_of_history member)

end Pool

end Interaction
