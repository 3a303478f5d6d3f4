import ConfigArtifact.Interaction.Fallible
import ConfigArtifact.Interaction.Pool
import Mathlib.Data.List.Forall2

/-! Programs that do not tell some replies apart.

Two environments may differ in the form of their replies only. A program that
goes on in one way after replies of either form runs alike in both, and so do
pools of such programs, interleaved in the same way.
-/

set_option autoImplicit false

namespace Interaction

/-- Which replies to a call are one answer in two forms. -/
abbrev Likeness (I : Interface) := (request : I.Call) → I.Reply request → I.Reply request → Prop

def Likeness.flip {I : Interface} (alike : Likeness I) : Likeness I :=
  fun request first second => alike request second first

/-- Whatever one environment does, the other does too, with a reply that is alike. -/
def Restates {I : Interface} {S : Type} (env other : Environment I S) (allowed : I.Call → Prop)
    (alike : Likeness I) : Prop :=
  ∀ request, allowed request → ∀ s first t, env request s first t →
    ∃ second, other request s second t ∧ alike request first second

/-- The same events but for the form of their replies. -/
inductive Event.Alike {I : Interface} {S : Type} (alike : Likeness I) : Event I S → Event I S → Prop
  | intro {before after : S} {request : I.Call} {first second : I.Reply request} :
      alike request first second →
      Event.Alike alike ⟨before, request, first, after⟩ ⟨before, request, second, after⟩

namespace Program

variable {I J : Interface} {A B S : Type} {allowed : I.Call → Prop} {alike : Likeness I}

/-- Every call the program can issue is allowed, and replies that are alike lead to one program. -/
def Blind (allowed : I.Call → Prop) (alike : Likeness I) : Program I A → Prop
  | .done _ => True
  | .call request resume => allowed request ∧
      (∀ first second, alike request first second → resume first = resume second) ∧
      ∀ reply, (resume reply).Blind allowed alike

theorem Blind.uses {program : Program I A} (blind : program.Blind allowed alike) :
    program.Uses allowed := by
  induction program with
  | done value => trivial
  | call request resume ih => exact ⟨blind.1, fun reply => ih reply (blind.2.2 reply)⟩

theorem Blind.flip {program : Program I A} (blind : program.Blind allowed alike) :
    program.Blind allowed alike.flip := by
  induction program with
  | done value => trivial
  | call request resume ih =>
    obtain ⟨permitted, one, rest⟩ := blind
    exact ⟨permitted, fun first second same => (one second first same).symm,
      fun reply => ih reply (rest reply)⟩

theorem Blind.bind {program : Program I A} {next : A → Program I B}
    (blind : program.Blind allowed alike) (rest : ∀ value, (next value).Blind allowed alike) :
    (program.bind next).Blind allowed alike := by
  induction program with
  | done value => exact rest value
  | call request resume ih =>
    obtain ⟨permitted, one, later⟩ := blind
    refine ⟨permitted, fun first second same => ?_, fun reply => ih reply (later reply)⟩
    exact congrArg (fun program => program.bind next) (one first second same)

theorem Blind.bind_returns {holds : A → Prop} {program : Program I A} {next : A → Program I B}
    (blind : program.Blind allowed alike) (returns : program.Returns holds)
    (rest : ∀ value, holds value → (next value).Blind allowed alike) :
    (program.bind next).Blind allowed alike := by
  induction program with
  | done value => exact rest value returns
  | call request resume ih =>
    obtain ⟨permitted, one, later⟩ := blind
    refine ⟨permitted, fun first second same => ?_, fun reply => ih reply (later reply) (returns reply)⟩
    exact congrArg (fun program => program.bind next) (one first second same)

theorem Blind.embed {embedding : I.Embedding J} {allowed : J.Call → Prop} {inner : Likeness I}
    {alike : Likeness J} {program : Program I A}
    (blind : program.Blind (fun request => allowed (embedding.call request)) inner)
    (covers : ∀ request first second, alike (embedding.call request) first second →
      inner request (embedding.reply request first) (embedding.reply request second)) :
    (program.embed embedding).Blind allowed alike := by
  induction program with
  | done value => trivial
  | call request resume ih =>
    obtain ⟨permitted, one, later⟩ := blind
    refine ⟨permitted, fun first second same => ?_, fun reply => ih _ (later _)⟩
    exact congrArg (fun program => program.embed embedding)
      (one _ _ (covers request first second same))

/-- A blind program runs in an environment that restates another as it does in that one. -/
theorem Blind.runs {env other : Environment I S} (restates : Restates env other allowed alike)
    {program : Program I A} (blind : program.Blind allowed alike) {s t : S} {value : A}
    (runs : program.Runs env s value t) : program.Runs other s value t := by
  induction program generalizing s with
  | done result => exact runs
  | call request resume ih =>
    obtain ⟨permitted, one, later⟩ := blind
    obtain ⟨first, middle, answered, rest⟩ := runs
    obtain ⟨second, answered, same⟩ := restates request permitted s first middle answered
    have rest := ih first (later first) rest
    rw [one first second same] at rest
    exact ⟨second, middle, answered, rest⟩

end Program

namespace Pool

variable {I : Interface} {S Q ι : Type} {F : Q → Type} [DecidableEq ι]
  {allowed : I.Call → Prop} {alike : Likeness I}

/-- Two pools in one state, with the same programs left, after the same events in either form. -/
structure Alike (alike : Likeness I) (pool other : Pool I S Q F ι) : Prop where
  state : other.state = pool.state
  threads : other.threads = pool.threads
  log : List.Forall₂ (fun entry later => entry.1 = later.1 ∧ Event.Alike alike entry.2 later.2)
    pool.log other.log

/-- Every program of the pool is blind. -/
def Blind (pool : Pool I S Q F ι) (allowed : I.Call → Prop) (alike : Likeness I) : Prop :=
  ∀ i request program, pool.threads i = some ⟨request, program⟩ → program.Blind allowed alike

variable {service : Service I S Q F} {pool next other : Pool I S Q F ι}

omit [DecidableEq ι] in
theorem alike_initial (s : S) : Alike alike (initial s : Pool I S Q F ι) (initial s) :=
  ⟨rfl, rfl, .nil⟩

theorem Blind.step (bodies : ∀ request, (service.body request).Blind allowed alike)
    (blind : pool.Blind allowed alike) (step : Step service pool next) :
    next.Blind allowed alike := by
  cases step with
  | start idle admitted =>
    intro j other program selected
    rw [launch_threads] at selected
    split at selected
    · cases selected
      exact bodies _
    · exact blind j other program selected
  | run selected answered =>
    intro j other program served
    rw [advance_threads] at served
    split at served
    · cases served
      exact (blind _ _ _ selected).2.2 _
    · exact blind j other program served

theorem Blind.steps (bodies : ∀ request, (service.body request).Blind allowed alike)
    (blind : pool.Blind allowed alike) (steps : Steps service pool next) :
    next.Blind allowed alike := by
  induction steps with
  | refl => exact blind
  | tail _ step ih => exact ih.step bodies step

/-- A step of one pool is matched by a step of the other. -/
theorem Alike.step {env : Environment I S} (restates : Restates service.env env allowed alike)
    (same : Alike alike pool other) (blind : pool.Blind allowed alike) (step : Step service pool next) :
    ∃ later, Step { service with env } other later ∧ Alike alike next later := by
  obtain ⟨state, threads, log⟩ := pool
  obtain ⟨state', threads', log'⟩ := other
  obtain ⟨rfl, rfl, logs⟩ := same
  cases step with
  | start idle admitted => exact ⟨_, .start idle admitted, rfl, rfl, logs⟩
  | @run i request call resume first after selected answered =>
    -- The client goes on in the same way with either form of the reply.
    obtain ⟨permitted, one, -⟩ := blind _ _ _ selected
    obtain ⟨second, answered, alike⟩ := restates call permitted _ first after answered
    refine ⟨_, .run selected answered, rfl, ?_, ?_⟩
    · unfold advance
      dsimp only
      rw [one first second alike]
    · exact List.rel_append logs (.cons ⟨rfl, .intro alike⟩ .nil)

/-- Any schedule of one pool is a schedule of the other. -/
theorem Alike.steps {env : Environment I S} (restates : Restates service.env env allowed alike)
    (bodies : ∀ request, (service.body request).Blind allowed alike)
    (same : Alike alike pool other) (blind : pool.Blind allowed alike) (steps : Steps service pool next) :
    ∃ later, Steps { service with env } other later ∧ Alike alike next later := by
  induction steps with
  | refl => exact ⟨other, .refl, same⟩
  | tail earlier step ih =>
    obtain ⟨later, matched, same⟩ := ih
    obtain ⟨last, more, same⟩ := same.step restates (blind.steps bodies earlier) step
    exact ⟨last, matched.tail more, same⟩

end Pool

namespace Fallible

variable {I : Interface} {E A B : Type} {allowed : I.Call → Prop} {alike : Likeness I}

theorem blind_bind {body : Fallible I E A} {next : A → Fallible I E B}
    (blind : body.run.Blind allowed alike) (rest : ∀ value, (next value).run.Blind allowed alike) :
    (body >>= next).run.Blind allowed alike := by
  rw [run_bind]
  apply blind.bind
  intro result
  cases result with
  | ok value => exact rest value
  | error error => trivial

theorem blind_bind_returns {holds : A → Prop} {body : Fallible I E A} {next : A → Fallible I E B}
    (blind : body.run.Blind allowed alike) (returns : body.run.Returns (Returning holds))
    (rest : ∀ value, holds value → (next value).run.Blind allowed alike) :
    (body >>= next).run.Blind allowed alike := by
  rw [run_bind]
  apply blind.bind_returns returns
  intro result holding
  cases result with
  | ok value => exact rest value holding
  | error error => trivial

theorem blind_settle_bind {result : Except E A} {next : A → Fallible I E B}
    (rest : ∀ value, result = .ok value → (next value).run.Blind allowed alike) :
    (settle result >>= next).run.Blind allowed alike := by
  rw [run_settle_bind]
  cases result with
  | ok value => exact rest value rfl
  | error error => trivial

theorem blind_attempt_bind {body : Fallible I E A} {next : Except E A → Fallible I E B}
    (blind : body.run.Blind allowed alike) (rest : ∀ result, (next result).run.Blind allowed alike) :
    (attempt body >>= next).run.Blind allowed alike := by
  rw [run_attempt_bind]
  exact blind.bind rest

theorem blind_ensuring {body : Fallible I E A} {finalizer : Fallible I E Unit}
    (blind : body.run.Blind allowed alike) (final : finalizer.run.Blind allowed alike) :
    (ensuring body finalizer).run.Blind allowed alike := by
  rw [run_ensuring]
  apply blind.bind
  intro result
  apply final.bind
  intro ended
  cases ended <;> trivial

section

variable {Call : Type} {Result : Call → Type} {permitted : Call → Prop}
  {form : Likeness (.fallible Call Result E)} {request : Call}

/-- A call whose reply has one form only. -/
theorem blind_invoke (issued : permitted request)
    (one : ∀ first second, form request first second → first = second) :
    @Program.Blind (.fallible Call Result E) _ permitted form
      (invoke request : Fallible (.fallible Call Result E) E (Result request)).run :=
  ⟨issued, fun first second same => congrArg Program.done (one first second same), fun _ => trivial⟩

/-- A call whose reply is read at once, in whatever form it comes. -/
theorem blind_read {read : Except E (Result request) → Except E A} (issued : permitted request)
    (one : ∀ first second, form request first second → read first = read second) :
    @Program.Blind (.fallible Call Result E) _ permitted form
      (.call request fun reply => .done (read reply)) :=
  ⟨issued, fun first second same => congrArg Program.done (one first second same), fun _ => trivial⟩

/-- Faults are the same faults in either form. -/
theorem restates_interrupted {S : Type} {env other : Environment (.fallible Call Result E) S}
    (restates : Restates env other permitted form)
    (errors : ∀ request error, form request (.error error) (.error error)) :
    Restates env.interrupted other.interrupted permitted form := by
  intro request issued s first t answered
  rcases answered with answered | ⟨error, rfl, effect⟩
  · obtain ⟨second, answered, same⟩ := restates request issued s first t answered
    exact ⟨second, .inl answered, same⟩
  · refine ⟨.error error, .inr ⟨error, rfl, effect.imp id ?_⟩, errors request error⟩
    rintro ⟨reply, answered⟩
    obtain ⟨second, answered, -⟩ := restates request issued s reply t answered
    exact ⟨second, answered⟩

end

end Fallible

end Interaction
