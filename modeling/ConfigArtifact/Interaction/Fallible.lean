import ConfigArtifact.Interaction.Safety

/-! Programs that may raise.

A fallible program returns either a value or an exception. The combinators are
those of exceptional code: raising, attempting a body to inspect its exception,
and running a finalizer on every exit. Faulty and arbitrary environments are
derived from a conforming one when every reply may itself be an exception.
-/

set_option autoImplicit false

namespace Interaction

/-- An interface whose every reply may be an exception. -/
abbrev Interface.fallible (Call : Type) (Result : Call → Type) (E : Type) : Interface :=
  ⟨Call, fun request => Except E (Result request)⟩

abbrev Fallible (I : Interface) (E A : Type) := ExceptT E (Program I) A

namespace Fallible

variable {I J : Interface} {E A B S : Type}

def settle (result : Except E A) : Fallible I E A := ExceptT.mk (.done result)

/-- Issue one call; an exceptional reply is raised. -/
def invoke {Call : Type} {Result : Call → Type} (request : Call) :
    Fallible (.fallible Call Result E) E (Result request) :=
  ExceptT.mk (@Program.perform (.fallible Call Result E) request)

/-- Run a body and return how it ended instead of raising. -/
def attempt (body : Fallible I E A) : Fallible I E (Except E A) :=
  ExceptT.mk (body.run.bind fun result => .done (.ok result))

/-- Run the finalizer whichever way the body ended; its exception replaces the body's outcome. -/
def ensuring (body : Fallible I E A) (finalizer : Fallible I E Unit) : Fallible I E A :=
  ExceptT.mk (body.run.bind fun result => finalizer.run.bind fun
    | .ok _ => .done result
    | .error error => .done (.error error))

def embed (embedding : I.Embedding J) (body : Fallible I E A) : Fallible J E A :=
  ExceptT.mk (body.run.embed embedding)

@[simp] theorem run_settle (result : Except E A) :
    (settle result : Fallible I E A).run = .done result := rfl

@[simp] theorem run_pure (value : A) : (pure value : Fallible I E A).run = .done (.ok value) := rfl

@[simp] theorem run_throw (error : E) :
    (throw error : Fallible I E A).run = .done (.error error) := rfl

@[simp] theorem run_invoke {Call : Type} {Result : Call → Type} (request : Call) :
    (invoke request : Fallible (.fallible Call Result E) E (Result request)).run =
      @Program.perform (.fallible Call Result E) request := rfl

@[simp] theorem run_attempt (body : Fallible I E A) :
    (attempt body).run = body.run.bind fun result => .done (.ok result) := rfl

@[simp] theorem run_embed (embedding : I.Embedding J) (body : Fallible I E A) :
    (embed embedding body).run = body.run.embed embedding := rfl

/-- What follows a value; an exception is passed on. -/
def andThen (next : A → Fallible I E B) : Except E A → Program I (Except E B)
  | .ok value => (next value).run
  | .error error => .done (.error error)

@[simp] theorem andThen_ok (next : A → Fallible I E B) (value : A) :
    andThen next (.ok value) = (next value).run := rfl

@[simp] theorem andThen_error (next : A → Fallible I E B) (error : E) :
    andThen next (.error error) = .done (.error error) := rfl

theorem run_bind (body : Fallible I E A) (next : A → Fallible I E B) :
    (body >>= next).run = body.run.bind (andThen next) := by
  show body.run.bind _ = _
  congr 1

theorem run_ensuring (body : Fallible I E A) (finalizer : Fallible I E Unit) :
    (ensuring body finalizer).run = body.run.bind fun result =>
      finalizer.run.bind (andThen fun _ => settle result) := by
  show body.run.bind _ = _
  congr 1
  funext result
  congr 1
  funext ended
  cases ended <;> rfl

@[simp] theorem settle_ok (value : A) : (settle (.ok value) : Fallible I E A) = pure value := rfl

@[simp] theorem settle_error (error : E) :
    (settle (.error error) : Fallible I E A) = throw error := rfl

theorem run_settle_bind (result : Except E A) (next : A → Fallible I E B) :
    (settle result >>= next).run = andThen next result := by
  rw [run_bind, run_settle, Program.done_bind]

theorem run_attempt_bind (body : Fallible I E A) (next : Except E A → Fallible I E B) :
    (attempt body >>= next).run = body.run.bind fun result => (next result).run := by
  rw [run_bind, run_attempt, Program.bind_assoc]
  rfl

/-- A body followed by what its result leads to. -/
theorem runs_then {env : Environment I S} {body : Fallible I E A} {next : A → Fallible I E B}
    {s t : S} {result : Except E B} (runs : (body >>= next).run.Runs env s result t) :
    ∃ first u, body.run.Runs env s first u ∧ (andThen next first).Runs env u result t := by
  rw [run_bind] at runs
  exact (Program.runs_bind env _ _ _ _ _).mp runs

theorem runs_settle {env : Environment I S} {checked : Except E A} {next : A → Fallible I E B}
    {s t : S} {result : Except E B} (runs : (settle checked >>= next).run.Runs env s result t) :
    (andThen next checked).Runs env s result t := by
  rwa [run_settle_bind] at runs

/-- A body that is attempted, and what is made of the way it ended. -/
theorem runs_attempt {env : Environment I S} {body : Fallible I E A}
    {next : Except E A → Fallible I E B} {s t : S} {result : Except E B}
    (runs : (attempt body >>= next).run.Runs env s result t) :
    ∃ ended u, body.run.Runs env s ended u ∧ (next ended).run.Runs env u result t := by
  rw [run_attempt_bind] at runs
  exact (Program.runs_bind env _ _ _ _ _).mp runs

/-- A body and its finalizer. -/
theorem runs_ensuring {env : Environment I S} {body : Fallible I E A}
    {finalizer : Fallible I E Unit} {s t : S} {result : Except E A}
    (runs : (ensuring body finalizer).run.Runs env s result t) :
    ∃ ended u final, body.run.Runs env s ended u ∧ finalizer.run.Runs env u final t ∧
      result = final >>= fun _ => ended := by
  rw [run_ensuring] at runs
  obtain ⟨ended, u, body, runs⟩ := (Program.runs_bind env _ _ _ _ _).mp runs
  obtain ⟨final, v, finalizes, runs⟩ := (Program.runs_bind env _ _ _ _ _).mp runs
  refine ⟨ended, u, final, body, ?_⟩
  cases final with
  | ok value =>
    obtain ⟨rfl, rfl⟩ := runs
    exact ⟨finalizes, rfl⟩
  | error error =>
    obtain ⟨rfl, rfl⟩ := runs
    exact ⟨finalizes, rfl⟩

section

variable {D : Discipline S} {env : Environment I S} {history : List (Event I S)} {s : S}

/-- A body of one call, which reads its reply, followed by what its result leads to. -/
theorem safe_call {post : Postcondition I S B} {body : Fallible I E A}
    {request : I.Call} {read : I.Reply request → Except E A} {next : Except E A → Program I B}
    (single : body.run = .call request fun reply => .done (read reply))
    (steps : ∀ t, D.rely s t → D.invariant t → ∀ reply u, env request t reply u →
      D.invariant u ∧ D.guarantee t u ∧
        (next (read reply)).Safe D env post (history ++ [⟨t, request, reply, u⟩]) u) :
    (body.run.bind next).Safe D env post history s := by
  rw [single]
  exact steps

theorem uses_bind {allowed : I.Call → Prop} {body : Fallible I E A} {next : A → Fallible I E B}
    (uses : body.run.Uses allowed) (rest : ∀ value, (next value).run.Uses allowed) :
    (body >>= next).run.Uses allowed := by
  rw [run_bind]
  refine uses.bind fun result => ?_
  cases result with
  | ok value => exact rest value
  | error error => trivial

theorem uses_ensuring {allowed : I.Call → Prop} {body : Fallible I E A}
    {finalizer : Fallible I E Unit} (uses : body.run.Uses allowed)
    (final : finalizer.run.Uses allowed) : (ensuring body finalizer).run.Uses allowed := by
  rw [run_ensuring]
  refine uses.bind fun result => final.bind fun ended => ?_
  cases ended <;> trivial

theorem uses_settle_bind {allowed : I.Call → Prop} {result : Except E A}
    {next : A → Fallible I E B} (rest : ∀ value, result = .ok value → (next value).run.Uses allowed) :
    (settle result >>= next).run.Uses allowed := by
  rw [run_settle_bind]
  cases result with
  | ok value => exact rest value rfl
  | error error => trivial

theorem uses_attempt_bind {allowed : I.Call → Prop} {body : Fallible I E A}
    {next : Except E A → Fallible I E B} (uses : body.run.Uses allowed)
    (rest : ∀ result, (next result).run.Uses allowed) :
    (attempt body >>= next).run.Uses allowed := by
  rw [run_attempt_bind]
  exact uses.bind rest

theorem uses_invoke {Call : Type} {Result : Call → Type}
    {allowed : (Interface.fallible Call Result E).Call → Prop} {request : Call}
    (permitted : allowed request) :
    (invoke request : Fallible (.fallible Call Result E) E (Result request)).run.Uses allowed :=
  ⟨permitted, fun _ => trivial⟩

theorem bounded_bind {limit more : Nat} {body : Fallible I E A} {next : A → Fallible I E B}
    (bounded : body.run.Bounded limit) (rest : ∀ value, (next value).run.Bounded more) :
    (body >>= next).run.Bounded (limit + more) := by
  rw [run_bind]
  refine bounded.bind fun result => ?_
  cases result with
  | ok value => exact rest value
  | error error => trivial

theorem bounded_settle_bind {limit : Nat} {result : Except E A} {next : A → Fallible I E B}
    (rest : ∀ value, (next value).run.Bounded limit) :
    (settle result >>= next).run.Bounded limit := by
  rw [run_settle_bind]
  cases result with
  | ok value => exact rest value
  | error error => trivial

theorem bounded_attempt_bind {limit more : Nat} {body : Fallible I E A}
    {next : Except E A → Fallible I E B} (bounded : body.run.Bounded limit)
    (rest : ∀ result, (next result).run.Bounded more) :
    (attempt body >>= next).run.Bounded (limit + more) := by
  rw [run_attempt_bind]
  exact bounded.bind rest

theorem bounded_invoke {Call : Type} {Result : Call → Type} (request : Call) :
    (invoke request : Fallible (.fallible Call Result E) E (Result request)).run.Bounded 1 :=
  ⟨0, rfl, fun _ => trivial⟩

/-- What a value that a body may return satisfies. -/
def Returning (holds : A → Prop) : Except E A → Prop
  | .ok value => holds value
  | .error _ => True

/-- What a body returns is what its last part returns. -/
theorem returns_bind {holds : B → Prop} {body : Fallible I E A} {next : A → Fallible I E B}
    (rest : ∀ value, (next value).run.Returns (Returning holds)) :
    (body >>= next).run.Returns (Returning holds) := by
  rw [run_bind]
  have any : body.run.Returns fun _ => True := by
    induction body.run with
    | done result => trivial
    | call request resume ih => exact fun reply => ih reply
  refine any.bind fun result _ => ?_
  cases result with
  | ok value => exact rest value
  | error error => trivial

theorem returns_settle {holds : A → Prop} {result : Except E A}
    (holding : ∀ value, result = .ok value → holds value) :
    (settle result : Fallible I E A).run.Returns (Returning holds) := by
  cases result with
  | ok value => exact holding value rfl
  | error error => trivial

end

end Fallible

/-- One answered call. -/
structure Exchange (Call : Type) (Result : Call → Type) (E : Type) where
  request : Call
  reply : Except E (Result request)

namespace Environment

variable {Call : Type} {Result : Call → Type} {E S : Type}

/-- A call may also fail without effect, or take effect and then report an exception. -/
def interrupted (env : Environment (.fallible Call Result E) S) :
    Environment (.fallible Call Result E) S := fun request before reply after =>
  env request before reply after ∨
    ∃ error, reply = .error error ∧ (after = before ∨ ∃ other, env request before other after)

/-- A call takes effect or not, and may be answered anything at all. -/
def unreliable (env : Environment (.fallible Call Result E) S) :
    Environment (.fallible Call Result E) S := fun request before _ after =>
  after = before ∨ ∃ other, env request before other after

/-- Every call is answered as permitted, and written down. -/
def logging (permits : (request : Call) → Except E (Result request) → Prop) :
    Environment (.fallible Call Result E) (List (Exchange Call Result E)) :=
  fun request before reply after => permits request reply ∧ after = before ++ [⟨request, reply⟩]

theorem unreliable_of_interrupted {env : Environment (.fallible Call Result E) S}
    {request : Call} {before after : S} {reply : Except E (Result request)}
    (answered : env.interrupted request before reply after) :
    env.unreliable request before reply after := by
  rcases answered with answered | ⟨error, -, effect⟩
  · exact Or.inr ⟨reply, answered⟩
  · exact effect

end Environment

end Interaction
