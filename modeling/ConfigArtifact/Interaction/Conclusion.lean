import ConfigArtifact.Interaction.Fallible
import ConfigArtifact.Interaction.Trace

/-! Programs whose replies are true.

A program draws its conclusions from the replies to its own calls. If each of
them is true, in a sense chosen once for the whole run, what the program goes on
to ask for and what it returns follow without a word about the state or about
the others.
-/

set_option autoImplicit false

namespace Interaction

/-- Which replies to a call are true. -/
abbrev Truth (I : Interface) := (request : I.Call) → I.Reply request → Prop

namespace Program

variable {I J : Interface} {A B S : Type} {told : Truth I} {permitted : I.Call → Prop}
  {holds : A → Prop} {ends : B → Prop}

/-- As long as its replies are true, a program only issues permitted calls, and what it returns
satisfies this. -/
def Concludes (told : Truth I) (permitted : I.Call → Prop) (holds : A → Prop) :
    Program I A → Prop
  | .done value => holds value
  | .call request resume => permitted request ∧
      ∀ reply, told request reply → (resume reply).Concludes told permitted holds

theorem Concludes.bind {program : Program I A} {next : A → Program I B}
    (concludes : program.Concludes told permitted holds)
    (rest : ∀ value, holds value → (next value).Concludes told permitted ends) :
    (program.bind next).Concludes told permitted ends := by
  induction program with
  | done value => exact rest value concludes
  | call request resume ih =>
    exact ⟨concludes.1, fun reply truth => ih reply (concludes.2 reply truth)⟩

theorem Concludes.mono {weaker : A → Prop} {program : Program I A}
    (concludes : program.Concludes told permitted holds)
    (implies : ∀ value, holds value → weaker value) :
    program.Concludes told permitted weaker := by
  induction program with
  | done value => exact implies value concludes
  | call request resume ih =>
    exact ⟨concludes.1, fun reply truth => ih reply (concludes.2 reply truth)⟩

theorem Concludes.narrow {known : Truth I} {program : Program I A}
    (concludes : program.Concludes told permitted holds)
    (covers : ∀ request reply, known request reply → told request reply) :
    program.Concludes known permitted holds := by
  induction program with
  | done value => exact concludes
  | call request resume ih =>
    exact ⟨concludes.1, fun reply truth => ih reply (concludes.2 reply (covers request reply truth))⟩

/-- What a program may issue whatever it is answered, it may issue after true replies. -/
theorem Uses.concludes {program : Program I A} (uses : program.Uses permitted) :
    program.Concludes told permitted fun _ => True := by
  induction program with
  | done value => trivial
  | call request resume ih => exact ⟨uses.1, fun reply _ => ih reply (uses.2 reply)⟩

theorem concludes_any (program : Program I A) :
    program.Concludes told (fun _ => True) fun _ => True := by
  induction program with
  | done value => trivial
  | call request resume ih => exact ⟨trivial, fun reply _ => ih reply⟩

end Program

namespace Pool

variable {I : Interface} {S Q ι : Type} {F : Q → Type} [DecidableEq ι] {service : Service I S Q F}
  {told : Truth I} {permitted : I.Call → Prop} {holds : (request : Q) → F request → Prop}

/-- A client that has been told the truth has only issued permitted calls, and what is left of its
program goes on concluding. -/
theorem concludes_of_reachable {s : S} {pool : Pool I S Q F ι}
    (reachable : Reachable service s pool) {i : ι} {request : Q} {program : Program I (F request)}
    (selected : pool.threads i = some ⟨request, program⟩)
    (body : (service.body request).Concludes told permitted (holds request))
    (truths : ∀ event ∈ pool.history i, told event.request event.reply) :
    program.Concludes told permitted (holds request) ∧
      ∀ event ∈ pool.history i, permitted event.request := by
  induction reachable generalizing program with
  | refl => cases selected
  | tail earlier step ih =>
    cases step with
    | @start j other unstarted admitted =>
      rw [launch_threads] at selected
      rw [launch_history] at truths ⊢
      split at selected
      · next same =>
        subst same
        cases selected
        rw [idle_of_reachable earlier i unstarted]
        exact ⟨body, fun event member => by cases member⟩
      · exact ih selected truths
    | @run j other call resume reply after running answered =>
      rw [advance_threads] at selected
      rw [advance_history] at truths ⊢
      split at selected
      · next same =>
        subst same
        cases selected
        rw [if_pos rfl] at truths ⊢
        -- The reply is true, so what is left concludes, and the call was permitted.
        obtain ⟨concludes, issued⟩ := ih running fun event member =>
          truths event (List.mem_append_left _ member)
        refine ⟨concludes.2 reply (truths _ (List.mem_append_right _ List.mem_cons_self)), ?_⟩
        intro event member
        rcases List.mem_append.mp member with member | member
        · exact issued event member
        · obtain rfl := List.mem_singleton.mp member
          exact concludes.1
      · next different =>
        rw [if_neg different, List.append_nil] at truths ⊢
        exact ih selected truths

/-- A client has only issued calls that the program of its request may issue. -/
theorem issued_of_reachable {s : S} {pool : Pool I S Q F ι} (reachable : Reachable service s pool)
    {i : ι} {request : Q} {program : Program I (F request)}
    (selected : pool.threads i = some ⟨request, program⟩)
    (uses : (service.body request).Uses permitted) :
    ∀ event ∈ pool.history i, permitted event.request := by
  let all : (request : Q) → F request → Prop := fun _ _ => True
  have body : (service.body request).Concludes (fun _ _ => True) permitted (all request) :=
    uses.concludes
  exact (concludes_of_reachable reachable selected body fun _ _ => trivial).2

end Pool

namespace Fallible

variable {I : Interface} {E A B : Type} {told : Truth I} {permitted : I.Call → Prop}
  {holds : Except E A → Prop} {ends : Except E B → Prop}

theorem concludes_bind {body : Fallible I E A} {next : A → Fallible I E B}
    (concludes : body.run.Concludes told permitted holds)
    (fails : ∀ error, holds (.error error) → ends (.error error))
    (rest : ∀ value, holds (.ok value) → (next value).run.Concludes told permitted ends) :
    (body >>= next).run.Concludes told permitted ends := by
  rw [run_bind]
  apply concludes.bind
  intro result holding
  cases result with
  | ok value => exact rest value holding
  | error error => exact fails error holding

theorem concludes_settle_bind {result : Except E A} {next : A → Fallible I E B}
    (fails : ∀ error, result = .error error → ends (.error error))
    (rest : ∀ value, result = .ok value → (next value).run.Concludes told permitted ends) :
    (settle result >>= next).run.Concludes told permitted ends := by
  rw [run_settle_bind]
  cases result with
  | ok value => exact rest value rfl
  | error error => exact fails error rfl

theorem concludes_attempt_bind {body : Fallible I E A} {next : Except E A → Fallible I E B}
    (concludes : body.run.Concludes told permitted holds)
    (rest : ∀ result, holds result → (next result).run.Concludes told permitted ends) :
    (attempt body >>= next).run.Concludes told permitted ends := by
  rw [run_attempt_bind]
  exact concludes.bind rest

/-- A finalizer is run after any result, and only its own error takes the place of the result. -/
theorem concludes_ensuring {ended : Except E Unit → Prop} {body : Fallible I E A}
    {finalizer : Fallible I E Unit} (concludes : body.run.Concludes told permitted holds)
    (final : finalizer.run.Concludes told permitted ended)
    (fails : ∀ error, ended (.error error) → holds (.error error)) :
    (ensuring body finalizer).run.Concludes told permitted holds := by
  rw [run_ensuring]
  apply concludes.bind
  intro result holding
  apply final.bind
  intro last ending
  cases last with
  | ok value => exact holding
  | error error => exact fails error ending

end Fallible

end Interaction
