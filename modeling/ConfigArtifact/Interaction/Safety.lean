import ConfigArtifact.Interaction.Program

/-! Safety of one program among others.

Between two calls of the program the shared state may move by the discipline's
rely relation; every step the program takes itself must respect the guarantee
and keep the invariant. Postconditions see the program's own events, so they can
say which of the changes made to the state were its own.
-/

set_option autoImplicit false

namespace Interaction

/-- What a program may assume of the other programs, and what it must ensure. -/
structure Discipline (S : Type) where
  invariant : S → Prop
  rely : S → S → Prop
  guarantee : S → S → Prop
  refl : ∀ s, rely s s
  trans : ∀ {s t u}, rely s t → rely t u → rely s u

/-- The discipline of programs that all move the state by the same kind of steps. -/
def Discipline.ofSteps {S : Type} (invariant : S → Prop) (step : S → S → Prop) : Discipline S where
  invariant := invariant
  rely := Relation.ReflTransGen step
  guarantee := Relation.ReflTransGen step
  refl := fun _ => .refl
  trans := .trans

/-- The postcondition of a program: its own events, the current state, its value. -/
abbrev Postcondition (I : Interface) (S A : Type) := List (Event I S) → S → A → Prop

namespace Program

variable {I : Interface} {A B S : Type}

def Safe (D : Discipline S) (env : Environment I S) (post : Postcondition I S A) :
    Program I A → List (Event I S) → S → Prop
  | .done value, history, s => ∀ t, D.rely s t → D.invariant t → post history t value
  | .call request resume, history, s =>
    ∀ t, D.rely s t → D.invariant t → ∀ reply u, env request t reply u →
      D.invariant u ∧ D.guarantee t u ∧
        (resume reply).Safe D env post (history ++ [⟨t, request, reply, u⟩]) u

variable {D : Discipline S} {env : Environment I S} {post : Postcondition I S A}

theorem Safe.later {program : Program I A} {history : List (Event I S)} {s t : S}
    (safe : program.Safe D env post history s) (moved : D.rely s t) :
    program.Safe D env post history t := by
  cases program with
  | done value => exact fun u further kept => safe u (D.trans moved further) kept
  | call request resume => exact fun u further kept => safe u (D.trans moved further) kept

theorem Safe.weaken {other : Postcondition I S A} {program : Program I A}
    {history : List (Event I S)} {s : S} (safe : program.Safe D env post history s)
    (implies : ∀ history t value, D.invariant t → post history t value → other history t value) :
    program.Safe D env other history s := by
  induction program generalizing history s with
  | done value => exact fun t moved kept => implies history t value kept (safe t moved kept)
  | call request resume ih =>
    intro t moved kept reply u answered
    obtain ⟨invariant, guarantee, rest⟩ := safe t moved kept reply u answered
    exact ⟨invariant, guarantee, ih reply rest⟩

/-- A program that is safe in an environment is safe in any that answers less. -/
theorem Safe.narrow {narrower : Environment I S} {program : Program I A}
    {history : List (Event I S)} {s : S} (safe : program.Safe D env post history s)
    (covers : ∀ request s reply t, narrower request s reply t → env request s reply t) :
    program.Safe D narrower post history s := by
  induction program generalizing history s with
  | done value => exact safe
  | call request resume ih =>
    intro t moved kept reply u answered
    obtain ⟨invariant, guarantee, rest⟩ :=
      safe t moved kept reply u (covers request t reply u answered)
    exact ⟨invariant, guarantee, ih reply rest⟩

theorem Safe.and {other : Postcondition I S A} {program : Program I A}
    {history : List (Event I S)} {s : S} (first : program.Safe D env post history s)
    (second : program.Safe D env other history s) :
    program.Safe D env (fun history t value => post history t value ∧ other history t value)
      history s := by
  induction program generalizing history s with
  | done value => exact fun t moved kept => ⟨first t moved kept, second t moved kept⟩
  | call request resume ih =>
    intro t moved kept reply u answered
    obtain ⟨invariant, guarantee, rest⟩ := first t moved kept reply u answered
    exact ⟨invariant, guarantee, ih reply rest (second t moved kept reply u answered).2.2⟩

/-- Sequencing, as an equivalence, so that a goal about a sequence becomes one
about its first part. -/
theorem safe_bind {post : Postcondition I S B} {program : Program I A} {next : A → Program I B}
    {history : List (Event I S)} {s : S} (kept : D.invariant s) :
    (program.bind next).Safe D env post history s ↔
      program.Safe D env (fun history t value => (next value).Safe D env post history t)
        history s := by
  induction program generalizing history s with
  | done value =>
    exact ⟨fun safe t moved _ => safe.later moved, fun safe => safe s (D.refl s) kept⟩
  | call request resume ih =>
    constructor
    · intro safe t moved invariant reply u answered
      obtain ⟨after, guarantee, rest⟩ := safe t moved invariant reply u answered
      exact ⟨after, guarantee, (ih reply after).mp rest⟩
    · intro safe t moved invariant reply u answered
      obtain ⟨after, guarantee, rest⟩ := safe t moved invariant reply u answered
      exact ⟨after, guarantee, (ih reply after).mpr rest⟩

/-- A program whose every permitted call preserves the invariant and respects the
guarantee is safe whatever it does with the replies. -/
theorem Uses.safe {allowed : I.Call → Prop} {program : Program I A}
    (uses : program.Uses allowed)
    (steps : ∀ request, allowed request → ∀ t reply u, D.invariant t → env request t reply u →
      D.invariant u ∧ D.guarantee t u)
    (history : List (Event I S)) (s : S) :
    program.Safe D env (fun _ _ _ => True) history s := by
  induction program generalizing history s with
  | done value => exact fun _ _ _ => trivial
  | call request resume ih =>
    intro t _ kept reply u answered
    obtain ⟨invariant, guarantee⟩ := steps request uses.1 t reply u kept answered
    exact ⟨invariant, guarantee, ih reply (uses.2 reply) _ _⟩

/-- Until a program has finished, the state has moved by the rely relation. -/
theorem Safe.moved {program : Program I A} {history : List (Event I S)} {r s : S}
    (safe : program.Safe D env post history s)
    (guaranteed : ∀ t u, D.guarantee t u → D.rely t u) (since : D.rely r s) :
    program.Safe D env (fun final t value => post final t value ∧ D.rely r t) history s := by
  induction program generalizing history s with
  | done value => exact fun t later kept => ⟨safe t later kept, D.trans since later⟩
  | call request resume ih =>
    intro t later kept reply u answered
    obtain ⟨invariant, guarantee, rest⟩ := safe t later kept reply u answered
    have reached := D.trans since (D.trans later (guaranteed t u guarantee))
    exact ⟨invariant, guarantee, ih reply rest reached⟩

/-- A program that is safe on its own is safe after other events, of which its
postcondition says nothing. -/
theorem Safe.after {program : Program I A} {history : List (Event I S)} {s : S}
    (safe : program.Safe D env post history s) (front : List (Event I S)) :
    program.Safe D env (fun final t value => ∃ own, final = front ++ own ∧ post own t value)
      (front ++ history) s := by
  induction program generalizing history s with
  | done value => exact fun t moved kept => ⟨history, rfl, safe t moved kept⟩
  | call request resume ih =>
    intro t moved kept reply u answered
    obtain ⟨invariant, guarantee, rest⟩ := safe t moved kept reply u answered
    rw [List.append_assoc]
    exact ⟨invariant, guarantee, ih reply rest⟩

/-- An uninterrupted execution is one the others leave alone. -/
theorem Safe.runs {program : Program I A} {history : List (Event I S)} {s t : S} {value : A}
    (safe : program.Safe D env post history s) (kept : D.invariant s)
    (guaranteed : ∀ t u, D.guarantee t u → D.rely t u) (runs : program.Runs env s value t) :
    D.invariant t ∧ D.rely s t ∧ ∃ own, post (history ++ own) t value := by
  induction program generalizing history s with
  | done result =>
    obtain ⟨rfl, rfl⟩ := runs
    exact ⟨kept, D.refl s, [], by simpa using safe s (D.refl s) kept⟩
  | call request resume ih =>
    obtain ⟨reply, middle, answered, rest⟩ := runs
    obtain ⟨invariant, guarantee, later⟩ := safe s (D.refl s) kept reply middle answered
    obtain ⟨final, moved, own, holds⟩ := ih reply later invariant rest
    exact ⟨final, D.trans (guaranteed _ _ guarantee) moved, _ :: own, by simpa using holds⟩

end Program

end Interaction
