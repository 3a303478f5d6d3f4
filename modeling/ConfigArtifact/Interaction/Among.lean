import ConfigArtifact.Interaction.Conclusion

/-! Whole runs of one program while others move the state.

A run keeps the events of its own calls. Between two of them, before the first
and after the last, the state moves by a relation that stands for everybody else.
-/

set_option autoImplicit false

namespace Interaction.Program

variable {I : Interface} {A S : Type} {rely : S → S → Prop} {env : Environment I S}

/-- A complete execution of a program, with its own events, while others move the state. -/
def Among (rely : S → S → Prop) (env : Environment I S) :
    Program I A → S → List (Event I S) → A → S → Prop
  | .done value, before, own, result, after => own = [] ∧ value = result ∧ rely before after
  | .call request resume, before, own, result, after =>
    ∃ start reply middle rest, rely before start ∧ env request start reply middle ∧
      own = ⟨start, request, reply, middle⟩ :: rest ∧
      (resume reply).Among rely env middle rest result after

variable {program : Program I A} {s t : S} {own : List (Event I S)} {value : A}

theorem Among.mono {wider : Environment I S}
    (covers : ∀ request s reply t, env request s reply t → wider request s reply t)
    (among : program.Among rely env s own value t) : program.Among rely wider s own value t := by
  induction program generalizing s own with
  | done result => exact among
  | call request resume ih =>
    obtain ⟨start, reply, middle, rest, moved, answered, same, later⟩ := among
    exact ⟨start, reply, middle, rest, moved, covers _ _ _ _ answered, same, ih reply later⟩

/-- An execution that nobody disturbs is one among others. -/
theorem Runs.among (refl : ∀ s, rely s s) (runs : program.Runs env s value t) :
    ∃ own, program.Among rely env s own value t := by
  induction program generalizing s with
  | done result =>
    obtain ⟨rfl, rfl⟩ := runs
    exact ⟨[], rfl, rfl, refl s⟩
  | call request resume ih =>
    obtain ⟨reply, middle, answered, runs⟩ := runs
    obtain ⟨rest, later⟩ := ih reply runs
    exact ⟨_, s, reply, middle, rest, refl s, answered, rfl, later⟩

theorem Among.genuine (among : program.Among rely env s own value t) :
    ∀ event ∈ own, env event.request event.before event.reply event.after := by
  induction program generalizing s own with
  | done result =>
    obtain ⟨rfl, -⟩ := among
    exact fun event member => by cases member
  | call request resume ih =>
    obtain ⟨start, reply, middle, rest, -, answered, rfl, later⟩ := among
    intro event member
    rcases List.mem_cons.mp member with rfl | member
    · exact answered
    · exact ih reply later event member

/-- What others leave as it is and each of the events does, holds in the end. -/
theorem Among.keeps {holds : S → Prop} (among : program.Among rely env s own value t)
    (others : ∀ s t, rely s t → holds s → holds t)
    (steps : ∀ event ∈ own, holds event.before → holds event.after) (held : holds s) : holds t := by
  induction program generalizing s own with
  | done result =>
    obtain ⟨-, -, moved⟩ := among
    exact others s t moved held
  | call request resume ih =>
    obtain ⟨start, reply, middle, rest, moved, -, rfl, later⟩ := among
    refine ih reply later (fun event member => steps event (List.mem_cons_of_mem _ member)) ?_
    exact steps _ List.mem_cons_self (others s start moved held)

/-- Each event comes after the start and before the end. -/
theorem Among.within {related : S → S → Prop}
    (trans : ∀ {s t u}, related s t → related t u → related s u)
    (among : program.Among rely env s own value t) (others : ∀ s t, rely s t → related s t)
    (steps : ∀ event ∈ own, related event.before event.after) :
    related s t ∧ ∀ event ∈ own, related s event.before ∧ related event.after t := by
  induction program generalizing s own with
  | done result =>
    obtain ⟨rfl, -, moved⟩ := among
    exact ⟨others s t moved, fun event member => by cases member⟩
  | call request resume ih =>
    obtain ⟨start, reply, middle, rest, moved, -, rfl, later⟩ := among
    obtain ⟨onward, each⟩ := ih reply later fun event member =>
      steps event (List.mem_cons_of_mem _ member)
    have began := others s start moved
    have stepped := trans began (steps _ List.mem_cons_self)
    refine ⟨trans stepped onward, fun event member => ?_⟩
    rcases List.mem_cons.mp member with rfl | member
    · exact ⟨began, onward⟩
    · obtain ⟨before, after⟩ := each event member
      exact ⟨trans stepped before, after⟩

/-- As long as its replies are true, a run has only issued permitted calls, and its value is
concluded. -/
theorem Concludes.among {told : Truth I} {permitted : I.Call → Prop} {holds : A → Prop}
    (concludes : program.Concludes told permitted holds)
    (among : program.Among rely env s own value t)
    (truths : ∀ event ∈ own, told event.request event.reply) :
    holds value ∧ ∀ event ∈ own, permitted event.request := by
  induction program generalizing s own with
  | done result =>
    obtain ⟨rfl, rfl, -⟩ := among
    exact ⟨concludes, fun event member => by cases member⟩
  | call request resume ih =>
    obtain ⟨start, reply, middle, rest, -, -, rfl, later⟩ := among
    obtain ⟨holding, issued⟩ := ih reply (concludes.2 reply (truths _ List.mem_cons_self)) later
      fun event member => truths event (List.mem_cons_of_mem _ member)
    refine ⟨holding, fun event member => ?_⟩
    rcases List.mem_cons.mp member with rfl | member
    · exact concludes.1
    · exact issued event member

/-- A safe program keeps to its discipline as long as the others do. -/
theorem Safe.among {D : Discipline S} {post : Postcondition I S A} {history : List (Event I S)}
    (safe : program.Safe D env post history s) (kept : D.invariant s)
    (stable : ∀ s t, D.invariant s → D.rely s t → D.invariant t)
    (others : ∀ s t, rely s t → D.rely s t) (among : program.Among rely env s own value t) :
    D.invariant t ∧ (∀ event ∈ own, D.invariant event.before ∧ D.guarantee event.before event.after) ∧
      post (history ++ own) t value := by
  induction program generalizing history s own with
  | done result =>
    obtain ⟨rfl, rfl, moved⟩ := among
    have reached := stable s t kept (others s t moved)
    refine ⟨reached, (fun event member => by cases member), ?_⟩
    rw [List.append_nil]
    exact safe t (others s t moved) reached
  | call request resume ih =>
    obtain ⟨start, reply, middle, rest, moved, answered, rfl, later⟩ := among
    have began := stable s start kept (others s start moved)
    obtain ⟨invariant, guarantee, next⟩ :=
      safe start (others s start moved) began reply middle answered
    obtain ⟨reached, each, ends⟩ := ih reply next invariant later
    refine ⟨reached, fun event member => ?_, ?_⟩
    · rcases List.mem_cons.mp member with rfl | member
      · exact ⟨began, guarantee⟩
      · exact each event member
    · rwa [List.append_assoc] at ends

end Interaction.Program
