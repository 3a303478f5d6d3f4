import ConfigArtifact.Interaction.Conclusion

/-! Programs whose end is decided by which replies they get.

Some replies are tolerated, the others spoil what follows. A program that was told
the truth ends well as long as every reply is tolerated, and ends badly once one is
not, so that its end tells which of the two has happened.
-/

set_option autoImplicit false

namespace Interaction

namespace Program

variable {I : Interface} {A B : Type} {told tolerated : Truth I} {well badly : A → Prop}
  {good bad : B → Prop}

/-- Told the truth, a program ends well when all of its replies are tolerated, and badly after one
that is not. -/
def Decides (told tolerated : Truth I) (well badly : A → Prop) : Program I A → Prop
  | .done value => well value
  | .call request resume => ∀ reply, told request reply →
      (tolerated request reply → (resume reply).Decides told tolerated well badly) ∧
        (¬tolerated request reply → (resume reply).Concludes told (fun _ => True) badly)

theorem Decides.bind {program : Program I A} {next : A → Program I B}
    (decides : program.Decides told tolerated well badly)
    (rest : ∀ value, well value → (next value).Decides told tolerated good bad)
    (spoils : ∀ value, badly value → (next value).Concludes told (fun _ => True) bad) :
    (program.bind next).Decides told tolerated good bad := by
  induction program with
  | done value => exact rest value decides
  | call request resume ih =>
    intro reply truth
    obtain ⟨goes, spoiled⟩ := decides reply truth
    exact ⟨fun fine => ih reply (goes fine), fun broken => (spoiled broken).bind spoils⟩

theorem Decides.mono {weaker : A → Prop} {program : Program I A}
    (decides : program.Decides told tolerated well badly)
    (implies : ∀ value, well value → weaker value) :
    program.Decides told tolerated weaker badly := by
  induction program with
  | done value => exact implies value decides
  | call request resume ih =>
    intro reply truth
    obtain ⟨goes, spoiled⟩ := decides reply truth
    exact ⟨fun fine => ih reply (goes fine), spoiled⟩

end Program

namespace Pool

variable {I : Interface} {S Q ι : Type} {F : Q → Type} [DecidableEq ι] {service : Service I S Q F}
  {told tolerated : Truth I}

/-- A client that was told the truth goes on deciding while its replies have been tolerated, and only
ends badly once one has not. -/
theorem decides_of_reachable {s : S} {pool : Pool I S Q F ι} (reachable : Reachable service s pool)
    {i : ι} {request : Q} {program : Program I (F request)} {well badly : F request → Prop}
    (selected : pool.threads i = some ⟨request, program⟩)
    (body : (service.body request).Decides told tolerated well badly)
    (truths : ∀ event ∈ pool.history i, told event.request event.reply) :
    ((∀ event ∈ pool.history i, tolerated event.request event.reply) →
      program.Decides told tolerated well badly) ∧
    ((∃ event ∈ pool.history i, ¬tolerated event.request event.reply) →
      program.Concludes told (fun _ => True) badly) := by
  induction reachable generalizing program with
  | refl => cases selected
  | @tail middle _ earlier step ih =>
    cases step with
    | @start j other unstarted admitted =>
      rw [launch_threads] at selected
      rw [launch_history] at truths ⊢
      split at selected
      · next same =>
        subst same
        cases selected
        rw [idle_of_reachable earlier i unstarted]
        exact ⟨fun _ => body, fun ⟨_, member, _⟩ => by cases member⟩
      · exact ih selected truths
    | @run j other call resume reply after running answered =>
      rw [advance_threads] at selected
      rw [advance_history] at truths ⊢
      split at selected
      · next same =>
        subst same
        cases selected
        rw [if_pos rfl] at truths ⊢
        obtain ⟨decides, spoiled⟩ := ih running fun event member =>
          truths event (List.mem_append_left _ member)
        have truth := truths _ (List.mem_append_right _ List.mem_cons_self)
        refine ⟨fun fine => ?_, fun broken => ?_⟩
        · have before := decides fun event member => fine event (List.mem_append_left _ member)
          exact (before reply truth).1 (fine _ (List.mem_append_right _ List.mem_cons_self))
        · by_cases earlier : ∃ event ∈ middle.history i, ¬tolerated event.request event.reply
          · exact (spoiled earlier).2 reply truth
          · -- This call is the first whose reply is not tolerated.
            simp only [not_exists, not_and, not_not] at earlier
            obtain ⟨event, member, broken⟩ := broken
            rcases List.mem_append.mp member with member | member
            · exact absurd (earlier event member) broken
            · obtain rfl := List.mem_singleton.mp member
              exact (decides earlier reply truth).2 broken
      · next different =>
        rw [if_neg different, List.append_nil] at truths ⊢
        exact ih selected truths

end Pool

namespace Fallible

variable {I : Interface} {E A B : Type} {told tolerated : Truth I} {kind : E → Bool}
  {well : Except E A → Prop} {good : Except E B → Prop}

/-- The result is an error of a kind. -/
def Aborts (kind : E → Bool) (result : Except E A) : Prop :=
  ∃ error, result = .error error ∧ kind error = true

theorem decides_bind {body : Fallible I E A} {next : A → Fallible I E B}
    (decides : body.run.Decides told tolerated well (Aborts kind))
    (fails : ∀ error, well (.error error) → good (.error error))
    (rest : ∀ value, well (.ok value) → (next value).run.Decides told tolerated good (Aborts kind)) :
    (body >>= next).run.Decides told tolerated good (Aborts kind) := by
  rw [run_bind]
  apply decides.bind
  · intro result holding
    cases result with
    | ok value => exact rest value holding
    | error error => exact fails error holding
  · rintro _ ⟨error, rfl, known⟩
    exact ⟨error, rfl, known⟩

theorem decides_settle_bind {result : Except E A} {next : A → Fallible I E B}
    (fails : ∀ error, result = .error error → good (.error error))
    (rest : ∀ value, result = .ok value →
      (next value).run.Decides told tolerated good (Aborts kind)) :
    (settle result >>= next).run.Decides told tolerated good (Aborts kind) := by
  rw [run_settle_bind]
  cases result with
  | ok value => exact rest value rfl
  | error error => exact fails error rfl

theorem decides_attempt_bind {body : Fallible I E A} {next : Except E A → Fallible I E B}
    {badly : Except E A → Prop} {bad : Except E B → Prop}
    (decides : body.run.Decides told tolerated well badly)
    (rest : ∀ result, well result → (next result).run.Decides told tolerated good bad)
    (spoils : ∀ result, badly result → (next result).run.Concludes told (fun _ => True) bad) :
    (attempt body >>= next).run.Decides told tolerated good bad := by
  rw [run_attempt_bind]
  exact decides.bind rest spoils

/-- A finalizer whose reply is not tolerated spoils any result. -/
theorem decides_ensuring {body : Fallible I E A} {finalizer : Fallible I E Unit}
    (decides : body.run.Decides told tolerated well (Aborts kind))
    (final : finalizer.run.Decides told tolerated (fun result => result = .ok ()) (Aborts kind))
    (raises : finalizer.run.Concludes told (fun _ => True) fun result =>
      result = .ok () ∨ Aborts kind result) :
    (ensuring body finalizer).run.Decides told tolerated well (Aborts kind) := by
  rw [run_ensuring]
  apply decides.bind
  · intro result holding
    apply final.bind
    · rintro _ rfl
      exact holding
    · rintro _ ⟨error, rfl, known⟩
      exact ⟨error, rfl, known⟩
  · rintro result aborts
    apply raises.bind
    rintro _ (rfl | ⟨error, rfl, known⟩)
    · exact aborts
    · exact ⟨error, rfl, known⟩

end Fallible

end Interaction
