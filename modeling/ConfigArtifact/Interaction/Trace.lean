import ConfigArtifact.Interaction.Pool

/-! The log of a pool, read as the history of its state.

Each event of a log starts in the state that the one before it left. What holds
now and did not hold at first has therefore become true in one of the events.
-/

set_option autoImplicit false

namespace Interaction.Pool

variable {I : Interface} {S Q ι : Type} {A : Q → Type} [DecidableEq ι]

/-- The events lead from one state to another. -/
def Linked : S → List (ι × Event I S) → S → Prop
  | s, [], t => s = t
  | s, entry :: rest, t => entry.2.before = s ∧ Linked entry.2.after rest t

omit [DecidableEq ι] in
theorem linked_append {front rest : List (ι × Event I S)} {s t : S} :
    Linked s (front ++ rest) t ↔ ∃ middle, Linked s front middle ∧ Linked middle rest t := by
  induction front generalizing s with
  | nil => simp [Linked]
  | cons entry front ih => simp only [List.cons_append, Linked, ih, exists_and_left, and_assoc]

theorem linked_of_steps {service : Service I S Q A} {pool next : Pool I S Q A ι}
    (steps : Steps service pool next) :
    ∃ more, next.log = pool.log ++ more ∧ Linked pool.state more next.state := by
  induction steps with
  | refl => exact ⟨[], (List.append_nil _).symm, rfl⟩
  | @tail middle _ _ step ih =>
    obtain ⟨more, logged, linked⟩ := ih
    cases step with
    | start idle admitted => exact ⟨more, logged, linked⟩
    | @run i request call resume reply after selected answered =>
      refine ⟨more ++ [(i, ⟨middle.state, call, reply, after⟩)], ?_, ?_⟩
      · rw [advance_log, logged, List.append_assoc]
      · exact linked_append.mpr ⟨_, linked, rfl, rfl⟩

theorem linked_of_reachable {service : Service I S Q A} {s : S} {pool : Pool I S Q A ι}
    (reachable : Reachable service s pool) : Linked s pool.log pool.state := by
  obtain ⟨more, logged, linked⟩ := linked_of_steps reachable
  rw [logged]
  exact linked

omit [DecidableEq ι] in
/-- What has become true has become true in one of the events. -/
theorem Linked.becomes (holds : S → Prop) {log : List (ι × Event I S)} {s t : S}
    (linked : Linked s log t) (unheld : ¬holds s) (held : holds t) :
    ∃ early entry late, log = early ++ entry :: late ∧
      ¬holds entry.2.before ∧ holds entry.2.after := by
  induction log generalizing s with
  | nil =>
    obtain rfl : s = t := linked
    exact absurd held unheld
  | cons entry rest ih =>
    obtain ⟨rfl, linked⟩ := linked
    by_cases now : holds entry.2.after
    · exact ⟨[], entry, rest, rfl, unheld, now⟩
    · obtain ⟨early, other, late, rfl, before, after⟩ := ih linked now
      exact ⟨entry :: early, other, late, rfl, before, after⟩

/-- Events that lead from one state to another, each by a step of a relation. -/
structure Traced (related : S → S → Prop) (s : S) (log : List (ι × Event I S)) (t : S) : Prop where
  linked : Linked s log t
  each : ∀ entry ∈ log, related entry.2.before entry.2.after

section

variable {related : S → S → Prop} {s t : S} {log early late : List (ι × Event I S)}
  {entry : ι × Event I S}

omit [DecidableEq ι] in
theorem Traced.cons (traced : Traced related s (entry :: log) t) : s = entry.2.before ∧
    related entry.2.before entry.2.after ∧ Traced related entry.2.after log t := by
  obtain ⟨⟨same, linked⟩, each⟩ := traced
  refine ⟨same.symm, each entry List.mem_cons_self, linked, fun other member => ?_⟩
  exact each other (List.mem_cons_of_mem _ member)

omit [DecidableEq ι] in
theorem Traced.moved (refl : ∀ s, related s s)
    (trans : ∀ {s t u}, related s t → related t u → related s u) (traced : Traced related s log t) :
    related s t := by
  induction log generalizing s with
  | nil =>
    obtain rfl : s = t := traced.linked
    exact refl s
  | cons entry rest ih =>
    obtain ⟨rfl, first, later⟩ := traced.cons
    exact trans first (ih later)

omit [DecidableEq ι] in
theorem Traced.split (traced : Traced related s (early ++ entry :: late) t) :
    Traced related s early entry.2.before ∧ Traced related entry.2.after late t := by
  obtain ⟨middle, front, rfl, back⟩ := linked_append.mp traced.linked
  constructor
  · exact ⟨front, fun other member => traced.each other (List.mem_append_left _ member)⟩
  · exact ⟨back, fun other member =>
      traced.each other (List.mem_append_right _ (List.mem_cons_of_mem _ member))⟩

end

/-- What clients serve has been admitted. -/
theorem admitted_of_reachable {service : Service I S Q A} {s : S} {pool : Pool I S Q A ι}
    (reachable : Reachable service s pool) : ∀ i request program,
      pool.threads i = some ⟨request, program⟩ → ∃ t, service.admits t request := by
  induction reachable with
  | refl => exact fun _ _ _ selected => by cases selected
  | tail earlier step ih =>
    intro j other program selected
    cases step with
    | start unstarted admitted =>
      rw [launch_threads] at selected
      split at selected
      · cases selected
        exact ⟨_, admitted⟩
      · exact ih j other program selected
    | run running answered =>
      rw [advance_threads] at selected
      split at selected
      · next same =>
        subst same
        cases selected
        exact ih j _ _ running
      · exact ih j other program selected

/-- A client that serves nothing has made no call. -/
theorem idle_of_reachable {service : Service I S Q A} {s : S} {pool : Pool I S Q A ι}
    (reachable : Reachable service s pool) : ∀ i, pool.threads i = none → pool.history i = [] := by
  induction reachable with
  | refl => exact fun _ _ => rfl
  | tail _ step ih =>
    intro j none
    cases step with
    | start unstarted admitted =>
      rw [launch_threads] at none
      split at none
      · cases none
      · exact ih j none
    | run running answered =>
      rw [advance_threads] at none
      split at none
      · cases none
      · next different => rw [advance_history, if_neg different, ih j none, List.append_nil]

/-- A client makes no more calls than the program of its request may. -/
theorem bounded_of_reachable {service : Service I S Q A} {s : S} {pool : Pool I S Q A ι}
    (reachable : Reachable service s pool) : ∀ i request program limit,
      pool.threads i = some ⟨request, program⟩ → (service.body request).Bounded limit →
        ∃ left, program.Bounded left ∧ (pool.history i).length + left ≤ limit := by
  induction reachable with
  | refl => exact fun _ _ _ _ selected => by cases selected
  | tail earlier step ih =>
    intro j other program limit selected within
    cases step with
    | start unstarted admitted =>
      rw [launch_threads] at selected
      rw [launch_history]
      split at selected
      · next same =>
        subst same
        cases selected
        exact ⟨limit, within, by simp [idle_of_reachable earlier j unstarted]⟩
      · exact ih j other program limit selected within
    | run running answered =>
      rw [advance_threads] at selected
      rw [advance_history]
      split at selected
      · next same =>
        -- The call that has been answered is one of those that were left.
        subst same
        cases selected
        obtain ⟨left, ⟨fewer, rfl, rest⟩, total⟩ := ih j _ _ limit running within
        refine ⟨fewer, rest _, ?_⟩
        rw [if_pos rfl, List.length_append, List.length_singleton]
        omega
      · next different =>
        rw [if_neg different, List.append_nil]
        exact ih j other program limit selected within

/-- What had happened before the first call of a client was answered. -/
def earlier (pool : Pool I S Q A ι) (i : ι) : List (ι × Event I S) :=
  pool.log.takeWhile fun entry => entry.1 ≠ i

theorem earlier_eq {pool : Pool I S Q A ι} {i : ι} {event : Event I S} {rest : List (Event I S)}
    (began : pool.history i = event :: rest) :
    ∃ late, pool.log = pool.earlier i ++ (i, event) :: late := by
  unfold history at began
  unfold earlier
  generalize pool.log = log at began ⊢
  induction log with
  | nil => cases began
  | cons entry log ih =>
    obtain ⟨j, other⟩ := entry
    by_cases own : j = i
    · subst own
      simp only [List.filterMap_cons, if_true, List.cons.injEq] at began
      obtain ⟨rfl, -⟩ := began
      exact ⟨log, by simp⟩
    · rw [List.filterMap_cons_none (by simp [own])] at began
      obtain ⟨late, split⟩ := ih began
      refine ⟨late, ?_⟩
      rw [List.takeWhile_cons_of_pos (by simp [own]), List.cons_append, ← split]

section

variable {service : Service I S Q A} {D : Discipline S}
  {post : (request : Q) → Postcondition I S (A request)} {first : S} {pool : Pool I S Q A ι}

/-- The log of a sound pool is a trace of what its programs guarantee. -/
theorem Sound.traced (sound : Sound service D post first pool)
    (reachable : Reachable service first pool) : Traced D.guarantee first pool.log pool.state where
  linked := linked_of_reachable reachable
  each := fun entry member => (sound.genuine entry member).2.2.2

/-- What happens between two pools of one run is a trace between their states. -/
theorem Sound.traced_steps {next : Pool I S Q A ι} (sound : Sound service D post first next)
    (steps : Steps service pool next) :
    ∃ more : List (ι × Event I S), Traced D.guarantee pool.state more next.state := by
  obtain ⟨more, logged, linked⟩ := linked_of_steps steps
  refine ⟨more, linked, fun entry member => (sound.genuine entry ?_).2.2.2⟩
  rw [logged]
  exact List.mem_append_right _ member

/-- The first call of a client finds what the events before it have led to. -/
theorem Sound.traced_earlier (sound : Sound service D post first pool)
    (reachable : Reachable service first pool) {i : ι} {event : Event I S} {rest : List (Event I S)}
    (began : pool.history i = event :: rest) :
    Traced D.guarantee first (pool.earlier i) event.before := by
  obtain ⟨late, split⟩ := earlier_eq began
  have traced := sound.traced reachable
  rw [split] at traced
  exact traced.split.1

end

end Interaction.Pool
