import ConfigArtifact.Interaction.Trace

/-! Logs that are read as runs of a sequential object.

Some states stand for a state of the object. An event explains the operations
that lead from what its first state stands for to what its last one stands for;
most events explain none. Put together in the order of the log, the operations
are one run of the object, in which each client has done what its own events
explain.
-/

set_option autoImplicit false

namespace Interaction

/-- Operations one after another, each where it is possible. -/
inductive Performs {R O : Type} (step : R → O → R → Prop) : R → List O → R → Prop
  | nil {r : R} : Performs step r [] r
  | cons {r middle last : R} {operation : O} {rest : List O} :
      step r operation middle → Performs step middle rest last →
      Performs step r (operation :: rest) last

namespace Performs

variable {R O : Type} {step : R → O → R → Prop} {r last : R} {front rest : List O}

theorem single {operation : O} (performed : step r operation last) :
    Performs step r [operation] last := .cons performed .nil

theorem append_iff : Performs step r (front ++ rest) last ↔
    ∃ middle, Performs step r front middle ∧ Performs step middle rest last := by
  induction front generalizing r with
  | nil =>
    constructor
    · intro performs
      exact ⟨r, .nil, performs⟩
    · rintro ⟨middle, none, performs⟩
      cases none
      exact performs
  | cons operation front ih =>
    constructor
    · intro performs
      cases performs with
      | cons first later =>
        obtain ⟨middle, earlier, performs⟩ := ih.mp later
        exact ⟨middle, .cons first earlier, performs⟩
    · rintro ⟨middle, earlier, performs⟩
      cases earlier with
      | cons first later => exact .cons first (ih.mpr ⟨middle, later, performs⟩)

/-- What every operation does, a run does. -/
theorem relates {related : R → R → Prop} (refl : ∀ r, related r r)
    (trans : ∀ {r s t}, related r s → related s t → related r t)
    (steps : ∀ {r operation s}, step r operation s → related r s)
    (performs : Performs step r rest last) : related r last := by
  induction performs with
  | nil => exact refl _
  | cons first _ ih => exact trans (steps first) ih

end Performs

/-- A sequential object, and the states that stand for its states. -/
structure Abstraction (S R O : Type) where
  stands : S → R → Prop
  step : R → O → R → Prop
  unique : ∀ {s r r'}, stands s r → stands s r' → r' = r

variable {I : Interface} {S R O ι : Type} {abstraction : Abstraction S R O}

/-- The event leads from one state of the object to another as the operations do. -/
def Explains (abstraction : Abstraction S R O) (event : Event I S) (operations : List O) : Prop :=
  ∃ r r', abstraction.stands event.before r ∧ abstraction.stands event.after r' ∧
    Performs abstraction.step r operations r'

/-- The operations that the events of a log explain, each with the client it is of. -/
inductive Explained (abstraction : Abstraction S R O) :
    List (ι × Event I S) → List (ι × O) → Prop
  | nil : Explained abstraction [] []
  | cons {entry : ι × Event I S} {log : List (ι × Event I S)} {operations : List O}
      {history : List (ι × O)} : Explains abstraction entry.2 operations →
      Explained abstraction log history →
      Explained abstraction (entry :: log) (operations.map (Prod.mk entry.1) ++ history)

/-- The same for the events of one client. -/
inductive Recounted (abstraction : Abstraction S R O) : List (Event I S) → List O → Prop
  | nil : Recounted abstraction [] []
  | cons {event : Event I S} {events : List (Event I S)} {operations told : List O} :
      Explains abstraction event operations → Recounted abstraction events told →
      Recounted abstraction (event :: events) (operations ++ told)

/-- The operations of one client, in order. -/
def operationsOf [DecidableEq ι] (i : ι) (history : List (ι × O)) : List O :=
  history.filterMap fun entry => if entry.1 = i then some entry.2 else none

section

variable [DecidableEq ι] (i j : ι) (operations : List O) (history more : List (ι × O))

@[simp] theorem operationsOf_append :
    operationsOf i (history ++ more) = operationsOf i history ++ operationsOf i more :=
  List.filterMap_append

@[simp] theorem operationsOf_map :
    operationsOf i (operations.map (Prod.mk j)) = if j = i then operations else [] := by
  unfold operationsOf
  rw [List.filterMap_map]
  by_cases own : j = i
  · simp [own]
  · simp [own]

end

namespace Recounted

variable {events more : List (Event I S)} {told : List O}

theorem append_iff : Recounted abstraction (events ++ more) told ↔
    ∃ front rest, told = front ++ rest ∧ Recounted abstraction events front ∧
      Recounted abstraction more rest := by
  induction events generalizing told with
  | nil =>
    constructor
    · intro all
      exact ⟨[], told, rfl, .nil, all⟩
    · rintro ⟨front, rest, rfl, none, all⟩
      cases none
      exact all
  | cons event events ih =>
    constructor
    · intro all
      cases all with
      | cons explains later =>
        obtain ⟨front, rest, rfl, earlier, later⟩ := ih.mp later
        exact ⟨_, rest, (List.append_assoc _ _ _).symm, .cons explains earlier, later⟩
    · rintro ⟨front, rest, rfl, earlier, later⟩
      cases earlier with
      | cons explains earlier =>
        rw [List.append_assoc]
        exact .cons explains (ih.mpr ⟨_, rest, rfl, earlier, later⟩)

/-- Events that explain nothing tell nothing. -/
theorem silent (tells : Recounted abstraction events told)
    (explainsNone : ∀ event ∈ events, ∀ operations, Explains abstraction event operations →
      operations = []) : told = [] := by
  induction tells with
  | nil => rfl
  | @cons event events operations told explains _ ih =>
    rw [explainsNone event List.mem_cons_self _ explains, List.nil_append]
    exact ih fun other member => explainsNone other (List.mem_cons_of_mem _ member)

end Recounted

namespace Explained

variable {log early late : List (ι × Event I S)} {history more : List (ι × O)} {s t : S} {r : R}

theorem append (explained : Explained abstraction early history)
    (further : Explained abstraction late more) :
    Explained abstraction (early ++ late) (history ++ more) := by
  induction explained with
  | nil => exact further
  | cons explains _ ih =>
    rw [List.cons_append, List.append_assoc]
    exact .cons explains ih

theorem split (explained : Explained abstraction (early ++ late) history) :
    ∃ front rest, history = front ++ rest ∧ Explained abstraction early front ∧
      Explained abstraction late rest := by
  induction early generalizing history with
  | nil => exact ⟨[], history, rfl, .nil, explained⟩
  | cons entry early ih =>
    cases explained with
    | cons explains later =>
      obtain ⟨front, rest, rfl, earlier, later⟩ := ih later
      exact ⟨_, rest, (List.append_assoc _ _ _).symm, .cons explains earlier, later⟩

theorem exists_of_each (each : ∀ entry ∈ log, ∃ operations, Explains abstraction entry.2 operations) :
    ∃ history, Explained abstraction log history := by
  induction log with
  | nil => exact ⟨[], .nil⟩
  | cons entry log ih =>
    obtain ⟨operations, explains⟩ := each entry List.mem_cons_self
    obtain ⟨history, explained⟩ := ih fun other member => each other (List.mem_cons_of_mem _ member)
    exact ⟨_, .cons explains explained⟩

/-- The operations of a log are a run of the object. -/
theorem performs (explained : Explained abstraction log history) (linked : Pool.Linked s log t)
    (stands : abstraction.stands s r) :
    ∃ r', abstraction.stands t r' ∧ Performs abstraction.step r (history.map Prod.snd) r' := by
  induction explained generalizing s r with
  | nil =>
    obtain rfl : s = t := linked
    exact ⟨r, stands, .nil⟩
  | cons explains _ ih =>
    obtain ⟨rfl, linked⟩ := linked
    obtain ⟨began, middle, standsBefore, standsAfter, first⟩ := explains
    -- The operations of an event start from what its state stands for, which is unique.
    obtain rfl := abstraction.unique stands standsBefore
    obtain ⟨r', standsLast, later⟩ := ih linked standsAfter
    refine ⟨r', standsLast, ?_⟩
    rw [List.map_append, List.map_map]
    exact Performs.append_iff.mpr ⟨middle, by simpa [Function.comp_def] using first, later⟩

/-- What a client has done is what its own events explain. -/
theorem own [DecidableEq ι] (explained : Explained abstraction log history) (i : ι) :
    Recounted abstraction (log.filterMap fun entry => if entry.1 = i then some entry.2 else none)
      (operationsOf i history) := by
  induction explained with
  | nil => exact .nil
  | @cons entry log operations history explains _ ih =>
    rw [operationsOf_append, operationsOf_map]
    by_cases same : entry.1 = i
    · simp only [List.filterMap_cons, if_pos same]
      exact .cons explains ih
    · simp only [List.filterMap_cons, if_neg same, List.nil_append]
      exact ih

end Explained

/-- What happened before the first call of a client, if a part of the log is without it. -/
theorem Pool.earlier_of_silent {Q : Type} {A : Q → Type} [DecidableEq ι] {pool : Pool I S Q A ι}
    {log late : List (ι × Event I S)} (split : pool.log = log ++ late) {i : ι}
    (silent : ∀ entry ∈ log, entry.1 ≠ i) {event : Event I S} {rest : List (Event I S)}
    (began : pool.history i = event :: rest) :
    ∃ between after, late = between ++ (i, event) :: after ∧ pool.earlier i = log ++ between := by
  obtain ⟨after, logged⟩ := Pool.earlier_eq began
  have former : pool.earlier i = log ++ late.takeWhile fun entry => entry.1 ≠ i := by
    unfold Pool.earlier
    rw [split, List.takeWhile_append_of_pos]
    exact fun entry member => decide_eq_true (silent entry member)
  refine ⟨_, after, ?_, former⟩
  rw [split, former, List.append_assoc] at logged
  exact List.append_cancel_left logged

end Interaction
