import ConfigArtifact.Operations.Rewriting
import ConfigArtifact.Simulation

/-! Published history is immutable.

Whatever the stores and the runtime answer, and wherever a call fails, the calls
the package issues never overwrite a row. The one patch it sends marks a
published resource as deprecated and touches nothing else.
-/

set_option autoImplicit false

namespace ConfigArtifact

open Interaction Fallible

variable {X : Platform} {s t u : World} {reports : Mapping → Prop}

/-- What may become of a metadata row: only its state moves, from published to
deprecated, and with it the record version. -/
structure Row.Remains (row later : Row) : Prop where
  fields : ∀ field, field ≠ "state" → later.values.lookup field = row.values.lookup field
  state : later.values.lookup "state" = row.values.lookup "state" ∨
    row.values.lookup "state" = some (.str ResourceState.published.value) ∧
      later.values.lookup "state" = some (.str ResourceState.deprecated.value)

/-- Everything recorded in one state is still there in a later one. -/
structure Preserves (s t : World) : Prop where
  metadata : ∀ key row, s.row? .metadata key = some row →
    ∃ later, t.row? .metadata key = some later ∧ row.Remains later
  others : ∀ collection, collection ≠ .metadata → ∀ key row,
    s.row? collection key = some row → t.row? collection key = some row

/-- Every metadata row is of a published or of a deprecated resource. -/
def Settled (world : World) : Prop :=
  ∀ key row, world.row? .metadata key = some row →
    row.values.lookup "state" = some (.str ResourceState.published.value) ∨
      row.values.lookup "state" = some (.str ResourceState.deprecated.value)

theorem Row.Remains.refl (row : Row) : row.Remains row := ⟨fun _ _ => rfl, Or.inl rfl⟩

theorem Row.Remains.trans {row later last : Row} (one : row.Remains later)
    (two : later.Remains last) : row.Remains last where
  fields := fun field other => (two.fields field other).trans (one.fields field other)
  state := by
    rcases two.state with same | ⟨published, deprecated⟩
    · rw [same]
      exact one.state
    · rcases one.state with same | ⟨-, already⟩
      · exact Or.inr ⟨same ▸ published, deprecated⟩
      · -- A deprecated row is not published again.
        rw [already] at published
        exact absurd published (by decide)

theorem Preserves.refl (s : World) : Preserves s s where
  metadata := fun _ row found => ⟨row, found, .refl row⟩
  others := fun _ _ _ _ found => found

theorem Preserves.trans (one : Preserves s t) (two : Preserves t u) : Preserves s u where
  metadata := by
    intro key row found
    obtain ⟨later, kept, remains⟩ := one.metadata key row found
    obtain ⟨last, still, lasts⟩ := two.metadata key later kept
    exact ⟨last, still, remains.trans lasts⟩
  others := fun collection other key row found =>
    two.others collection other key row (one.others collection other key row found)

/-- The package is trusted to preserve what is recorded, and with nothing else. -/
def preserving : Discipline World where
  invariant := Settled
  rely := Preserves
  guarantee := Preserves
  refl := .refl
  trans := .trans

/-- A step that leaves all rows alone. -/
theorem preserving_rows (kept : Settled s)
    (same : ∀ collection key, t.row? collection key = s.row? collection key) :
    Settled t ∧ Preserves s t := by
  constructor
  · intro key row found
    rw [same] at found
    exact kept key row found
  · constructor
    · intro key row found
      exact ⟨row, (same _ _).trans found, .refl row⟩
    · intro collection _ key row found
      exact (same _ _).trans found

/-- A step that inserts a row where none was. -/
theorem preserving_insert (kept : Settled s) {collection : Collection} {key : String} {row : Row}
    (absent : s.row? collection key = none)
    (published : collection = .metadata →
      row.values.lookup "state" = some (.str ResourceState.published.value)) :
    Settled (s.setRow collection key row) ∧ Preserves s (s.setRow collection key row) := by
  have untouched : ∀ other key' found, s.row? other key' = some found →
      (s.setRow collection key row).row? other key' = some found := by
    intro other key' found present
    rw [World.row?_setRow, if_neg, present]
    rintro ⟨rfl, rfl⟩
    rw [absent] at present
    cases present
  constructor
  · intro key' found present
    rw [World.row?_setRow] at present
    split at present
    · next both =>
      cases present
      exact Or.inl (published both.1.symm)
    · exact kept key' found present
  · constructor
    · intro key' found present
      exact ⟨found, untouched _ _ _ present, .refl found⟩
    · intro other _ key' found present
      exact untouched other key' found present

/-- A step that marks a metadata row as deprecated. -/
theorem preserving_patch (kept : Settled s) {key : String} {row : Row} (version : RecordVersion)
    (present : s.row? .metadata key = some row) :
    let marked : Row :=
      ⟨applyChanges row.values [("state", .str ResourceState.deprecated.value)], version⟩
    Settled (s.setRow .metadata key marked) ∧ Preserves s (s.setRow .metadata key marked) := by
  intro marked
  have looked : ∀ field, marked.values.lookup field =
      if field = "state" then some (.str ResourceState.deprecated.value)
      else row.values.lookup field := fun field => lookup_set row.values "state" field _
  have remains : row.Remains marked := by
    constructor
    · intro field other
      rw [looked, if_neg other]
    · rw [looked, if_pos rfl]
      -- The state of a settled row only moves from published to deprecated.
      rcases kept key row present with published | deprecated
      · exact Or.inr ⟨published, rfl⟩
      · exact Or.inl deprecated.symm
  constructor
  · intro key' found among
    rw [World.row?_setRow] at among
    split at among
    · cases among
      rw [looked, if_pos rfl]
      exact Or.inr rfl
    · exact kept key' found among
  · constructor
    · intro key' found among
      rw [World.row?_setRow]
      by_cases same : key' = key
      · subst same
        rw [present] at among
        cases among
        exact ⟨marked, by simp, remains⟩
      · exact ⟨found, by simp [same, among], .refl found⟩
    · intro collection other key' found among
      rw [World.row?_setRow, if_neg fun both => other both.1, among]

theorem preserving_rewrite (kept : Settled s) (rewrite : Rewrite reports s t) :
    Settled t ∧ Preserves s t := by
  cases rewrite with
  | untouched same => exact preserving_rows kept same
  | inserted _ absent published _ => exact preserving_insert kept absent published
  | marked present => exact preserving_patch kept _ present

theorem preserving_rewrites (kept : Settled s) (rewrites : Rewrites reports s t) :
    Settled t ∧ Preserves s t := by
  induction rewrites with
  | refl => exact ⟨kept, .refl s⟩
  | tail _ rewrite ih =>
    obtain ⟨settled, preserves⟩ := ih
    obtain ⟨still, also⟩ := preserving_rewrite settled rewrite
    exact ⟨still, preserves.trans also⟩

section

variable {ι : Type} [DecidableEq ι] {first : World} {admits : World → Request X → Prop}

/-- Between any two states of any run, nothing recorded is lost or altered but for
deprecation. -/
theorem published_history_preserved (settled : Settled first) {pool later : Clients X ι}
    (reachable : Pool.Reachable (deployment (untrusted X) admits) first pool)
    (steps : Pool.Steps (deployment (untrusted X) admits) pool later) :
    Preserves pool.state later.state := by
  have starts : ∀ s request, Settled s → (deployment (untrusted X) admits).admits s request →
      ((deployment (untrusted X) admits).body request).Safe preserving
        (deployment (untrusted X) admits).env (fun _ _ _ => True) [] s :=
    fun s request _ _ => by
      apply (request.uses_program (registers_any request)).safe
      intro call issued before reply after kept answered
      exact preserving_rewrites kept (rewrites_untrusted reply issued answered)
  have sound : Pool.Sound (deployment (untrusted X) admits) preserving (fun _ _ _ _ => True)
      first pool := Pool.sound_of_reachable starts (fun _ _ => id) settled reachable
  exact sound.moves starts (fun _ _ => id) steps

/-- A configuration is published, and later deprecated. -/
def publishing : List (Turn Bool (Request Platform.reference)) :=
  Turn.alone false (.publishConfiguration Reference.configuration) 4

def deprecating : List (Turn Bool (Request Platform.reference)) :=
  Turn.alone true (.deprecate .configuration Reference.identity) 2

/-- The row of the configuration stays when it is deprecated, and only its state differs. -/
theorem published_history_preserved_deprecation :
    let pool := simulate Platform.reference [] publishing World.empty
    let later := simulate Platform.reference [] (publishing ++ deprecating) World.empty
    ∃ row last, pool.state.row? .metadata (Reference.identity.resourceId Platform.reference) = some row ∧
      later.state.row? .metadata (Reference.identity.resourceId Platform.reference) = some last ∧
      row.Remains last ∧ row.values ≠ last.values := by
  intro pool later
  have published : Registering [] publishing := by
    intro request member
    rw [List.mem_singleton.mp member]
    trivial
  have deprecated : Registering [] deprecating := by
    intro request member
    rw [List.mem_singleton.mp member]
    trivial
  have reachable := (simulate_reachable (isUniform_empty []) published).mono untrusted_of_reliable
  have steps := (simulate_steps (isUniform_empty []) published deprecated).mono untrusted_of_reliable
  have preserves : Preserves pool.state later.state :=
    published_history_preserved (fun _ _ found => by cases found) reachable steps
  obtain ⟨row, found⟩ : ∃ row, pool.state.row? .metadata
      (Reference.identity.resourceId Platform.reference) = some row :=
    Option.isSome_iff_exists.mp (by decide +kernel)
  obtain ⟨last, kept, remains⟩ := preserves.metadata _ row found
  refine ⟨row, last, found, kept, remains, fun same => ?_⟩
  have differ : (pool.state.row? .metadata
      (Reference.identity.resourceId Platform.reference)).map Row.values ≠
      (later.state.row? .metadata
        (Reference.identity.resourceId Platform.reference)).map Row.values := by decide +kernel
  apply differ
  rw [found, kept, Option.map_some, Option.map_some, same]

end

end ConfigArtifact
