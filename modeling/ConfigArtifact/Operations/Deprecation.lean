import ConfigArtifact.Operations.Promotion
import ConfigArtifact.Store.Transactions

/-! What one deprecation does among others.

Whichever caller's patch is first, every other caller of the same resource finds
it deprecated, either in its first read or in the read after its conflict.
-/

set_option autoImplicit false

namespace ConfigArtifact

open Interaction Fallible Relation MetadataRepository

variable {X : Platform} {P : Policy X} {first s t u : World} {faults : Prop}
  {history : List (Event (runtime X) World)}

/-- What a lookup that must find its resource tells. -/
def Required (X : Platform) (faults : Prop) (s : World) (resourceId : String) :
    Except PyError (StoredResourceV1 X) → Prop
  | .ok resource => Stores s resource ∧ resource.resourceId = resourceId
  | .error error => faults ∨ s.row? .metadata resourceId = none ∧
      error = resourceNotFound (some resourceId)

theorem safe_requiredResource {A : Type} {resourceId : String}
    {next : Except PyError (StoredResourceV1 X) → Program (runtime X) A}
    {post : Postcondition (runtime X) World A}
    (rest : ∀ t, (following P first).invariant t → Changes P s t → ∀ event,
      event.before = t → event.after = t → ∀ result, Required X faults t resourceId result →
      (next result).Safe (following P first) (serving X faults) post (history ++ [event]) t) :
    ((requiredResource X resourceId).run.bind next).Safe (following P first) (serving X faults) post
      history s := by
  unfold requiredResource
  rw [run_bind, Program.bind_assoc]
  refine safe_getResource fun t kept moved event before after result looked => ?_
  match result, looked with
  | .error error, missing =>
    exact rest t kept moved event before after (.error error) (missing.imp id fun missing => missing.2)
  | .ok none, impossible => cases impossible.1
  | .ok (some resource), looked => exact rest t kept moved event before after (.ok resource) looked

/-- The row of a resource that may not be deprecated is missing or of the other profile. -/
def Refused (P : Policy X) (first t : World) (require : StoredResourceV1 X → Except PyError Unit)
    (resourceId : String) : Prop :=
  ∃ earlier, Changes P first earlier ∧ Changes P earlier t ∧
    (earlier.row? .metadata resourceId = none ∨ ∃ resource, Stores earlier resource ∧
      resource.resourceId = resourceId ∧ (require resource).isOk = false)

/-- One event has deprecated the row that held a resource, and left this one there. -/
def DeprecatesInto (stored : StoredResourceV1 X) (before after : World) : Prop :=
  ∃ (resource : StoredResourceV1 X) (immutable : resource.immutable = true)
    (version : RecordVersion), Stores before resource ∧ resource.state = .published ∧
    after = before.deprecate resource immutable version ∧
    stored = resource.deprecatedAt immutable version

/-- How a deprecation may end. -/
def DeprecationEnds (faults : Prop) (P : Policy X) (first : World)
    (require : StoredResourceV1 X → Except PyError Unit) (identity : ResourceIdentity) :
    Postcondition (runtime X) World (Except PyError (StoredResourceV1 X)) :=
  fun history t result => match result with
    | .ok stored => Seen P first t stored ∧ stored.resourceId = identity.resourceId X ∧
        stored.state = .deprecated ∧
        (faults ∨ Quiet history ∨ Once (DeprecatesInto stored) history)
    | .error _ => faults ∨ Quiet history ∧ Refused P first t require (identity.resourceId X)

/-- The resources a deprecation may patch. -/
def MayDeprecate (P : Policy X) (require : StoredResourceV1 X → Except PyError Unit)
    (resourceId : String) : Prop :=
  ∀ resource : StoredResourceV1 X, resource.resourceId = resourceId →
    (require resource).isOk = true → resource.state = .published → P.deprecates resource

theorem state_of_stored {resource : StoredResourceV1 X} (consistent : Consistent X t)
    (stores : Stores t resource) (active : resource.state ≠ .deprecated) :
    resource.state = .published := by
  obtain ⟨row, found, holds⟩ := stores
  obtain ⟨held, again, -, published⟩ := consistent.metadata _ row found
  obtain rfl := holds.unique again
  cases state : resource.state with
  | draft => exact absurd state published
  | published => rfl
  | deprecated => exact absurd state active

theorem stores_deprecate {resource : StoredResourceV1 X} (immutable : resource.immutable = true)
    (version : RecordVersion) : Stores (t.deprecate resource immutable version)
      (resource.deprecatedAt immutable version) :=
  ⟨_, World.row?_setRow_self _ _ _ _, Row.holds_deprecated resource immutable version⟩

/-- What a caller makes of the row it reads after its conflict. -/
theorem safe_deprecatedWinner {identity : ResourceIdentity} {error : PyError}
    {require : StoredResourceV1 X → Except PyError Unit} (quiet : faults ∨ Quiet history)
    (ended : faults ∨ ∃ later : StoredResourceV1 X, Stores s later ∧
      later.resourceId = identity.resourceId X ∧ later.state = .deprecated) :
    (do
      match ← StructuredM.lift (getResource X (identity.resourceId X) true) with
      | none => throw error
      | some winner =>
        if winner.state = .deprecated then return winner else throw error : PyM X _).run.Safe
      (following P first) (serving X faults) (DeprecationEnds faults P first require identity)
      history s := by
  rw [run_bind]
  refine safe_getResource fun t kept moved event before after result looked => ?_
  have ended : faults ∨ ∃ later : StoredResourceV1 X, Stores t later ∧
      later.resourceId = identity.resourceId X ∧ later.state = .deprecated := by
    refine ended.imp id fun ⟨later, stores, named, deprecated⟩ => ?_
    obtain ⟨last, current, succeeds⟩ := moved.evolves.stored later stores
    -- What is deprecated stays as it is.
    obtain rfl := succeeds.eq_of_deprecated deprecated
    exact ⟨last, current, named, deprecated⟩
  match result, looked with
  | .error error, missing =>
    refine safe_stop fun _ => Or.inl ?_
    rcases missing with faulted | ⟨-, absent, -⟩
    · exact faulted
    · rcases ended with faulted | ⟨later, ⟨row, found, -⟩, named, -⟩
      · exact faulted
      · rw [named, absent] at found
        cases found
  | .ok none, impossible => cases impossible.1
  | .ok (some winner), ⟨stores, named⟩ =>
    rw [andThen_ok]
    dsimp only
    split
    · next deprecated =>
      intro v later _
      refine ⟨(seen_now kept.2 stores).later later, named, deprecated, ?_⟩
      exact quiet.imp id fun quiet => Or.inl (quiet.snoc (by rw [before, after]))
    · next active =>
      refine safe_stop fun _ => Or.inl ?_
      rcases ended with faulted | ⟨later, stores', named', deprecated⟩
      · exact faulted
      · obtain rfl := stores'.unique stores (named.trans named'.symm)
        exact absurd deprecated active

theorem safe_deprecate {require : StoredResourceV1 X → Except PyError Unit}
    {identity : ResourceIdentity} (permitted : MayDeprecate P require (identity.resourceId X)) :
    (deprecateWith require identity).run.Safe (following P first) (serving X faults)
      (DeprecationEnds faults P first require identity) [] s := by
  unfold deprecateWith
  rw [run_bind]
  refine safe_requiredResource fun t kept moved event before after result required => ?_
  have quiet : Quiet ([] ++ [event]) := quiet_nil.snoc (by rw [before, after])
  cases result with
  | error error =>
    intro u later _
    exact required.imp id fun missing => ⟨quiet, t, kept.2, later, Or.inl missing.1⟩
  | ok resource =>
    obtain ⟨stores, named⟩ := required
    rw [andThen_ok, run_settle_bind]
    cases checked : require resource with
    | error error =>
      intro u later _
      exact Or.inr ⟨quiet, t, kept.2, later, Or.inr ⟨resource, stores, named, by rw [checked]; rfl⟩⟩
    | ok _ =>
      rw [andThen_ok]
      split
      · next deprecated =>
        intro u later _
        exact ⟨(seen_now kept.2 stores).later later, named, deprecated, Or.inr (Or.inl quiet)⟩
      · next active =>
        have published := state_of_stored kept.1 stores active
        rw [run_attempt_bind]
        refine safe_deprecateResource published stores
          (permitted resource named (by rw [checked]; rfl) published) ?_
        intro u v _ keptAfter since patch before' after' result outcome
        cases result with
        | ok stored =>
          obtain ⟨immutable, version, current, rfl, rfl⟩ := outcome
          intro w later _
          refine ⟨(seen_now keptAfter.2 (stores_deprecate immutable version)).later later, named,
            rfl, Or.inr (Or.inr (quiet.once ?_))⟩
          rw [before', after']
          exact ⟨resource, immutable, version, current, published, rfl, rfl⟩
        | error error =>
          dsimp only
          split
          -- The row was in the way, so another call has deprecated it.
          · refine safe_deprecatedWinner ?_ ?_
            · refine outcome.imp id fun ⟨same, _⟩ => quiet.snoc (by rw [before', after', same])
            · refine outcome.imp id fun ⟨same, _, later, stores', succeeds, deprecated⟩ => ?_
              exact ⟨later, same ▸ stores', succeeds.resourceId.trans named, deprecated⟩
          · next other =>
            refine safe_stop fun _ => Or.inl ?_
            rcases outcome with faulted | ⟨-, conflict, -⟩
            · exact faulted
            · exact absurd conflict other

end ConfigArtifact
