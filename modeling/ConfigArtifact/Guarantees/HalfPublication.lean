import ConfigArtifact.Guarantees.Losses
import ConfigArtifact.Guarantees.Retrying
import ConfigArtifact.Operations.Stranding

/-! Publications that commit their Object and not their metadata.

Such a publication is to say so and to leave an orphan behind. It does so exactly if
its arguments build a candidate and none of its own calls has failed in a way that
it lets through: the handlers only cover the transaction.
-/

set_option autoImplicit false

namespace ConfigArtifact

open Interaction Fallible MetadataRepository
open ArtifactPublisher (Builds Content FailsToRecord Forgiven Held isForgiven)

variable {X : Platform} {first : World}

section

variable {ι : Type} [DecidableEq ι] {admits : World → Request X → Prop} {pool : Clients X ι} {i : ι}
  {request : ArtifactRequest X} {content : Content}

/-- The client was answered like this. -/
def IsAnswer (pool : Clients X ι) (i : ι) : Truth (runtime X) := fun call reply =>
  ∃ before after, (i, ⟨before, call, reply, after⟩) ∈ pool.log

/-- The client has committed the Object of a publication, and no row has its identity. -/
structure IsHalfPublished (pool : Clients X ι) (i : ι) (request : ArtifactRequest X)
    (content : Content) : Prop where
  read : ArtifactPublisher.contentOf request = .ok content
  commits : ∃ event ∈ pool.history i, event.before.object? (content.identity.objectId X) = none ∧
    event.after.object? (content.identity.objectId X) ≠ none
  absent : pool.state.row? .metadata (content.identity.resourceId X) = none

/-- The publication has failed as incomplete, and an orphan of its Object is recorded, unless recording
it has failed. -/
structure ReportsHalf (pool : Clients X ι) (i : ι) (content : Content)
    (result : Except PyError (PublicationReceipt X)) : Prop where
  incomplete : ∃ error, result = .error error ∧ error.hasType .incompletePublication = true
  orphan : ∃ object, pool.state.object? (content.identity.objectId X) = some object ∧
    ∃ orphan : OrphanCandidateV1 X, IsOrphanOf X (content.identity.resourceId X) object orphan ∧
      (Records pool.state orphan ∨ FailsToRecord (IsAnswer pool i) orphan)

/-- The Object that a client has committed is the one of its publication. -/
theorem held_of_committed (consistent : Consistent X first)
    (reachable : Pool.Reachable (deployment (faulty X) admits) first pool)
    {program : Program (runtime X) (Request.publishArtifact request).Result}
    (selected : pool.threads i = some ⟨.publishArtifact request, program⟩)
    (half : IsHalfPublished pool i request content) : Held X pool.state content := by
  have sound := deployment_sound serving_of_faulty (serves_unrestricted admits) consistent reachable
  obtain ⟨event, own, absent, present⟩ := half.commits
  have issued := @attempts_of_reachable X first (.artifact request) ι _ admits pool consistent reachable i
    program selected event own
  rcases issued.objects (sound.event own).2.2.1 with
    same | ⟨asked, other, payload, bytes, asks, read, -, -, -, changed⟩
  · rw [same] at present
    exact absurd absent present
  · cases asks
    cases half.read.symm.trans read
    have evolves : Evolves X event.after pool.state :=
      Changes.evolves (sound.past _ (Pool.mem_log_of_history own)).2
    refine Held.later ⟨(ArtifactPublisher.objectRequest request content payload).stored X bytes, ?_, rfl,
      rfl, rfl, rfl⟩ evolves
    rw [changed, World.object?_setObject, if_pos rfl]

end

namespace Reference

/-- A publication that blames its arguments. -/
def blames : (request : Request Platform.reference) → request.Result → Bool
  | .publishArtifact _, .error error => error.isArgumentError
  | _, _ => false

theorem contentOf_mislabelled : ArtifactPublisher.contentOf mislabelled = .ok artifactContent :=
  contentOf_handedOver

/-- Stores whose transactions fail. -/
def refusing : Answers (runtime Platform.reference) World
  | .transaction _, world => (.error malformed, world)
  | request, world => answer Platform.reference (.constant emptyObject) request world

theorem refusing_conform : refusing.Conform (faulty Platform.reference) (Call.Carries emptyObject)
    (IsUniform emptyObject) where
  answered := by
    intro request s carries uniform
    have answered := (answer_constant emptyObject).answered request s carries uniform
    cases request with
    | transaction body => exact Or.inr ⟨malformed, rfl, Or.inl rfl⟩
    | _ => exact faulty_of_reliable _ _ _ _ answered
  kept := by
    intro request s carries uniform
    have kept := (answer_constant emptyObject).kept request s carries uniform
    cases request with
    | transaction body => exact uniform
    | _ => exact kept

/-- An artifact, published over stores whose transactions fail. -/
def half : Clients Platform.reference Bool :=
  (Pool.initial World.empty).play (deployment (faulty Platform.reference) anyRequest) refusing
    (Turn.alone false (.publishArtifact handedOver) 8)

end Reference

end ConfigArtifact
