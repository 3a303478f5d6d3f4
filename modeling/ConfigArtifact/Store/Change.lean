import ConfigArtifact.Store.Typed
import Mathlib.Logic.Relation

/-! The changes the package makes to its stores.

Every call of every operation leaves the stores as they are or makes one of
these changes. Whatever holds of any run of changes therefore holds between any
two states of any interleaving, without looking at the operations again.
-/

set_option autoImplicit false

namespace ConfigArtifact

open Relation

variable {X : Platform}

/-- What may happen in a deployment: which resources are published and
deprecated, which Objects are committed, and whether channels only name
resources that are stored. -/
structure Policy (X : Platform) where
  publishes : StoredResourceV1 X → Prop
  deprecates : StoredResourceV1 X → Prop
  commits : StoredObject → Prop
  live : Prop

def Policy.unrestricted (X : Platform) : Policy X :=
  ⟨fun _ => True, fun _ => True, fun _ => True, False⟩

/-- An Object that artifact publication commits for a resource id. -/
structure IsArtifactObject (X : Platform) (resourceId : String) (object : StoredObject) : Prop where
  reference : object.metadata.objectRef =
    ⟨X.objectResource, objectIdOf resourceId, some object.metadata.digest⟩
  intact : IsIntact X object.metadata.digest object.metadata.byteLength object.content
  accepted : X.checkMetadata object.metadata = .ok ()
  owner : object.metadata.userMetadata.lookup "resourceId" = some resourceId
  resourceId : isResourceId resourceId = true

/-- The version of a pointer is the first one or follows one that is stored. -/
def Follows (X : Platform) (world : World) (pointer : ResourceChannelV1) : Prop :=
  pointer.pointerVersion = 1 ∨ ∃ previous, Points X world previous ∧ previous.key = pointer.key ∧
    previous.pointerVersion + 1 = pointer.pointerVersion

/-- A pointer names a stored resource of its own channel's name. -/
def HasTarget (X : Platform) (world : World) (pointer : ResourceChannelV1) : Prop :=
  ∃ resource : StoredResourceV1 X, Stores world resource ∧
    resource.resourceId = pointer.targetResourceId ∧
    resource.identity.namespace = pointer.key.namespace ∧
    resource.identity.kind = pointer.key.kind ∧ resource.identity.name = pointer.key.name

/-- Metadata and provenance committed together. -/
def World.publish (world : World) (resource : StoredResourceV1 X) (version stamp : RecordVersion) :
    World :=
  let published := world.setRow .metadata resource.resourceId ⟨resource.toRecord, version⟩
  match resource.provenanceRecord with
  | none => published
  | some record => published.setRow .provenance resource.resourceId ⟨record, stamp⟩

def World.deprecate (world : World) (resource : StoredResourceV1 X)
    (immutable : resource.immutable = true) (version : RecordVersion) : World :=
  world.setRow .metadata resource.resourceId
    ⟨(resource.deprecatedAt immutable version).toRecord, version⟩

def World.promote (X : Platform) (world : World) (pointer : ResourceChannelV1)
    (version : RecordVersion) : World :=
  world.setRow .channels (pointer.channelVersionId X) ⟨pointer.toRecord X, version⟩

def World.report (world : World) (orphan : OrphanCandidateV1 X) (version : RecordVersion) : World :=
  world.setRow .orphanCandidates (orphan.candidateId X) ⟨orphan.toRecord X, version⟩

inductive Change (P : Policy X) : World → World → Prop
  | registered {world : World} {token : String} {source : PayloadSource} :
      world.payload? token = none → Change P world (world.setPayload token source)
  | committed {world : World} {resourceId : String} {object : StoredObject} :
      world.object? (objectIdOf resourceId) = none → IsArtifactObject X resourceId object →
      P.commits object → Change P world (world.setObject (objectIdOf resourceId) object)
  | published {world : World} {resource : StoredResourceV1 X} {version stamp : RecordVersion} :
      world.row? .metadata resource.resourceId = none →
      world.row? .provenance resource.resourceId = none →
      resource.state = .published → (resource.profile = .artifact → IsBacked world resource) →
      P.publishes resource → Change P world (world.publish resource version stamp)
  | deprecated {world : World} {resource : StoredResourceV1 X} {version : RecordVersion}
      (immutable : resource.immutable = true) :
      Stores world resource → resource.state = .published →
      some version ≠ resource.recordVersion → P.deprecates resource →
      Change P world (world.deprecate resource immutable version)
  | promoted {world : World} {pointer : ResourceChannelV1} {version : RecordVersion} :
      world.row? .channels (pointer.channelVersionId X) = none → Follows X world pointer →
      (P.live → HasTarget X world pointer) → Change P world (world.promote X pointer version)
  | reported {world : World} {orphan : OrphanCandidateV1 X} {version : RecordVersion} :
      world.row? .orphanCandidates (orphan.candidateId X) = none →
      Change P world (world.report orphan version)

abbrev Changes (P : Policy X) : World → World → Prop := ReflTransGen (Change P)

section

variable (world : World) (resource : StoredResourceV1 X) (version stamp : RecordVersion)

theorem row?_publish_metadata (key : String) :
    (world.publish resource version stamp).row? .metadata key =
      if key = resource.resourceId then some ⟨resource.toRecord, version⟩
      else world.row? .metadata key := by
  unfold World.publish
  cases resource.provenanceRecord <;> simp [World.row?_setRow]

theorem row?_publish_provenance (key : String) :
    (world.publish resource version stamp).row? .provenance key =
      if key = resource.resourceId then
        (resource.provenanceRecord.map fun record => ⟨record, stamp⟩).or
          (world.row? .provenance key)
      else world.row? .provenance key := by
  unfold World.publish
  cases resource.provenanceRecord <;> simp [World.row?_setRow]

theorem row?_publish_other {collection : Collection} (other : collection ≠ .metadata)
    (another : collection ≠ .provenance) (key : String) :
    (world.publish resource version stamp).row? collection key = world.row? collection key := by
  unfold World.publish
  cases resource.provenanceRecord <;> simp [World.row?_setRow, other, another]

@[simp] theorem object?_publish (objectId : String) :
    (world.publish resource version stamp).object? objectId = world.object? objectId := by
  unfold World.publish
  cases resource.provenanceRecord <;> rfl

@[simp] theorem payload?_publish (token : String) :
    (world.publish resource version stamp).payload? token = world.payload? token := by
  unfold World.publish
  cases resource.provenanceRecord <;> rfl

end

namespace Change

variable {P : Policy X} {s t : World}

/-- What a change does to a metadata row. -/
theorem metadata (change : Change P s t) (key : String) :
    t.row? .metadata key = s.row? .metadata key ∨
    (∃ (resource : StoredResourceV1 X) (version : RecordVersion), resource.resourceId = key ∧
      s.row? .metadata key = none ∧ resource.state = .published ∧
      (resource.profile = .artifact → IsBacked s resource) ∧ P.publishes resource ∧
      t.row? .metadata key = some ⟨resource.toRecord, version⟩) ∨
    ∃ (resource : StoredResourceV1 X) (immutable : resource.immutable = true)
      (version : RecordVersion), resource.resourceId = key ∧ Stores s resource ∧
      resource.state = .published ∧ some version ≠ resource.recordVersion ∧
      P.deprecates resource ∧
      t.row? .metadata key = some ⟨(resource.deprecatedAt immutable version).toRecord, version⟩ := by
  cases change with
  | registered absent => exact Or.inl rfl
  | committed absent object permitted => exact Or.inl rfl
  | @published resource version stamp absent bare published backed permitted =>
    rw [row?_publish_metadata]
    by_cases same : key = resource.resourceId
    · subst same
      rw [if_pos rfl]
      exact Or.inr (Or.inl ⟨resource, version, rfl, absent, published, backed, permitted, rfl⟩)
    · rw [if_neg same]
      exact Or.inl rfl
  | @deprecated resource version immutable stores published renewed permitted =>
    unfold World.deprecate
    rw [World.row?_setRow]
    by_cases same : key = resource.resourceId
    · subst same
      rw [if_pos ⟨rfl, rfl⟩]
      exact Or.inr (Or.inr
        ⟨resource, immutable, version, rfl, stores, published, renewed, permitted, rfl⟩)
    · rw [if_neg fun both => same both.2]
      exact Or.inl rfl
  | promoted absent follows target => exact Or.inl (by simp [World.promote, World.row?_setRow])
  | reported absent => exact Or.inl (by simp [World.report, World.row?_setRow])

/-- What a change does to a channel row. -/
theorem channels (change : Change P s t) (key : String) :
    t.row? .channels key = s.row? .channels key ∨
    ∃ (pointer : ResourceChannelV1) (version : RecordVersion), pointer.channelVersionId X = key ∧
      s.row? .channels key = none ∧ Follows X s pointer ∧ (P.live → HasTarget X s pointer) ∧
      t.row? .channels key = some ⟨pointer.toRecord X, version⟩ := by
  cases change with
  | registered absent => exact Or.inl rfl
  | committed absent object permitted => exact Or.inl rfl
  | published absent bare published backed permitted =>
    exact Or.inl (row?_publish_other _ _ _ _ (by decide) (by decide) _)
  | deprecated immutable stores published renewed permitted =>
    exact Or.inl (by simp [World.deprecate, World.row?_setRow])
  | @promoted pointer version absent follows target =>
    unfold World.promote
    rw [World.row?_setRow]
    by_cases same : key = pointer.channelVersionId X
    · subst same
      rw [if_pos ⟨rfl, rfl⟩]
      exact Or.inr ⟨pointer, version, rfl, absent, follows, target, rfl⟩
    · rw [if_neg fun both => same both.2]
      exact Or.inl rfl
  | reported absent => exact Or.inl (by simp [World.report, World.row?_setRow])

/-- What a change does to a row of the orphan candidates. -/
theorem orphans (change : Change P s t) (key : String) :
    t.row? .orphanCandidates key = s.row? .orphanCandidates key ∨
    ∃ (orphan : OrphanCandidateV1 X) (version : RecordVersion), orphan.candidateId X = key ∧
      s.row? .orphanCandidates key = none ∧
      t.row? .orphanCandidates key = some ⟨orphan.toRecord X, version⟩ := by
  cases change with
  | registered absent => exact Or.inl rfl
  | committed absent object permitted => exact Or.inl rfl
  | published absent bare published backed permitted =>
    exact Or.inl (row?_publish_other _ _ _ _ (by decide) (by decide) _)
  | deprecated immutable stores published renewed permitted =>
    exact Or.inl (by simp [World.deprecate, World.row?_setRow])
  | promoted absent follows target => exact Or.inl (by simp [World.promote, World.row?_setRow])
  | @reported orphan version absent =>
    unfold World.report
    rw [World.row?_setRow]
    by_cases same : key = orphan.candidateId X
    · subst same
      rw [if_pos ⟨rfl, rfl⟩]
      exact Or.inr ⟨orphan, version, rfl, absent, rfl⟩
    · rw [if_neg fun both => same both.2]
      exact Or.inl rfl

/-- What a change does to a provenance row. -/
theorem provenance (change : Change P s t) (key : String) :
    t.row? .provenance key = s.row? .provenance key ∨
    ∃ (resource : StoredResourceV1 X) (version stamp : RecordVersion) (record : Mapping),
      resource.resourceId = key ∧ s.row? .provenance key = none ∧
      resource.provenanceRecord = some record ∧
      t.row? .metadata key = some ⟨resource.toRecord, version⟩ ∧
      t.row? .provenance key = some ⟨record, stamp⟩ := by
  cases change with
  | registered absent => exact Or.inl rfl
  | committed absent object permitted => exact Or.inl rfl
  | @published resource version stamp absent bare published backed permitted =>
    rw [row?_publish_provenance, row?_publish_metadata]
    by_cases same : key = resource.resourceId
    · subst same
      rw [if_pos rfl, if_pos rfl]
      cases carried : resource.provenanceRecord with
      | none => exact Or.inl rfl
      | some record => exact Or.inr ⟨resource, version, stamp, record, rfl, bare, carried, rfl, rfl⟩
    · rw [if_neg same]
      exact Or.inl rfl
  | deprecated immutable stores published renewed permitted =>
    exact Or.inl (by simp [World.deprecate, World.row?_setRow])
  | promoted absent follows target => exact Or.inl (by simp [World.promote, World.row?_setRow])
  | reported absent => exact Or.inl (by simp [World.report, World.row?_setRow])

/-- What a change does to an Object. -/
theorem objects (change : Change P s t) (objectId : String) :
    t.object? objectId = s.object? objectId ∨
    ∃ resourceId object, objectId = objectIdOf resourceId ∧ s.object? objectId = none ∧
      IsArtifactObject X resourceId object ∧ P.commits object ∧
      t.object? objectId = some object := by
  cases change with
  | registered absent => exact Or.inl rfl
  | @committed resourceId object absent valid permitted =>
    rw [World.object?_setObject]
    by_cases same : objectId = objectIdOf resourceId
    · subst same
      rw [if_pos rfl]
      exact Or.inr ⟨resourceId, object, rfl, absent, valid, permitted, rfl⟩
    · rw [if_neg same]
      exact Or.inl rfl
  | published absent bare published backed permitted => exact Or.inl (by simp)
  | deprecated immutable stores published renewed permitted => exact Or.inl rfl
  | promoted absent follows target => exact Or.inl rfl
  | reported absent => exact Or.inl rfl

theorem payloads (change : Change P s t) {token : String} {source : PayloadSource}
    (found : s.payload? token = some source) : t.payload? token = some source := by
  cases change with
  | @registered other added absent =>
    rw [World.payload?_setPayload, if_neg, found]
    rintro rfl
    rw [absent] at found
    cases found
  | committed absent object permitted => exact found
  | published absent bare published backed permitted => simpa using found
  | deprecated immutable stores published renewed permitted => exact found
  | promoted absent follows target => exact found
  | reported absent => exact found

/-- No change touches a channel, provenance or orphan row that is there. -/
theorem kept (change : Change P s t) {collection : Collection} (other : collection ≠ .metadata)
    {key : String} {row : Row} (found : s.row? collection key = some row) :
    t.row? collection key = some row := by
  cases collection with
  | metadata => exact absurd rfl other
  | channels =>
    rcases change.channels key with same | ⟨_, _, _, absent, _⟩
    · rw [same, found]
    · rw [absent] at found
      cases found
  | provenance =>
    rcases change.provenance key with same | ⟨_, _, _, _, _, absent, _⟩
    · rw [same, found]
    · rw [absent] at found
      cases found
  | orphanCandidates =>
    rcases change.orphans key with same | ⟨_, _, _, absent, _⟩
    · rw [same, found]
    · rw [absent] at found
      cases found

theorem keeps_object (change : Change P s t) {objectId : String} {object : StoredObject}
    (found : s.object? objectId = some object) : t.object? objectId = some object := by
  rcases change.objects objectId with same | ⟨_, _, _, absent, _⟩
  · rw [same, found]
  · rw [absent] at found
    cases found

end Change

end ConfigArtifact
