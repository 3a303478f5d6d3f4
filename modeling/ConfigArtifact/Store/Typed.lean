import ConfigArtifact.Store.Conforming

/-! Rows seen as the records they hold. -/

set_option autoImplicit false

namespace ConfigArtifact

variable {X : Platform}

theorem StoredResourceV1.withVersion_self (resource : StoredResourceV1 X) :
    resource.withVersion resource.recordVersion = resource := rfl

theorem ResourceChannelV1.withVersion_self (pointer : ResourceChannelV1) :
    pointer.withVersion pointer.recordVersion = pointer := rfl

theorem OrphanCandidateV1.withVersion_self (orphan : OrphanCandidateV1 X) :
    orphan.withVersion orphan.recordVersion = orphan := rfl

/-- The row holds this resource. -/
def Row.Holds (row : Row) (resource : StoredResourceV1 X) : Prop :=
  row.values = resource.toRecord ∧ resource.recordVersion = some row.version

theorem Row.Holds.reads {row : Row} {resource : StoredResourceV1 X} (holds : row.Holds resource) :
    Reads .metadata (parseResource X) row resource := by
  obtain ⟨values, version⟩ := row
  obtain ⟨same, versioned⟩ := holds
  simp only at same versioned
  subst same
  have read := reads_resource resource version
  rwa [← versioned, resource.withVersion_self] at read

/-- A row holds one resource only. -/
theorem Row.Holds.unique {row : Row} {resource other : StoredResourceV1 X}
    (holds : row.Holds resource) (again : row.Holds other) : resource = other := by
  have first := resource.fromRecord_toRecord (some row.version)
  have second := other.fromRecord_toRecord (some row.version)
  rw [← holds.1] at first
  rw [← again.1, first] at second
  have same := Except.ok.inj second
  rwa [← holds.2, resource.withVersion_self, holds.2, ← again.2, other.withVersion_self] at same

/-- The metadata row of a resource holds it. -/
def Stores (world : World) (resource : StoredResourceV1 X) : Prop :=
  ∃ row, world.row? .metadata resource.resourceId = some row ∧ row.Holds resource

/-- The row of a pointer version holds it. -/
def Points (X : Platform) (world : World) (pointer : ResourceChannelV1) : Prop :=
  ∃ row, world.row? .channels (pointer.channelVersionId X) = some row ∧
    row.values = pointer.toRecord X ∧ pointer.recordVersion = some row.version

/-- The row of a candidate holds it. -/
def Records (world : World) (orphan : OrphanCandidateV1 X) : Prop :=
  ∃ row, world.row? .orphanCandidates (orphan.candidateId X) = some row ∧
    row.values = orphan.toRecord X ∧ orphan.recordVersion = some row.version

/-- The Object holds what the resource says of it. -/
structure Backs (object : StoredObject) (resource : StoredResourceV1 X) : Prop where
  reference : resource.objectRef = some object.metadata.objectRef
  digest : object.metadata.digest = resource.digest
  byteLength : object.metadata.byteLength = resource.byteLength
  mediaType : object.metadata.mediaType = resource.mediaType

/-- The Object of an artifact is committed under the id its identity gives it. -/
def IsBacked (world : World) (resource : StoredResourceV1 X) : Prop :=
  ∃ object, world.object? (objectIdOf resource.resourceId) = some object ∧ Backs object resource

/-- What the rows and Objects of the package look like. -/
structure Consistent (X : Platform) (world : World) : Prop where
  metadata : ∀ key row, world.row? .metadata key = some row →
    ∃ resource : StoredResourceV1 X, row.Holds resource ∧ resource.resourceId = key ∧
      resource.state ≠ .draft
  channels : ∀ key row, world.row? .channels key = some row →
    ∃ pointer : ResourceChannelV1, row.values = pointer.toRecord X ∧
      pointer.recordVersion = some row.version ∧ pointer.channelVersionId X = key
  orphans : ∀ key row, world.row? .orphanCandidates key = some row →
    ∃ orphan : OrphanCandidateV1 X, row.values = orphan.toRecord X ∧
      orphan.recordVersion = some row.version ∧ orphan.candidateId X = key
  provenance : ∀ key row, world.row? .provenance key = some row →
    world.row? .metadata key ≠ none
  objects : ∀ objectId object, world.object? objectId = some object →
    object.metadata.objectRef = ⟨X.objectResource, objectId, some object.metadata.digest⟩
  intact : ∀ objectId object, world.object? objectId = some object →
    IsIntact X object.metadata.digest object.metadata.byteLength object.content
  accepted : ∀ objectId object, world.object? objectId = some object →
    X.checkMetadata object.metadata = .ok ()
  backed : ∀ resource : StoredResourceV1 X, Stores world resource →
    resource.profile = .artifact → IsBacked world resource

/-- A deployment with no rows yet, over an Object store that reports what it holds. -/
structure Fresh (X : Platform) (world : World) : Prop where
  rows : ∀ collection key, world.row? collection key = none
  objects : ∀ objectId object, world.object? objectId = some object →
    object.metadata.objectRef = ⟨X.objectResource, objectId, some object.metadata.digest⟩
  intact : ∀ objectId object, world.object? objectId = some object →
    IsIntact X object.metadata.digest object.metadata.byteLength object.content
  accepted : ∀ objectId object, world.object? objectId = some object →
    X.checkMetadata object.metadata = .ok ()

theorem Fresh.consistent {world : World} (fresh : Fresh X world) : Consistent X world where
  metadata := fun key row found => by rw [fresh.rows] at found; cases found
  channels := fun key row found => by rw [fresh.rows] at found; cases found
  orphans := fun key row found => by rw [fresh.rows] at found; cases found
  provenance := fun key row found => by rw [fresh.rows] at found; cases found
  objects := fresh.objects
  intact := fresh.intact
  accepted := fresh.accepted
  backed := fun resource stores _ => by
    obtain ⟨row, found, -⟩ := stores
    rw [fresh.rows] at found
    cases found

theorem fresh_empty (X : Platform) : Fresh X World.empty where
  rows := fun _ _ => rfl
  objects := fun _ _ found => by cases found
  intact := fun _ _ found => by cases found
  accepted := fun _ _ found => by cases found

/-- The same publication, in whatever state and at whatever record version. -/
def SameRecord (left right : StoredResourceV1 X) : Prop :=
  right.toStoredResourceFields = { left.toStoredResourceFields with
    state := right.state, recordVersion := right.recordVersion }

theorem SameRecord.refl (resource : StoredResourceV1 X) : SameRecord resource resource := rfl

theorem SameRecord.trans {first second third : StoredResourceV1 X} (one : SameRecord first second)
    (two : SameRecord second third) : SameRecord first third := by
  unfold SameRecord at *
  rw [two, one]

theorem SameRecord.identity {left right : StoredResourceV1 X} (same : SameRecord left right) :
    right.identity = left.identity := by
  unfold SameRecord at same
  rw [same]

theorem SameRecord.resourceId {left right : StoredResourceV1 X} (same : SameRecord left right) :
    right.resourceId = left.resourceId :=
  congrArg (ResourceIdentity.resourceId X) same.identity

theorem sameRecord_withVersion (resource : StoredResourceV1 X) (version : Option RecordVersion) :
    SameRecord resource (resource.withVersion version) := rfl

theorem sameRecord_deprecatedAt (resource : StoredResourceV1 X)
    (immutable : resource.immutable = true) (version : RecordVersion) :
    SameRecord resource (resource.deprecatedAt immutable version) := rfl

/-- The published fields of a resource are stored, in some state. -/
def Live (world : World) (resource : StoredResourceV1 X) : Prop :=
  ∃ stored, Stores world stored ∧ SameRecord resource stored

theorem Stores.live {world : World} {resource : StoredResourceV1 X} (stores : Stores world resource) :
    Live world resource := ⟨resource, stores, .refl _⟩

theorem Consistent.stores {world : World} (consistent : Consistent X world) {key : String} {row : Row}
    (found : world.row? .metadata key = some row) :
    ∃ resource : StoredResourceV1 X, row.Holds resource ∧ Stores world resource ∧
      resource.resourceId = key ∧ resource.state ≠ .draft := by
  obtain ⟨resource, holds, keyed, published⟩ := consistent.metadata key row found
  exact ⟨resource, holds, ⟨row, keyed ▸ found, holds⟩, keyed, published⟩

theorem keyOf_resource (resource : StoredResourceV1 X) :
    keyOf .metadata resource.toRecord = some resource.resourceId := rfl

theorem keyOf_channel (pointer : ResourceChannelV1) :
    keyOf .channels (pointer.toRecord X) = some (pointer.channelVersionId X) := rfl

theorem keyOf_orphan (orphan : OrphanCandidateV1 X) :
    keyOf .orphanCandidates (orphan.toRecord X) = some (orphan.candidateId X) := rfl

theorem keyOf_provenance {resource : StoredResourceV1 X} {record : Mapping}
    (carried : resource.provenanceRecord = some record) :
    keyOf .provenance record = some resource.resourceId := by
  obtain ⟨provenance, -, rfl⟩ := Option.map_eq_some_iff.mp carried
  rfl

end ConfigArtifact
