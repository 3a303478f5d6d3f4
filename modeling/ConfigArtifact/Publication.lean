import ConfigArtifact.Channels

/-! What the configuration and the artifact publisher have in common. -/

set_option autoImplicit false

namespace ConfigArtifact

open Interaction Fallible MetadataRepository

variable {X : Platform}

structure PublicationReceipt (X : Platform) where
  resource : StoredResourceV1 X
  idempotent : Bool
  objectCommitted : Bool
  metadataCommitted : Bool
  channel : Option ResourceChannelV1 := none
  orphanCandidate : Option (OrphanCandidateV1 X) := none

structure ResolvedResource (X : Platform) where
  resource : StoredResourceV1 X
  channel : Option ResourceChannelV1 := none

/-- `{} if value is None else value`. -/
def orEmpty (value : JsonValue) : JsonValue := if value = .null then .object [] else value

/-- `canonical_mapping({} if annotations is None else annotations, ...)`. -/
def annotationsOf (X : Platform) (annotations : JsonValue) : Except PyError Mapping :=
  canonicalMapping X (orEmpty annotations) "annotations" (some 64) (some 262144)

/-- The rest of the transaction, once the metadata is put. -/
def publishProvenance (same : StoredResourceFields X → StoredResourceFields X → Bool)
    (candidate stored : StoredResourceV1 X) : StructuredM (StoredResourceV1 X) :=
  if same candidate.toStoredResourceFields stored.toStoredResourceFields then
    match stored.provenanceRecord with
    -- A resource without provenance has no row of it.
    | none => return stored
    | some record => do
      let _ ← putProvenance record
      return stored
  else throw (identityConflict (some candidate.identity.canonical))

/-- The transaction that writes a resource and its provenance. -/
def publication (same : StoredResourceFields X → StoredResourceFields X → Bool)
    (candidate : StoredResourceV1 X) : StructuredM (StoredResourceV1 X) := do
  let stored ← putResource candidate
  publishProvenance same candidate stored

/-- `_promote` of either publisher. -/
def promotePublished (profile : ResourceProfile) (resource : StoredResourceV1 X)
    (channel expectedPointerVersion actor : JsonValue) : PyM X (Option ResourceChannelV1) := do
  if channel = .null then
    if expectedPointerVersion ≠ .null then
      throw (.valueError "expected_pointer_version requires channel")
    else return none
  else if expectedPointerVersion = .null then
    throw (.valueError "channel promotion requires expected_pointer_version")
  else do
    let pointer ← ChannelRepository.promote (.resource resource) channel expectedPointerVersion
      actor (some profile)
    return some pointer

/-- `_existing_receipt` of either publisher. -/
def existingReceipt (profile : ResourceProfile)
    (same : StoredResourceFields X → StoredResourceFields X → Bool)
    (candidate existing : StoredResourceV1 X) (channel expectedPointerVersion actor : JsonValue) :
    PyM X (PublicationReceipt X) := do
  if same candidate.toStoredResourceFields existing.toStoredResourceFields then
    let promoted ← promotePublished profile existing channel expectedPointerVersion actor
    return {
      resource := existing, idempotent := true, objectCommitted := profile = .artifact
      metadataCommitted := true, channel := promoted }
  else throw (identityConflict (some candidate.identity.canonical))

/-- `get_resource` of an identity that must exist. -/
def requiredResource (X : Platform) (resourceId : String) : PyM X (StoredResourceV1 X) := do
  match ← StructuredM.lift (getResource X resourceId true) with
  | none => throw (.runtimeError "required resource lookup returned no value")
  | some resource => return resource

/-- `deprecate` of either publisher, after its own profile check. -/
def deprecateWith (require : StoredResourceV1 X → Except PyError Unit)
    (identity : ResourceIdentity) : PyM X (StoredResourceV1 X) := do
  let resource ← requiredResource X (identity.resourceId X)
  settle (require resource)
  -- Deprecating again makes no further call.
  if resource.state = .deprecated then return resource
  else
    match ← attempt (deprecateResource resource) with
    | .ok stored => return stored
    | .error error =>
      if error.hasCategory .conflict then
        match ← StructuredM.lift (getResource X (identity.resourceId X) true) with
        | none => throw error
        | some winner => if winner.state = .deprecated then return winner else throw error
      else throw error

/-- `channel` of either consumer, with its own profile check. -/
def resolveChannel (require : StoredResourceV1 X → Except PyError Unit)
    («namespace» kind name channel : JsonValue) : PyM X (ResolvedResource X) := do
  match ← ChannelRepository.get X «namespace» kind name channel true with
  | none => throw (.runtimeError "required channel lookup returned no value")
  | some pointer => do
    let resource ← requiredResource X pointer.targetResourceId
    settle (require resource)
    return { resource, channel := some pointer }

end ConfigArtifact
