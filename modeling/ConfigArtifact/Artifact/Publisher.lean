import ConfigArtifact.Artifact.Payloads
import ConfigArtifact.Publication
import ConfigArtifact.Repositories.Object

/-! Artifact publication: the Object first, then its metadata. -/

set_option autoImplicit false

namespace ConfigArtifact

open Interaction Fallible MetadataRepository
open StoredResourceFields (sameArtifact)

variable {X : Platform}

structure ArtifactRequest (X : Platform) where
  «namespace» : JsonValue
  kind : JsonValue
  name : JsonValue
  version : JsonValue
  payload : ArtifactPayload
  actor : JsonValue
  mediaTypeValue : JsonValue := .str "application/octet-stream"
  expectedDigest : JsonValue := .null
  expectedLength : JsonValue := .null
  labels : JsonValue := .null
  annotations : JsonValue := .null
  provenance : Option (ProvenanceV1 X) := none
  supersedes : JsonValue := .null
  versionOrder : JsonValue := .null
  channel : JsonValue := .null
  expectedPointerVersion : JsonValue := .null

/-- `_require_artifact`. -/
def requireArtifact (resource : StoredResourceV1 X) : Except PyError Unit :=
  raiseIf (resource.profile ≠ .artifact)
    (incompatibleProfile "resource is not an artifact" (some resource.resourceId))

namespace ArtifactPublisher

/-- The content a publication is about: its identity, digest, length and media type. -/
structure Content where
  identity : ResourceIdentity
  digest : String
  byteLength : Nat
  mediaType : String

/-- The arguments of the candidate that `_candidate` builds. -/
def candidateArguments (request : ArtifactRequest X) (content : Content)
    (objectRef : ObjectReference) (annotations : Mapping) (createdAt : String) :
    StoredResourceArguments X where
  resourceId := .str (content.identity.resourceId X)
  «namespace» := .str content.identity.namespace
  kind := .str content.identity.kind
  name := .str content.identity.name
  version := .str content.identity.version
  profile := .artifact
  state := .published
  mediaType := .str content.mediaType
  digest := .str content.digest
  byteLength := natJson content.byteLength
  createdBy := request.actor
  createdAt := .str createdAt
  objectRef := some objectRef
  labels := orEmpty request.labels
  annotations := .object annotations
  provenance := request.provenance
  supersedes := request.supersedes
  versionOrder := request.versionOrder

/-- `_candidate`. -/
def candidate (request : ArtifactRequest X) (content : Content)
    (objectRef : Option ObjectReference) : PyM X (StoredResourceV1 X) := do
  match objectRef with
  | none =>
    throw (identityConflict (some content.identity.canonical) "stored artifact has no ObjectRef")
  | some objectRef => do
    let annotations ← settle (annotationsOf X request.annotations)
    let createdAt ← currentTimestamp
    settle (StoredResourceV1.create X
      (candidateArguments request content objectRef annotations createdAt))

def userMetadata (X : Platform) (identity : ResourceIdentity) : StringMapping :=
  [("resourceId", identity.resourceId X), ("namespace", identity.namespace),
    ("kind", identity.kind), ("name", identity.name), ("version", identity.version)]

def creationContext (actor : JsonValue) : Mapping :=
  [("actor", actor), ("profile", .str ResourceProfile.artifact.value)]

/-- `_verify_object_metadata`. -/
def verifyObjectMetadata (X : Platform) (metadata : ObjectMetadata) (content : Content) :
    Except PyError Unit :=
  raiseIf (metadata.objectRef.resourceRef ≠ X.objectResource ∨
      metadata.objectRef.objectId ≠ content.identity.objectId X ∨
      metadata.digest ≠ content.digest ∨ metadata.byteLength ≠ content.byteLength ∨
      metadata.mediaType ≠ content.mediaType)
    (identityConflict (some content.identity.canonical)
      "logical artifact Object already has incompatible content")

/-- The Object that exists already, in place of the one that could not be put. -/
def statExisting (identity : ResourceIdentity) : PyM X ObjectMetadata := do
  let reference ← settle (X.objectReference X.objectResource (identity.objectId X) none)
  ObjectRepository.stat reference

/-- `_put_object`. -/
def putObject (request : ArtifactRequest X) (content : Content) (payload : PayloadReference) :
    PyM X (ObjectMetadata × Bool) := do
  let (metadata, idempotent) ←
    match ← attempt (ObjectRepository.put (content.identity.objectId X) payload content.mediaType
        content.digest content.byteLength (userMetadata X content.identity)
        (creationContext request.actor)
        (match request.provenance with
          | none => []
          | some provenance => provenance.toDict)) with
    | .ok metadata => pure (metadata, false)
    | .error error =>
      -- The Object that is there is verified like one that has just been put.
      if error.isObjectConflict then do
        let metadata ← statExisting content.identity
        pure (metadata, true)
      else throw error
  settle (verifyObjectMetadata X metadata content)
  return (metadata, idempotent)

/-- `_record_orphan`: the candidate, whether or not it could be stored. -/
def recordOrphan (resource : StoredResourceV1 X) (reason : String) :
    PyM X (OrphanCandidateV1 X) := do
  match resource.objectRef with
  | none =>
    throw (incompatibleProfile "artifact resource has no ObjectRef" (some resource.resourceId))
  | some objectRef => do
    let discoveredAt ← currentTimestamp
    let orphan ← settle (OrphanCandidateV1.create X {
      candidateId := .str (orphanCandidateId X resource.resourceId objectRef.objectId
        resource.digest)
      resourceId := .str resource.resourceId
      objectRef
      digest := .str resource.digest
      byteLength := natJson resource.byteLength
      reason := .str reason
      discoveredAt := .str discoveredAt
      state := .recorded })
    match ← attempt (StructuredM.lift (putOrphan orphan)) with
    | .ok stored => return stored
    -- Whatever the put raises is swallowed.
    | .error _ => return orphan

/-- The Object stays without metadata: record it and say so. -/
def incomplete (candidate : StoredResourceV1 X) (error : PyError) :
    PyM X (PublicationReceipt X) := do
  let _ ← recordOrphan candidate "metadata-publication-failed"
  throw (incompletePublication "Object committed but structured metadata publication failed"
    (some candidate.identity.canonical) (some (safeCause error)))

/-- Publication over a metadata row that exists already. -/
def publishExisting (request : ArtifactRequest X) (content : Content)
    (existing : StoredResourceV1 X) : PyM X (PublicationReceipt X) := do
  if existing.profile ≠ .artifact ∨ existing.digest ≠ content.digest ∨
      existing.byteLength ≠ content.byteLength ∨ existing.mediaType ≠ content.mediaType then
    throw (identityConflict (some content.identity.canonical))
  else do
    -- The stored reference is taken over, so it never makes a difference.
    let candidate ← candidate request content existing.objectRef
    existingReceipt .artifact sameArtifact candidate existing request.channel
      request.expectedPointerVersion request.actor

/-- The metadata phase, once the Object is committed. -/
def publishMetadata (request : ArtifactRequest X) (candidate : StoredResourceV1 X)
    (objectIdempotent : Bool) : PyM X (PublicationReceipt X) := do
  match ← attempt (inTransaction (publication sameArtifact candidate)) with
  | .ok stored => do
    let promoted ← promotePublished .artifact stored request.channel
      request.expectedPointerVersion request.actor
    return {
      resource := stored, idempotent := objectIdempotent, objectCommitted := true
      metadataCommitted := true, channel := promoted }
  | .error error =>
    -- The handlers of the inner `try`, in their order.
    if error.hasType .identityConflict then throw error
    else if error.hasCategory .conflict then
      match ← StructuredM.lift (getResource X candidate.resourceId false) with
      | some winner =>
        existingReceipt .artifact sameArtifact candidate winner request.channel
          request.expectedPointerVersion request.actor
      | none => incomplete candidate error
    else incomplete candidate error

/-- The body of the `try` whose `finally` releases the payload. -/
def publishRegistered (request : ArtifactRequest X) (content : Content)
    (payload : PayloadReference) : PyM X (PublicationReceipt X) := do
  match ← StructuredM.lift (getResource X (content.identity.resourceId X) false) with
  | some existing => publishExisting request content existing
  | none => do
    let (metadata, objectIdempotent) ← putObject request content payload
    -- Built outside the inner `try`: what this raises records no orphan.
    let candidate ← candidate request content (some metadata.objectRef)
    publishMetadata request candidate objectIdempotent

/-- `finally`: release a payload this call has registered. -/
def releaseOwned (registered : RegisteredPayload) : PyM X Unit :=
  if registered.owned then invoke (Call.releasePayload registered.reference : Call X)
  else pure ()

def publish (request : ArtifactRequest X) : PyM X (PublicationReceipt X) := do
  let identity ← settle (ResourceIdentity.create request.namespace request.kind request.name
    request.version)
  let mediaType ← settle (mediaType request.mediaTypeValue)
  let registered ← registerPayload request.payload request.expectedDigest request.expectedLength
  ensuring
    (publishRegistered request ⟨identity, registered.digest, registered.byteLength, mediaType⟩
      registered.reference)
    (releaseOwned registered)

def «deprecate» (identity : ResourceIdentity) : PyM X (StoredResourceV1 X) :=
  deprecateWith requireArtifact identity

def promote (target : PromotionTarget X) (channel expectedPointerVersion actor : JsonValue) :
    PyM X ResourceChannelV1 :=
  ChannelRepository.promote target channel expectedPointerVersion actor (some .artifact)

end ArtifactPublisher

end ConfigArtifact
