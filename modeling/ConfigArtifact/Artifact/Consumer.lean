import ConfigArtifact.Artifact.Publisher

/-! Artifact resolution and orphan reconciliation. -/

set_option autoImplicit false

namespace ConfigArtifact

open Interaction Fallible MetadataRepository

variable {X : Platform}

namespace ArtifactConsumer

def exact (identity : ResourceIdentity) : PyM X (ResolvedResource X) := do
  let resource ← requiredResource X (identity.resourceId X)
  settle (requireArtifact resource)
  return { resource }

def latest («namespace» kind name : String) : PyM X (ResolvedResource X) := do
  let resource ← StructuredM.lift (latestResource X «namespace» kind name
    (some ResourceProfile.artifact.value))
  settle (requireArtifact resource)
  return { resource }

def channel («namespace» kind name channel : JsonValue) : PyM X (ResolvedResource X) :=
  resolveChannel requireArtifact «namespace» kind name channel

/-- `_verify_consumed_metadata`. -/
def verifyConsumedMetadata (metadata : ObjectMetadata) (resource : StoredResourceV1 X) :
    Except PyError Unit :=
  raiseIf (resource.objectRef ≠ some metadata.objectRef ∨ metadata.digest ≠ resource.digest ∨
      metadata.byteLength ≠ resource.byteLength ∨ metadata.mediaType ≠ resource.mediaType)
    (artifactDigestMismatch (some resource.resourceId))

/-- The profile check, and the reference of the Object to consume. -/
def consumedReference (resource : StoredResourceV1 X) : Except PyError ObjectReference := do
  requireArtifact resource
  match resource.objectRef with
  | none =>
    .error (incompatibleProfile "artifact resource has no ObjectRef" (some resource.resourceId))
  | some reference => .ok reference

/-- `except (ObjectNotFound, MeridianError)`: a missing Object has its own error. -/
def orMissing (resource : StoredResourceV1 X) (error : PyError) : PyError :=
  if error.hasType .objectNotFound || error.hasCategory .notFound then
    missingObject (some resource.resourceId)
  else error

def stat (resource : StoredResourceV1 X) : PyM X ObjectMetadata := do
  let reference ← settle (consumedReference resource)
  match ← attempt (ObjectRepository.stat reference) with
  | .error error => throw (orMissing resource error)
  | .ok metadata => do
    settle (verifyConsumedMetadata metadata resource)
    return metadata

/-- The resource that a listed Object belongs to, if it is one of the package's. -/
def scanned (item : ObjectMetadata) : Option String :=
  match item.userMetadata.lookup "resourceId" with
  | none => none
  | some resourceId =>
    if isResourceId resourceId && item.objectRef.objectId = objectIdOf resourceId then
      some resourceId
    else none

/-- The candidate for an Object whose metadata row is missing. -/
def orphanOf (item : ObjectMetadata) (resourceId : String) : PyM X (OrphanCandidateV1 X) := do
  let reference ← settle (X.objectReference item.objectRef.resourceRef item.objectRef.objectId
    (some item.digest))
  let now ← invoke (Call.utcNow : Call X)
  let discoveredAt ← settle (utcTimestampOfDatetime now)
  settle (OrphanCandidateV1.create X {
    candidateId := .str (orphanCandidateId X resourceId reference.objectId item.digest)
    resourceId := .str resourceId
    objectRef := reference
    digest := .str item.digest
    byteLength := natJson item.byteLength
    reason := .str "object-without-structured-metadata"
    discoveredAt := .str discoveredAt
    state := .discovered })

/-- The loop over one page of listed Objects. -/
def scanItems (record : Bool) : List ObjectMetadata → PyM X (List (OrphanCandidateV1 X))
  | [] => return []
  | item :: rest =>
    match scanned item with
    | none => scanItems record rest
    | some resourceId => do
      match ← StructuredM.lift (getResource X resourceId false) with
      -- A row of either profile is enough to pass over the Object.
      | some _ => scanItems record rest
      | none => do
        let candidate ← orphanOf item resourceId
        let candidate ← if record then StructuredM.lift (putOrphan candidate) else pure candidate
        let candidates ← scanItems record rest
        return candidate :: candidates

def discoverOrphans (limit : Int) (cursor : Option String) (record : Bool) :
    PyM X (OrphanPage X) := do
  let page ← ObjectRepository.list "artifacts/" limit cursor
  let candidates ← scanItems record page.items
  return ⟨candidates, page.cursor⟩

end ArtifactConsumer

end ConfigArtifact
