import ConfigArtifact.Publication

/-! Configuration publication and consumption. -/

set_option autoImplicit false

namespace ConfigArtifact

open Interaction Fallible MetadataRepository
open StoredResourceFields (sameConfiguration)

variable {X : Platform}

structure ConfigurationRequest (X : Platform) where
  «namespace» : JsonValue
  kind : JsonValue
  name : JsonValue
  version : JsonValue
  payload : JsonValue
  schema : PayloadSchemaRef.Argument
  actor : JsonValue
  mediaTypeValue : JsonValue := .str "application/json"
  labels : JsonValue := .null
  annotations : JsonValue := .null
  provenance : Option (ProvenanceV1 X) := none
  supersedes : JsonValue := .null
  versionOrder : JsonValue := .null
  channel : JsonValue := .null
  expectedPointerVersion : JsonValue := .null

namespace ConfigurationPublisher

/-- The arguments of the candidate that `publish` builds. -/
def candidateArguments (request : ConfigurationRequest X) (identity : ResourceIdentity)
    (schema : PayloadSchemaRef) (mediaType : String) (payload annotations : Mapping)
    (encoded : Bytes) (createdAt : String) : StoredResourceArguments X where
  resourceId := .str (identity.resourceId X)
  «namespace» := .str identity.namespace
  kind := .str identity.kind
  name := .str identity.name
  version := .str identity.version
  profile := .configuration
  state := .published
  mediaType := .str mediaType
  digest := .str (X.digestOf encoded)
  byteLength := natJson encoded.length
  createdBy := request.actor
  createdAt := .str createdAt
  payload := .object payload
  payloadSchema := some (.ref schema)
  labels := orEmpty request.labels
  annotations := .object annotations
  provenance := request.provenance
  supersedes := request.supersedes
  versionOrder := request.versionOrder

/-- The resource a request asks to publish. -/
def candidate (request : ConfigurationRequest X) : PyM X (StoredResourceV1 X) := do
  let identity ← settle (ResourceIdentity.create request.namespace request.kind request.name
    request.version)
  let schema ← settle (PayloadSchemaRef.parse request.schema)
  let validated ← invoke (Call.validate request.payload schema : Call X)
  let payload ← settle (canonicalMapping X validated "payload" none none)
  let encoded ← settle (X.canonicalJsonBytes (.object (thawEntries payload)))
  let mediaType ← settle (mediaType request.mediaTypeValue)
  let annotations ← settle (annotationsOf X request.annotations)
  let createdAt ← currentTimestamp
  settle (StoredResourceV1.create X
    (candidateArguments request identity schema mediaType payload annotations encoded createdAt))

def publish (request : ConfigurationRequest X) : PyM X (PublicationReceipt X) := do
  let candidate ← candidate request
  match ← StructuredM.lift (getResource X candidate.resourceId false) with
  | some existing =>
    existingReceipt .configuration sameConfiguration candidate existing request.channel
      request.expectedPointerVersion request.actor
  | none =>
    match ← attempt (inTransaction (publication sameConfiguration candidate)) with
    | .ok stored => do
      let promoted ← promotePublished .configuration stored request.channel
        request.expectedPointerVersion request.actor
      return {
        resource := stored, idempotent := false, objectCommitted := false
        metadataCommitted := true, channel := promoted }
    | .error error =>
      -- Whoever was first is answered with, if it has published the same.
      if error.hasCategory .conflict then
        match ← StructuredM.lift (getResource X candidate.resourceId false) with
        | some winner =>
          existingReceipt .configuration sameConfiguration candidate winner request.channel
            request.expectedPointerVersion request.actor
        | none => throw error
      else throw error

def «deprecate» (identity : ResourceIdentity) : PyM X (StoredResourceV1 X) :=
  deprecateWith
    (fun resource => raiseIf (resource.profile ≠ .configuration)
      (incompatibleProfile "resource is not a configuration" (some identity.canonical)))
    identity

def promote (target : PromotionTarget X) (channel expectedPointerVersion actor : JsonValue) :
    PyM X ResourceChannelV1 :=
  ChannelRepository.promote target channel expectedPointerVersion actor (some .configuration)

end ConfigurationPublisher

namespace ConfigurationConsumer

/-- `_require_configuration`. -/
def requireConfiguration (resource : StoredResourceV1 X) : Except PyError Unit :=
  raiseIf (resource.profile ≠ .configuration)
    (incompatibleProfile "resolved resource is not a configuration" (some resource.resourceId))

def exact (identity : ResourceIdentity) : PyM X (ResolvedResource X) := do
  let resource ← requiredResource X (identity.resourceId X)
  settle (requireConfiguration resource)
  return { resource }

def latest («namespace» kind name : String) : PyM X (ResolvedResource X) := do
  let resource ← StructuredM.lift (latestResource X «namespace» kind name
    (some ResourceProfile.configuration.value))
  settle (requireConfiguration resource)
  return { resource }

def channel («namespace» kind name channel : JsonValue) : PyM X (ResolvedResource X) :=
  resolveChannel requireConfiguration «namespace» kind name channel

def payload (resource : StoredResourceV1 X) : Except PyError Mapping := do
  requireConfiguration resource
  match resource.payload with
  | none =>
    .error (incompatibleProfile "configuration resource has no inline payload"
      (some resource.resourceId))
  | some payload => .ok (thawEntries payload)

end ConfigurationConsumer

end ConfigArtifact
