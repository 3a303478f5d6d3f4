import ConfigArtifact.Canonical.Text

/-! What the package takes from its platform.

Hashing, JSON text and the value types of the Object Catalog belong to other
packages. A platform supplies them together with the facts about them that the
package relies on. Nothing here says that a hash has no collisions: where that
matters, a result says so about the identities it is about.
-/

set_option autoImplicit false

namespace ConfigArtifact

abbrev Bytes := List UInt8

/-- `ResourceRef`, and `ResourceReference` parsed from one. -/
structure ResourceRef where
  catalog : String
  «namespace» : String
  name : String
  deriving DecidableEq, Repr

structure ObjectReference where
  resourceRef : ResourceRef
  objectId : String
  digest : Option String
  deriving DecidableEq, Repr

structure ObjectMetadata where
  objectRef : ObjectReference
  digest : String
  byteLength : Nat
  mediaType : String
  userMetadata : List (String × String)
  creationContext : Mapping
  provenance : Mapping
  deriving DecidableEq

structure PayloadReference where
  token : String
  expectedDigest : Option String
  expectedLength : Option Int
  deriving DecidableEq, Repr

/-- The four structured collections of the package. -/
inductive Collection where
  | metadata
  | channels
  | provenance
  | orphanCandidates
  deriving DecidableEq, Repr

/-- `rs_[0-9a-f]{32}` and its siblings. -/
def hasHexId (start : String) (text : String) : Bool :=
  text.toList.take start.length = start.toList && isHexOf 32 (text.toList.drop start.length)

def isResourceId : String → Bool := hasHexId "rs_"

def objectIdOf (resourceId : String) : String := "artifacts/" ++ resourceId

theorem objectIdOf_inj {resourceId other : String} :
    objectIdOf resourceId = objectIdOf other ↔ resourceId = other :=
  String.append_right_inj "artifacts/"

structure Platform where
  /-- `hashlib.sha256(value).hexdigest()` -/
  sha256 : Bytes → String
  /-- `uuid.uuid5(namespace, name).hex` -/
  uuid5 : String → String → String
  canonicalJsonBytes : JsonValue → Except PyError Bytes
  /-- `json.loads(encoded.decode("utf-8"))` -/
  jsonLoads : Bytes → Except PyError JsonValue
  /-- The constructor `ObjectReference(resource_ref, object_id, digest)`. -/
  objectReference : ResourceRef → String → Option String → Except PyError ObjectReference
  /-- `parse_object_reference(reference, require_digest=True)` of an `ObjectReference`. -/
  checkObjectReference : ObjectReference → Except PyError ObjectReference
  /-- `parse_object_reference(value, require_digest=True)` of a mapping. -/
  parseObjectReference : Mapping → Except PyError ObjectReference
  objectReferenceToDict : ObjectReference → Mapping
  /-- What `ObjectCatalogSurface.put` checks of the metadata it is to store, before it calls. -/
  checkMetadata : ObjectMetadata → Except PyError Unit
  parseObjectMetadata : Mapping → Except PyError ObjectMetadata
  objectMetadataToDict : ObjectMetadata → Mapping
  /-- `PayloadReference.from_mapping` -/
  parsePayloadReference : Mapping → Except PyError PayloadReference
  payloadReferenceToDict : PayloadReference → Mapping
  /-- `ResourceRef.parse(value, catalog="structured")` -/
  parseResourceRef : Mapping → Except PyError ResourceRef
  resourceRefToDict : ResourceRef → Mapping
  /-- The payload validator: a payload, and the namespace, name and version of its Schema. -/
  validate : JsonValue → String → String → String → Except PyError JsonValue
  /-- The structured Resource each collection of the deployment is. -/
  collectionRef : Collection → ResourceRef
  objectResource : ResourceRef
  /-- The cursor of the page that starts at an offset. -/
  cursorAt : Nat → String
  cursorOffset : String → Option Nat
  sha256_hex : ∀ value, isHexOf 64 (sha256 value).toList = true
  uuid5_hex : ∀ namespaceId name, isHexOf 32 (uuid5 namespaceId name).toList = true
  canonical_freeze : ∀ value, canonicalJsonBytes (freezeJson value) = canonicalJsonBytes value
  loads_canonical : ∀ {value encoded}, canonicalJsonBytes value = .ok encoded →
    ∃ loaded, jsonLoads encoded = .ok loaded ∧ canonicalJsonBytes loaded = .ok encoded
  loads_object : ∀ {value encoded size}, value.mappingSize? = some size →
    canonicalJsonBytes value = .ok encoded →
      ∃ loaded, jsonLoads encoded = .ok (.object loaded) ∧ loaded.length ≤ size
  objectReference_ok : ∀ {resourceRef objectId digest reference},
    objectReference resourceRef objectId digest = .ok reference →
      reference = ⟨resourceRef, objectId, digest⟩
  objectReference_artifact : ∀ {resourceId}, isResourceId resourceId = true → ∀ digest,
    (∀ text ∈ digest, isDigest text = true) →
      objectReference objectResource (objectIdOf resourceId) digest =
        .ok ⟨objectResource, objectIdOf resourceId, digest⟩
  check_ok : ∀ {reference checked}, checkObjectReference reference = .ok checked →
    checked = reference ∧ reference.digest ≠ none
  check_artifact : ∀ {resourceId digest}, isResourceId resourceId = true →
    isDigest digest = true →
      checkObjectReference ⟨objectResource, objectIdOf resourceId, some digest⟩ =
        .ok ⟨objectResource, objectIdOf resourceId, some digest⟩
  check_parse : ∀ {entries reference}, parseObjectReference entries = .ok reference →
    checkObjectReference reference = .ok reference
  parse_toDict : ∀ {reference}, checkObjectReference reference = .ok reference →
    parseObjectReference (objectReferenceToDict reference) = .ok reference
  check_conflict : ∀ {metadata error}, checkMetadata metadata = .error error →
    error.isObjectConflict = false
  /-- Content alone is nothing to refuse: only the mappings beside it may be. -/
  check_content : ∀ {reference digest length mediaType},
    checkObjectReference reference = .ok reference → reference.digest = some digest →
      isBounded mediaType 255 = true → isMediaType mediaType = true →
        checkMetadata ⟨reference, digest, length, mediaType, [], [], []⟩ = .ok ()
  parse_metadata : ∀ {metadata}, checkMetadata metadata = .ok () →
    parseObjectMetadata (objectMetadataToDict metadata) = .ok metadata
  parse_payload : ∀ reference,
    parsePayloadReference (payloadReferenceToDict reference) = .ok reference
  parse_resourceRef : ∀ collection,
    parseResourceRef (resourceRefToDict (collectionRef collection)) = .ok (collectionRef collection)
  cursorOffset_cursorAt : ∀ offset, cursorOffset (cursorAt offset) = some offset

namespace Platform

variable (X : Platform)

def digestOf (value : Bytes) : String := "sha256:" ++ X.sha256 value

/-- `canonical_value`. -/
def canonicalValue (value : JsonValue) : Except PyError JsonValue := do
  let encoded ← X.canonicalJsonBytes value
  X.jsonLoads encoded

end Platform

theorem take_front (start text : String) :
    (start ++ text).toList.take start.length = start.toList := by
  rw [String.toList_append, ← String.length_toList, List.take_left']
  rfl

theorem drop_front (start text : String) :
    (start ++ text).toList.drop start.length = text.toList := by
  rw [String.toList_append, ← String.length_toList, List.drop_left']
  rfl

theorem hasHexId_append {start text : String} (hex : isHexOf 32 text.toList = true) :
    hasHexId start (start ++ text) = true := by
  unfold hasHexId
  rw [take_front, drop_front, hex]
  simp

theorem Platform.isDigest_digestOf (X : Platform) (value : Bytes) :
    isDigest (X.digestOf value) = true := by
  have front := take_front "sha256:" (X.sha256 value)
  have rest := drop_front "sha256:" (X.sha256 value)
  rw [show "sha256:".length = 7 from rfl] at front rest
  unfold isDigest digestOf
  rw [front, rest, X.sha256_hex]
  simp

end ConfigArtifact
