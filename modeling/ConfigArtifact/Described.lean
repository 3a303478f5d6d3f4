import ConfigArtifact.Simulation

/-! Records with every field filled in, on a platform that knows their documents. -/

set_option autoImplicit false

namespace ConfigArtifact

namespace Reference

/-- The documents that the codec knows, among them one with a boolean and one with a number. -/
def documents : List (JsonValue × Bytes) :=
  [(.object [], emptyObject),
    (.object [("retain", .bool true)], retainTrue),
    (.object [("retain", .int 1)],
      [0x7b, 0x22, 0x72, 0x65, 0x74, 0x61, 0x69, 0x6e, 0x22, 0x3a, 0x31, 0x7d])]

def encodeDocument (value : JsonValue) : Except PyError Bytes :=
  match documents.find? fun document => document.1 = freezeJson value with
  | some document => .ok document.2
  | none => .error (.valueError "value is not known to the reference codec")

def decodeDocument (encoded : Bytes) : Except PyError JsonValue :=
  match documents.find? fun document => document.2 = encoded with
  | some document => .ok document.1
  | none => .error (.valueError "bytes are not known to the reference codec")

theorem encodeDocument_ok {value : JsonValue} {encoded : Bytes}
    (written : encodeDocument value = .ok encoded) : (freezeJson value, encoded) ∈ documents := by
  unfold encodeDocument at written
  split at written
  · next document found =>
    cases written
    have same := List.find?_some found
    rw [decide_eq_true_eq] at same
    rw [← same]
    exact List.mem_of_find?_eq_some found
  · cases written

/-- The codec reads every document that it writes. -/
theorem documents_known : ∀ document ∈ documents, decodeDocument document.2 = .ok document.1 ∧
    encodeDocument document.1 = .ok document.2 := by
  decide +kernel

theorem mappingSize?_freeze {value : JsonValue} {size : Nat}
    (sized : value.mappingSize? = some size) : (freezeJson value).mappingSize? = some size := by
  unfold JsonValue.mappingSize? at sized
  split at sized
  · cases sized
    rw [freezeJson]
    simp [JsonValue.mappingSize?, List.length_insertionSort, freezeEntries_eq_map]
  · cases sized
    rfl
  · cases sized

theorem documents_sized : ∀ document ∈ documents, ∀ size, document.1.mappingSize? = some size →
    ∃ loaded, document.1 = .object loaded ∧ loaded.length ≤ size := by
  intro document member size sized
  simp only [documents, List.mem_cons, List.not_mem_nil, or_false] at member
  rcases member with rfl | rfl | rfl <;> exact ⟨_, rfl, (Option.some.inj sized).le⟩

/-- The reference platform with a codec for more documents. -/
def documented : Platform :=
  { Platform.reference with
    canonicalJsonBytes := encodeDocument
    jsonLoads := decodeDocument
    canonical_freeze := fun value => by
      unfold encodeDocument
      rw [freezeJson_freezeJson]
    loads_canonical := fun written =>
      ⟨_, (documents_known _ (encodeDocument_ok written)).1,
        (documents_known _ (encodeDocument_ok written)).2⟩
    loads_object := fun sized written => by
      have known := encodeDocument_ok written
      obtain ⟨loaded, same, short⟩ := documents_sized _ known _ (mappingSize?_freeze sized)
      exact ⟨loaded, (documents_known _ known).1.trans (congrArg Except.ok same), short⟩ }

/-- Who built the configuration, and from what. -/
def source : ProvenanceV1 documented where
  producer := "builder"
  producerVersion := "1.4"
  sourceDigests := [("flags.json", documented.digestOf retainTrue)]
  buildId := some "build-7"
  validationVersion := some "2"
  attributes := [("retain", .int 1)]
  valid := {
    producer := by decide
    producerVersion := by decide
    sourceDigests := ⟨by decide, by decide, by decide +kernel⟩
    digests := by decide +kernel
    buildId := by decide
    validationVersion := by decide
    attributes := by decide +kernel }

/-- A configuration that leaves no field empty. -/
def described : StoredResourceV1 documented where
  identity := identity
  profile := .configuration
  state := .published
  mediaType := "application/json"
  digest := documented.digestOf retainTrue
  byteLength := 15
  createdBy := "alice"
  createdAt := "2026-01-01T00:00:00.000000Z"
  objectRef := none
  payload := some [("retain", .bool true)]
  payloadSchema := some schema
  labels := [("owner", "core")]
  annotations := [("retain", .int 1)]
  provenance := some source
  supersedes := some "1"
  immutable := true
  versionOrder := some 7
  recordVersion := some (.number 1)
  valid := {
    mediaType := by decide
    digest := by decide +kernel
    createdBy := by decide
    createdAt := by decide
    labels := ⟨by decide, by decide, by decide⟩
    annotations := by decide +kernel
    supersedes := by decide
    immutable_iff := by decide
    content := ⟨rfl, rfl, _, retainTrue, rfl, by decide +kernel, by decide +kernel, rfl, rfl⟩ }

/-- The pointer of a channel to the configuration. -/
def describedPointer : ResourceChannelV1 where
  key := { «namespace» := "team", kind := "feature", name := "flags", channel := "stable" }
  targetResourceId := described.resourceId
  pointerVersion := 3
  actor := "bob"
  updatedAt := "2026-01-02T00:00:00.000000Z"
  recordVersion := some (.text "7")
  valid := {
    «namespace» := by constructor <;> decide
    kind := by constructor <;> decide
    name := by constructor <;> decide
    channel := by constructor <;> decide
    pointerVersion := by decide
    targetResourceId := ResourceIdentity.isResourceId_resourceId documented identity
    actor := by decide
    updatedAt := by decide }

/-- An Object that no row of the identity names. -/
def describedOrphan : OrphanCandidateV1 documented where
  resourceId := described.resourceId
  objectRef := ⟨documented.objectResource, objectIdOf described.resourceId, some described.digest⟩
  digest := described.digest
  byteLength := 15
  reason := "metadata publication failed"
  discoveredAt := "2026-01-03T00:00:00.000000Z"
  state := .recorded
  recordVersion := some (.number 2)
  valid := {
    resourceId := ResourceIdentity.isResourceId_resourceId documented identity
    objectRef := rfl
    digest := described.valid.digest
    matching := rfl
    reason := by decide
    discoveredAt := by decide }

end Reference

end ConfigArtifact
