import ConfigArtifact.Models.Record

/-! Stored resources: the metadata rows of published versions. -/

set_option autoImplicit false

namespace ConfigArtifact

structure StoredResourceArguments (X : Platform) where
  resourceId : JsonValue
  «namespace» : JsonValue
  kind : JsonValue
  name : JsonValue
  version : JsonValue
  profile : ResourceProfile
  state : ResourceState
  mediaType : JsonValue
  digest : JsonValue
  byteLength : JsonValue
  createdBy : JsonValue
  createdAt : JsonValue
  objectRef : Option ObjectReference := none
  payload : JsonValue := .null
  payloadSchema : Option PayloadSchemaRef.Argument := none
  labels : JsonValue := .object []
  annotations : JsonValue := .object []
  provenance : Option (ProvenanceV1 X) := none
  supersedes : JsonValue := .null
  immutable : JsonValue := .bool true
  versionOrder : JsonValue := .null
  recordVersion : JsonValue := .null
  formatVersion : JsonValue := .str "meridian.config-artifact.stored-resource.v1"

structure StoredResourceFields (X : Platform) where
  identity : ResourceIdentity
  profile : ResourceProfile
  state : ResourceState
  mediaType : String
  digest : String
  byteLength : Nat
  createdBy : String
  createdAt : String
  objectRef : Option ObjectReference
  payload : Option Mapping
  payloadSchema : Option PayloadSchemaRef
  labels : StringMapping
  annotations : Mapping
  provenance : Option (ProvenanceV1 X)
  supersedes : Option String
  immutable : Bool
  versionOrder : Option Nat
  recordVersion : Option RecordVersion
  deriving DecidableEq

variable {X : Platform}

namespace StoredResourceFields

def formatVersion : String := "meridian.config-artifact.stored-resource.v1"

def resourceId (fields : StoredResourceFields X) : String := fields.identity.resourceId X

def toArguments (fields : StoredResourceFields X) : StoredResourceArguments X where
  resourceId := .str fields.resourceId
  «namespace» := .str fields.identity.namespace
  kind := .str fields.identity.kind
  name := .str fields.identity.name
  version := .str fields.identity.version
  profile := fields.profile
  state := fields.state
  mediaType := .str fields.mediaType
  digest := .str fields.digest
  byteLength := natJson fields.byteLength
  createdBy := .str fields.createdBy
  createdAt := .str fields.createdAt
  objectRef := fields.objectRef
  payload := optionalJson .object fields.payload
  payloadSchema := fields.payloadSchema.map .ref
  labels := fields.labels.toJson
  annotations := .object fields.annotations
  provenance := fields.provenance
  supersedes := optionalJson .str fields.supersedes
  immutable := .bool fields.immutable
  versionOrder := optionalJson natJson fields.versionOrder
  recordVersion := optionalJson RecordVersion.toJson fields.recordVersion
  formatVersion := .str formatVersion

def toRecord (fields : StoredResourceFields X) : Mapping :=
  [("formatVersion", .str formatVersion),
    ("resourceId", .str fields.resourceId),
    ("namespace", .str fields.identity.namespace),
    ("kind", .str fields.identity.kind),
    ("name", .str fields.identity.name),
    ("version", .str fields.identity.version),
    ("profile", .str fields.profile.value),
    ("state", .str fields.state.value),
    ("mediaType", .str fields.mediaType),
    ("digest", .str fields.digest),
    ("byteLength", natJson fields.byteLength),
    ("objectRef", optionalJson (fun reference => .object (X.objectReferenceToDict reference))
      fields.objectRef),
    ("payload", optionalJson (fun payload => .object (thawEntries payload)) fields.payload),
    ("payloadSchema", optionalJson (fun schema => .object schema.toDict) fields.payloadSchema),
    ("labels", fields.labels.toJson),
    ("annotations", .object (thawEntries fields.annotations)),
    ("provenance", optionalJson (fun provenance => .object provenance.toDict) fields.provenance),
    ("createdBy", .str fields.createdBy),
    ("createdAt", .str fields.createdAt),
    ("supersedes", optionalJson .str fields.supersedes),
    ("immutable", .bool fields.immutable),
    ("versionOrder", optionalJson natJson fields.versionOrder)]

end StoredResourceFields

namespace StoredResourceV1

/-- What the two profiles carry: an inline payload with its Schema, or an Object. -/
structure Content where
  objectRef : Option ObjectReference
  payload : Option Mapping
  payloadSchema : Option PayloadSchemaRef

def configurationContent (X : Platform) (arguments : StoredResourceArguments X)
    (digest : String) (length : Nat) : Except PyError Content :=
  match arguments.payloadSchema with
  | none =>
    .error (.valueError "configuration requires payload and SchemaRef and no ObjectRef")
  | some schema => do
    raiseIf (arguments.payload = .null ∨ arguments.objectRef ≠ none)
      (.valueError "configuration requires payload and SchemaRef and no ObjectRef")
    let payload ← canonicalMapping X arguments.payload "configuration payload" none none
    let schema ← PayloadSchemaRef.parse schema
    let encoded ← X.canonicalJsonBytes (.object (thawEntries payload))
    -- The payload is encoded again: the declared digest is not trusted.
    raiseIf (X.digestOf encoded ≠ digest ∨ encoded.length ≠ length)
      (.valueError "configuration digest or byte length does not match payload")
    .ok ⟨none, some payload, some schema⟩

def artifactContent (X : Platform) (arguments : StoredResourceArguments X) (digest : String) :
    Except PyError Content :=
  match arguments.objectRef with
  | none => .error (.valueError "artifact requires an ObjectRef and no inline payload")
  | some reference => do
    raiseIf (arguments.payload ≠ .null ∨ arguments.payloadSchema.isSome)
      (.valueError "artifact requires an ObjectRef and no inline payload")
    let reference ← X.checkObjectReference reference
    raiseIf (reference.digest ≠ some digest)
      (.valueError "artifact ObjectRef digest does not match resource digest")
    .ok ⟨some reference, none, none⟩

def content (X : Platform) (arguments : StoredResourceArguments X) (digest : String)
    (length : Nat) : Except PyError Content :=
  match arguments.profile with
  | .configuration => configurationContent X arguments digest length
  | .artifact => artifactContent X arguments digest

def immutability (state : ResourceState) : JsonValue → Except PyError Bool
  | .bool immutable => do
    raiseIf (state = .draft ∧ immutable = true)
      (.valueError "draft resources cannot claim immutable publication state")
    raiseIf (state ≠ .draft ∧ immutable = false)
      (.valueError "published and deprecated resources must be immutable")
    .ok immutable
  | _ => .error (.typeError "immutable must be boolean")

/-- `__post_init__`. -/
def postInit (X : Platform) (arguments : StoredResourceArguments X) :
    Except PyError (StoredResourceFields X) := do
  let identity ← ResourceIdentity.create arguments.namespace arguments.kind arguments.name
    arguments.version
  raiseIf (arguments.resourceId ≠ .str (identity.resourceId X))
    (.valueError "resource id does not match its logical identity")
  let mediaType ← mediaType arguments.mediaType
  let digest ← digest arguments.digest
  let byteLength ← byteLength arguments.byteLength "byte length"
  let createdBy ← boundedString arguments.createdBy "actor" 512
  let createdAt ← utcTimestamp arguments.createdAt
  let labels ← stringMapping arguments.labels "labels"
  let annotations ← canonicalMapping X arguments.annotations "annotations" (some 64) (some 262144)
  let supersedes ← optionalString arguments.supersedes "supersedes" 256
  let immutable ← immutability arguments.state arguments.immutable
  let versionOrder ← versionOrder arguments.versionOrder
  let recordVersion ← recordVersion arguments.recordVersion
  let content ← content X arguments digest byteLength
  requireFormat arguments.formatVersion StoredResourceFields.formatVersion
    "unsupported stored resource format version"
  .ok {
    identity, profile := arguments.profile, state := arguments.state, mediaType, digest, byteLength
    createdBy, createdAt, objectRef := content.objectRef, payload := content.payload
    payloadSchema := content.payloadSchema, labels, annotations
    provenance := arguments.provenance, supersedes, immutable, versionOrder, recordVersion }

theorem immutability_ok {state : ResourceState} {value : JsonValue} {immutable : Bool}
    (accepted : immutability state value = .ok immutable) :
    value = .bool immutable ∧ (immutable = true ↔ state ≠ .draft) := by
  unfold immutability at accepted
  split at accepted
  · obtain ⟨_, drafted, accepted⟩ := bind_ok.mp accepted
    obtain ⟨_, published, same⟩ := bind_ok.mp accepted
    cases same
    rw [raiseIf_ok] at drafted published
    refine ⟨rfl, fun yes same => drafted ⟨same, yes⟩, fun different => ?_⟩
    by_contra no
    exact published ⟨different, by simpa using no⟩
  · cases accepted

theorem immutability_self {state : ResourceState} {immutable : Bool}
    (valid : immutable = true ↔ state ≠ .draft) :
    immutability state (.bool immutable) = .ok immutable := by
  refine bind_ok.mpr ⟨(), raiseIf_ok.mpr ?_, bind_ok.mpr ⟨(), raiseIf_ok.mpr ?_, rfl⟩⟩
  · rintro ⟨drafted, yes⟩
    exact valid.mp yes drafted
  · rintro ⟨different, no⟩
    rw [valid.mpr different] at no
    cases no

theorem artifactContent_ok {arguments : StoredResourceArguments X} {digest : String}
    {content : Content} (accepted : artifactContent X arguments digest = .ok content) :
    arguments.payload = .null ∧ arguments.payloadSchema = none ∧
      ∃ reference, arguments.objectRef = some reference ∧ content = ⟨some reference, none, none⟩ ∧
        X.checkObjectReference reference = .ok reference ∧ reference.digest = some digest := by
  unfold artifactContent at accepted
  split at accepted
  · cases accepted
  · next reference given =>
    obtain ⟨_, bare, accepted⟩ := bind_ok.mp accepted
    obtain ⟨checked, valid, accepted⟩ := bind_ok.mp accepted
    obtain ⟨_, matching, same⟩ := bind_ok.mp accepted
    cases same
    obtain ⟨rfl, -⟩ := X.check_ok valid
    rw [raiseIf_ok, not_or, not_not, Bool.not_eq_true, Option.isSome_eq_false_iff,
      Option.isNone_iff_eq_none] at bare
    rw [raiseIf_ok, not_not] at matching
    exact ⟨bare.1, bare.2, checked, given, rfl, valid, matching⟩

theorem configurationContent_ok {arguments : StoredResourceArguments X} {digest : String}
    {length : Nat} {content : Content}
    (accepted : configurationContent X arguments digest length = .ok content) :
    arguments.objectRef = none ∧ ∃ payload schema encoded,
      content = ⟨none, some payload, some schema⟩ ∧
      canonicalMapping X arguments.payload "configuration payload" none none = .ok payload ∧
      X.canonicalJsonBytes (.object payload) = .ok encoded ∧ X.digestOf encoded = digest ∧
      encoded.length = length := by
  unfold configurationContent at accepted
  split at accepted
  · cases accepted
  · obtain ⟨_, given, accepted⟩ := bind_ok.mp accepted
    obtain ⟨payload, normal, accepted⟩ := bind_ok.mp accepted
    obtain ⟨schema, _, accepted⟩ := bind_ok.mp accepted
    obtain ⟨encoded, written, accepted⟩ := bind_ok.mp accepted
    obtain ⟨_, matching, same⟩ := bind_ok.mp accepted
    cases same
    rw [thawEntries_eq] at written
    rw [raiseIf_ok, not_or, not_not] at given
    rw [raiseIf_ok, not_or, not_not, not_not] at matching
    exact ⟨given.2, payload, schema, encoded, rfl, normal, written, matching⟩

end StoredResourceV1

/-- What a profile requires of the content fields. -/
def IsContent (X : Platform) (profile : ResourceProfile) (digest : String) (byteLength : Nat)
    (objectRef : Option ObjectReference) (payload : Option Mapping)
    (payloadSchema : Option PayloadSchemaRef) : Prop :=
  match profile with
  | .configuration => objectRef = none ∧ payloadSchema.isSome ∧ ∃ entries encoded,
      payload = some entries ∧
      canonicalMapping X (.object entries) "configuration payload" none none = .ok entries ∧
      X.canonicalJsonBytes (.object entries) = .ok encoded ∧ X.digestOf encoded = digest ∧
      encoded.length = byteLength
  | .artifact => payload = none ∧ payloadSchema = none ∧ ∃ reference,
      objectRef = some reference ∧ X.checkObjectReference reference = .ok reference ∧
      reference.digest = some digest

/-- What the constructor ensures of the fields it returns. -/
structure IsStoredResource (X : Platform) (fields : StoredResourceFields X) : Prop where
  mediaType : isBounded fields.mediaType 255 = true ∧ isMediaType fields.mediaType = true
  digest : isDigest fields.digest = true
  createdBy : isBounded fields.createdBy 512 = true
  createdAt : utcTimestamp (.str fields.createdAt) = .ok fields.createdAt
  labels : IsStringMapping fields.labels
  annotations : canonicalMapping X (.object fields.annotations) "annotations" (some 64)
    (some 262144) = .ok fields.annotations
  supersedes : ∀ text ∈ fields.supersedes, isBounded text 256 = true
  immutable_iff : fields.immutable = true ↔ fields.state ≠ .draft
  content : IsContent X fields.profile fields.digest fields.byteLength fields.objectRef
    fields.payload fields.payloadSchema

/-- A stored resource the constructor has admitted and normalized. -/
structure StoredResourceV1 (X : Platform) extends StoredResourceFields X where
  valid : IsStoredResource X toStoredResourceFields
  deriving DecidableEq

namespace StoredResourceV1

theorem content_ok {arguments : StoredResourceArguments X} {digest : String} {length : Nat}
    {found : Content} (accepted : content X arguments digest length = .ok found) :
    IsContent X arguments.profile digest length found.objectRef found.payload
      found.payloadSchema := by
  unfold content at accepted
  unfold IsContent
  split at accepted
  · obtain ⟨-, entries, schema, encoded, rfl, normal, written, matching⟩ :=
      configurationContent_ok accepted
    exact ⟨rfl, rfl, entries, encoded, rfl, canonicalMapping_idempotent normal, written, matching⟩
  · obtain ⟨-, -, reference, -, rfl, valid, matching⟩ := artifactContent_ok accepted
    exact ⟨rfl, rfl, reference, rfl, valid, matching⟩

theorem content_toArguments {fields : StoredResourceFields X} (valid : IsStoredResource X fields) :
    content X fields.toArguments fields.digest fields.byteLength =
      .ok ⟨fields.objectRef, fields.payload, fields.payloadSchema⟩ := by
  have contained := valid.content
  obtain ⟨identity, profile, state, media, hex, length, by', at', objectRef, payload, schema, rest⟩
    := fields
  cases profile with
  | configuration =>
    obtain ⟨referenced, schemed, entries, encoded, given, normal, written, matching⟩ := contained
    obtain ⟨schema', present⟩ := Option.isSome_iff_exists.mp schemed
    simp only at referenced given present
    subst referenced given present
    refine bind_ok.mpr ⟨(), raiseIf_ok.mpr (by simp [StoredResourceFields.toArguments]), ?_⟩
    refine bind_ok.mpr ⟨entries, normal, bind_ok.mpr ⟨schema', rfl, ?_⟩⟩
    refine bind_ok.mpr ⟨encoded, by rw [thawEntries_eq, written], ?_⟩
    exact bind_ok.mpr ⟨(), raiseIf_ok.mpr (by simp [matching]), rfl⟩
  | artifact =>
    obtain ⟨bare, unschemed, reference, given, checked, matching⟩ := contained
    simp only at bare unschemed given
    subst bare unschemed given
    refine bind_ok.mpr ⟨(), raiseIf_ok.mpr (by simp [StoredResourceFields.toArguments]), ?_⟩
    refine bind_ok.mpr ⟨reference, checked, ?_⟩
    exact bind_ok.mpr ⟨(), raiseIf_ok.mpr (by simp [matching]), rfl⟩

theorem postInit_ok {arguments : StoredResourceArguments X} {fields : StoredResourceFields X}
    (accepted : postInit X arguments = .ok fields) : IsStoredResource X fields := by
  obtain ⟨identity, _, accepted⟩ := bind_ok.mp accepted
  obtain ⟨_, _, accepted⟩ := bind_ok.mp accepted
  obtain ⟨media, typed, accepted⟩ := bind_ok.mp accepted
  obtain ⟨hex, digested, accepted⟩ := bind_ok.mp accepted
  obtain ⟨length, _, accepted⟩ := bind_ok.mp accepted
  obtain ⟨createdBy, acted, accepted⟩ := bind_ok.mp accepted
  obtain ⟨createdAt, timed, accepted⟩ := bind_ok.mp accepted
  obtain ⟨labels, labelled, accepted⟩ := bind_ok.mp accepted
  obtain ⟨annotations, annotated, accepted⟩ := bind_ok.mp accepted
  obtain ⟨supersedes, superseded, accepted⟩ := bind_ok.mp accepted
  obtain ⟨immutable, fixed, accepted⟩ := bind_ok.mp accepted
  obtain ⟨order, _, accepted⟩ := bind_ok.mp accepted
  obtain ⟨version, _, accepted⟩ := bind_ok.mp accepted
  obtain ⟨found, contained, accepted⟩ := bind_ok.mp accepted
  obtain ⟨_, _, same⟩ := bind_ok.mp accepted
  cases same
  exact {
    mediaType := (mediaType_ok typed).2
    digest := (digest_ok digested).2
    createdBy := (boundedString_ok acted).2
    createdAt := utcTimestamp_idempotent timed
    labels := stringMapping_ok labelled
    annotations := canonicalMapping_idempotent annotated
    supersedes := (optionalString_ok superseded).2
    immutable_iff := (immutability_ok fixed).2
    content := content_ok contained }

theorem postInit_toArguments {fields : StoredResourceFields X} (valid : IsStoredResource X fields) :
    postInit X fields.toArguments = .ok fields := by
  refine bind_ok.mpr ⟨fields.identity, fields.identity.create_self, ?_⟩
  refine bind_ok.mpr ⟨(), raiseIf_ok.mpr (not_not.mpr rfl), ?_⟩
  refine bind_ok.mpr ⟨fields.mediaType,
    bind_ok.mpr ⟨_, boundedString_str valid.mediaType.1, if_pos valid.mediaType.2⟩, ?_⟩
  refine bind_ok.mpr ⟨fields.digest, if_pos valid.digest, ?_⟩
  refine bind_ok.mpr ⟨fields.byteLength, byteLength_natJson _ _, ?_⟩
  refine bind_ok.mpr ⟨fields.createdBy, boundedString_str valid.createdBy, ?_⟩
  refine bind_ok.mpr ⟨fields.createdAt, valid.createdAt, ?_⟩
  refine bind_ok.mpr ⟨fields.labels, stringMapping_toJson valid.labels _, ?_⟩
  refine bind_ok.mpr ⟨fields.annotations, valid.annotations, ?_⟩
  refine bind_ok.mpr ⟨fields.supersedes, optionalString_self valid.supersedes, ?_⟩
  refine bind_ok.mpr ⟨fields.immutable, immutability_self valid.immutable_iff, ?_⟩
  refine bind_ok.mpr ⟨fields.versionOrder, versionOrder_self _, ?_⟩
  refine bind_ok.mpr ⟨fields.recordVersion, recordVersion_self _, ?_⟩
  refine bind_ok.mpr ⟨_, content_toArguments valid, ?_⟩
  exact bind_ok.mpr ⟨(), requireFormat_self _ _, rfl⟩

def create (X : Platform) (arguments : StoredResourceArguments X) :
    Except PyError (StoredResourceV1 X) := do
  let ⟨fields, accepted⟩ ← witnessed (postInit X arguments)
  .ok ⟨fields, postInit_ok accepted⟩

theorem create_iff {arguments : StoredResourceArguments X} {resource : StoredResourceV1 X} :
    create X arguments = .ok resource ↔
      postInit X arguments = .ok resource.toStoredResourceFields := by
  constructor
  · intro created
    obtain ⟨fields, accepted, same⟩ := witnessed_bind.mp created
    rw [accepted, ← Except.ok.inj same]
  · intro accepted
    exact witnessed_bind.mpr ⟨_, accepted, rfl⟩

theorem map_bind {A B C : Type} (change : B → C) (result : Except PyError A)
    (next : A → Except PyError B) :
    (result >>= next).map change = result >>= fun value => (next value).map change := by
  cases result <;> rfl

/-- When a resource is created changes nothing else about it. -/
theorem postInit_createdAt (arguments : StoredResourceArguments X) {first second : String}
    (timed : utcTimestamp (.str first) = .ok first)
    (timed' : utcTimestamp (.str second) = .ok second) :
    postInit X { arguments with createdAt := .str second } =
      (postInit X { arguments with createdAt := .str first }).map
        fun fields => { fields with createdAt := second } := by
  unfold postInit
  rw [timed, timed']
  simp only [map_bind, ok_bind]
  rfl

theorem create_error {arguments : StoredResourceArguments X} {error : PyError} :
    create X arguments = .error error ↔ postInit X arguments = .error error := by
  cases read : postInit X arguments with
  | ok fields =>
    have created : create X arguments = .ok ⟨fields, postInit_ok read⟩ := create_iff.mpr read
    simp [created]
  | error other =>
    unfold create
    rw [witnessed_error read]
    simp [bind, Except.bind]

/-- A resource can be created at one time if it can at another. -/
theorem create_createdAt {arguments : StoredResourceArguments X} {first second : String}
    (timed : utcTimestamp (.str first) = .ok first)
    (timed' : utcTimestamp (.str second) = .ok second) (error : PyError) :
    create X { arguments with createdAt := .str second } = .error error ↔
      create X { arguments with createdAt := .str first } = .error error := by
  rw [create_error, create_error, postInit_createdAt arguments timed timed']
  cases postInit X { arguments with createdAt := .str first } <;> simp [Except.map]

theorem create_later {arguments : StoredResourceArguments X} {first second : String}
    (timed : utcTimestamp (.str first) = .ok first)
    (timed' : utcTimestamp (.str second) = .ok second) {resource : StoredResourceV1 X}
    (created : create X { arguments with createdAt := .str first } = .ok resource) :
    ∃ later, create X { arguments with createdAt := .str second } = .ok later := by
  cases ended : create X { arguments with createdAt := .str second } with
  | ok later => exact ⟨later, rfl⟩
  | error error => cases created.symm.trans ((create_createdAt timed timed' error).mp ended)

/-- What the constructor reads from its arguments. -/
structure IsBuilt (arguments : StoredResourceArguments X) (fields : StoredResourceFields X) : Prop where
  identity : ResourceIdentity.create arguments.namespace arguments.kind arguments.name
    arguments.version = .ok fields.identity
  profile : fields.profile = arguments.profile
  state : fields.state = arguments.state
  mediaType : ConfigArtifact.mediaType arguments.mediaType = .ok fields.mediaType
  digest : ConfigArtifact.digest arguments.digest = .ok fields.digest
  byteLength : ConfigArtifact.byteLength arguments.byteLength "byte length" = .ok fields.byteLength
  createdBy : boundedString arguments.createdBy "actor" 512 = .ok fields.createdBy
  createdAt : utcTimestamp arguments.createdAt = .ok fields.createdAt
  labels : stringMapping arguments.labels "labels" = .ok fields.labels
  annotations : canonicalMapping X arguments.annotations "annotations" (some 64) (some 262144) =
    .ok fields.annotations
  provenance : fields.provenance = arguments.provenance
  supersedes : optionalString arguments.supersedes "supersedes" 256 = .ok fields.supersedes
  immutable : immutability arguments.state arguments.immutable = .ok fields.immutable
  versionOrder : ConfigArtifact.versionOrder arguments.versionOrder = .ok fields.versionOrder
  recordVersion : ConfigArtifact.recordVersion arguments.recordVersion = .ok fields.recordVersion
  content : content X arguments fields.digest fields.byteLength =
    .ok ⟨fields.objectRef, fields.payload, fields.payloadSchema⟩

theorem isBuilt_of_create {arguments : StoredResourceArguments X} {resource : StoredResourceV1 X}
    (accepted : create X arguments = .ok resource) :
    IsBuilt arguments resource.toStoredResourceFields := by
  have accepted := create_iff.mp accepted
  obtain ⟨identity, named, accepted⟩ := bind_ok.mp accepted
  obtain ⟨_, _, accepted⟩ := bind_ok.mp accepted
  obtain ⟨media, typed, accepted⟩ := bind_ok.mp accepted
  obtain ⟨hex, digested, accepted⟩ := bind_ok.mp accepted
  obtain ⟨length, measured, accepted⟩ := bind_ok.mp accepted
  obtain ⟨createdBy, acted, accepted⟩ := bind_ok.mp accepted
  obtain ⟨createdAt, timed, accepted⟩ := bind_ok.mp accepted
  obtain ⟨labels, labelled, accepted⟩ := bind_ok.mp accepted
  obtain ⟨annotations, annotated, accepted⟩ := bind_ok.mp accepted
  obtain ⟨supersedes, superseded, accepted⟩ := bind_ok.mp accepted
  obtain ⟨immutable, fixed, accepted⟩ := bind_ok.mp accepted
  obtain ⟨order, ordered, accepted⟩ := bind_ok.mp accepted
  obtain ⟨version, versioned, accepted⟩ := bind_ok.mp accepted
  obtain ⟨found, contained, accepted⟩ := bind_ok.mp accepted
  obtain ⟨_, _, same⟩ := bind_ok.mp accepted
  rw [← Except.ok.inj same]
  exact {
    identity := named, profile := rfl, state := rfl, mediaType := typed, digest := digested
    byteLength := measured, createdBy := acted, createdAt := timed, labels := labelled
    annotations := annotated, provenance := rfl, supersedes := superseded, immutable := fixed
    versionOrder := ordered, recordVersion := versioned, content := contained }

/-- Only who created it and when tells apart what the same arguments build. -/
theorem IsBuilt.eq_of_same {arguments other : StoredResourceArguments X}
    {fields later : StoredResourceFields X} (built : IsBuilt arguments fields)
    (again : IsBuilt other later)
    (same : other = { arguments with createdBy := other.createdBy, createdAt := other.createdAt }) :
    later = { fields with createdBy := later.createdBy, createdAt := later.createdAt } := by
  rw [same] at again
  have identity := Except.ok.inj (again.identity.symm.trans built.identity)
  have profile := again.profile.trans built.profile.symm
  have state := again.state.trans built.state.symm
  have mediaType := Except.ok.inj (again.mediaType.symm.trans built.mediaType)
  have digest := Except.ok.inj (again.digest.symm.trans built.digest)
  have byteLength := Except.ok.inj (again.byteLength.symm.trans built.byteLength)
  have labels := Except.ok.inj (again.labels.symm.trans built.labels)
  have annotations := Except.ok.inj (again.annotations.symm.trans built.annotations)
  have provenance := again.provenance.trans built.provenance.symm
  have supersedes := Except.ok.inj (again.supersedes.symm.trans built.supersedes)
  have immutable := Except.ok.inj (again.immutable.symm.trans built.immutable)
  have versionOrder := Except.ok.inj (again.versionOrder.symm.trans built.versionOrder)
  have recordVersion := Except.ok.inj (again.recordVersion.symm.trans built.recordVersion)
  have contained := again.content
  rw [digest, byteLength] at contained
  have content := Except.ok.inj (contained.symm.trans built.content)
  injection content with objectRef payload payloadSchema
  cases later
  simp only at *
  subst identity profile state mediaType digest byteLength labels annotations provenance supersedes
    immutable versionOrder recordVersion objectRef payload payloadSchema
  rfl

theorem create_self (resource : StoredResourceV1 X) :
    create X resource.toArguments = .ok resource :=
  create_iff.mpr (postInit_toArguments resource.valid)

theorem eq_of_fields {left right : StoredResourceV1 X}
    (same : left.toStoredResourceFields = right.toStoredResourceFields) : left = right := by
  cases left
  cases right
  cases same
  rfl

/-- The same resource as a store counts it at another version. -/
def withVersion (resource : StoredResourceV1 X) (version : Option RecordVersion) :
    StoredResourceV1 X where
  toStoredResourceFields := { resource.toStoredResourceFields with recordVersion := version }
  valid := { resource.valid with }

/-- The same resource in another published state. -/
def withState (resource : StoredResourceV1 X) (state : ResourceState)
    (published : resource.immutable = true ↔ state ≠ .draft) : StoredResourceV1 X where
  toStoredResourceFields := { resource.toStoredResourceFields with state }
  valid := { resource.valid with immutable_iff := published }

/-- What a published resource becomes when it is deprecated. -/
def deprecatedAt (resource : StoredResourceV1 X) (immutable : resource.immutable = true)
    (version : RecordVersion) : StoredResourceV1 X :=
  (resource.withState .deprecated ⟨fun _ => by simp, fun _ => immutable⟩).withVersion (some version)

def recordFields : List String :=
  ["formatVersion", "resourceId", "namespace", "kind", "name", "version", "profile", "state",
    "mediaType", "digest", "byteLength", "objectRef", "payload", "payloadSchema", "labels",
    "annotations", "provenance", "createdBy", "createdAt", "supersedes", "immutable",
    "versionOrder"]

def decode (X : Platform) (value : Mapping) : Except PyError (StoredResourceArguments X) := do
  requireRecordFields value recordFields
  requireMapping (entryOf value "payload") "stored configuration payload must be an object"
  requireMapping (entryOf value "payloadSchema") "stored payload SchemaRef must be an object"
  requireMapping (entryOf value "objectRef") "stored ObjectRef must be an object"
  requireMapping (entryOf value "provenance") "stored provenance must be an object"
  raiseIf ((entryOf value "labels").mappingSize? = none ∨
      (entryOf value "annotations").mappingSize? = none)
    (.typeError "stored labels and annotations must be objects")
  let profile ← parseProfile (entryOf value "profile")
  let state ← parseState (entryOf value "state")
  let objectRef ← parseOptional X.parseObjectReference (entryOf value "objectRef")
  let payloadSchema ← parseOptional PayloadSchemaRef.parseMapping (entryOf value "payloadSchema")
  let provenance ← parseOptional (ProvenanceV1.fromMapping X) (entryOf value "provenance")
  .ok {
    resourceId := entryOf value "resourceId"
    «namespace» := entryOf value "namespace"
    kind := entryOf value "kind"
    name := entryOf value "name"
    version := entryOf value "version"
    profile, state
    mediaType := entryOf value "mediaType"
    digest := entryOf value "digest"
    byteLength := entryOf value "byteLength"
    createdBy := entryOf value "createdBy"
    createdAt := entryOf value "createdAt"
    objectRef
    payload := entryOf value "payload"
    payloadSchema := payloadSchema.map .ref
    labels := entryOf value "labels"
    annotations := entryOf value "annotations"
    provenance
    supersedes := entryOf value "supersedes"
    immutable := entryOf value "immutable"
    versionOrder := entryOf value "versionOrder"
    recordVersion := entryOf value "recordVersion"
    formatVersion := entryOf value "formatVersion" }

def fromRecord (X : Platform) (value : Mapping) : Except PyError (StoredResourceV1 X) := do
  let arguments ← decode X value
  create X arguments

theorem checked_of_objectRef {fields : StoredResourceFields X} (valid : IsStoredResource X fields) :
    ∀ reference ∈ fields.objectRef, X.checkObjectReference reference = .ok reference := by
  have contained := valid.content
  intro reference member
  unfold IsContent at contained
  split at contained
  · rw [contained.1] at member
    cases member
  · obtain ⟨-, -, found, given, checked, -⟩ := contained
    rw [given] at member
    cases member
    exact checked

theorem decode_toRecord (resource : StoredResourceV1 X) (version : Option RecordVersion) :
    decode X (resource.toRecord ++ versionEntry version) =
      .ok (resource.withVersion version).toArguments := by
  refine bind_ok.mpr ⟨(), requireRecordFields_version rfl version, ?_⟩
  refine bind_ok.mpr ⟨(), requireMapping_optional thawEntries resource.payload _, ?_⟩
  refine bind_ok.mpr ⟨(), requireMapping_optional PayloadSchemaRef.toDict _ _, ?_⟩
  refine bind_ok.mpr ⟨(), requireMapping_optional X.objectReferenceToDict _ _, ?_⟩
  refine bind_ok.mpr ⟨(), requireMapping_optional (fun provenance : ProvenanceV1 X =>
    provenance.toDict) resource.provenance _, ?_⟩
  refine bind_ok.mpr ⟨(), raiseIf_ok.mpr (by rintro (absent | absent) <;> cases absent), ?_⟩
  refine bind_ok.mpr ⟨resource.profile, parseProfile_value _, ?_⟩
  refine bind_ok.mpr ⟨resource.state, parseState_value _, ?_⟩
  refine bind_ok.mpr ⟨resource.objectRef, parseOptional_optional X.objectReferenceToDict
    fun reference member => X.parse_toDict (checked_of_objectRef resource.valid reference member), ?_⟩
  refine bind_ok.mpr ⟨resource.payloadSchema, parseOptional_optional PayloadSchemaRef.toDict
    fun schema _ => schema.parseMapping_toDict, ?_⟩
  refine bind_ok.mpr ⟨resource.provenance, parseOptional_optional
    (fun provenance : ProvenanceV1 X => provenance.toDict)
    fun provenance _ => provenance.fromMapping_toDict, ?_⟩
  cases version <;> (simp only [StoredResourceFields.toRecord, thawEntries_eq]; rfl)

/-- What a resource writes is read back as that resource, at the version beside it. -/
theorem fromRecord_toRecord (resource : StoredResourceV1 X) (version : Option RecordVersion) :
    fromRecord X (resource.toRecord ++ versionEntry version) =
      .ok (resource.withVersion version) :=
  bind_ok.mpr ⟨_, decode_toRecord resource version, create_self _⟩

def ref (resource : StoredResourceV1 X) : StoredResourceRef :=
  ⟨resource.identity, resource.profile, resource.digest, resource.valid.digest⟩

/-- `provenance_record`. -/
def provenanceRecord (resource : StoredResourceV1 X) : Option Mapping :=
  resource.provenance.map fun provenance =>
    [("formatVersion", .str "meridian.config-artifact.provenance-record.v1"),
      ("provenanceId", .str resource.resourceId),
      ("resourceId", .str resource.resourceId),
      ("document", .object provenance.toDict),
      ("createdAt", .str resource.createdAt)]

end StoredResourceV1

/-- `==` of two optional values. -/
def optionalSame {A : Type} (same : A → A → Bool) : Option A → Option A → Bool
  | none, none => true
  | some left, some right => same left right
  | _, _ => false

@[simp] theorem optionalSame_refl {A : Type} {same : A → A → Bool} (refl : ∀ a, same a a = true)
    (value : Option A) : optionalSame same value value = true := by
  cases value with
  | none => rfl
  | some value => exact refl value

namespace StoredResourceFields

/-- The publication fields both profiles compare. -/
def sameArtifact (left right : StoredResourceFields X) : Bool :=
  left.resourceId = right.resourceId && left.profile = right.profile &&
    left.mediaType = right.mediaType && left.digest = right.digest &&
    left.byteLength = right.byteLength && left.objectRef = right.objectRef &&
    pyEq left.labels.toJson right.labels.toJson &&
    pyEq (.object left.annotations) (.object right.annotations) &&
    optionalSame (fun left right => left.pySame right.toProvenanceFields) left.provenance
      right.provenance &&
    left.supersedes = right.supersedes && left.versionOrder = right.versionOrder

/-- A configuration also compares its payload and its Schema. -/
def sameConfiguration (left right : StoredResourceFields X) : Bool :=
  left.sameArtifact right &&
    optionalSame (fun left right => pyEq (.object left) (.object right)) left.payload
      right.payload &&
    left.payloadSchema = right.payloadSchema

@[simp] theorem sameArtifact_refl (fields : StoredResourceFields X) :
    fields.sameArtifact fields = true := by
  simp [sameArtifact]

@[simp] theorem sameConfiguration_refl (fields : StoredResourceFields X) :
    fields.sameConfiguration fields = true := by
  simp [sameConfiguration]

end StoredResourceFields

end ConfigArtifact
