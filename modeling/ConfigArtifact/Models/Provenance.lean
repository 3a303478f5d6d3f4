import ConfigArtifact.Canonical.Mapping
import ConfigArtifact.Models.Refs

/-! Build provenance carried by a stored resource. -/

set_option autoImplicit false

namespace ConfigArtifact

def optionalString (value : JsonValue) (fieldName : String) (maximum : Nat) :
    Except PyError (Option String) :=
  if value = .null then .ok none else some <$> boundedString value fieldName maximum

theorem optionalString_ok {value : JsonValue} {fieldName : String} {maximum : Nat}
    {text : Option String} (accepted : optionalString value fieldName maximum = .ok text) :
    value = optionalJson .str text ∧ ∀ selected ∈ text, isBounded selected maximum = true := by
  unfold optionalString at accepted
  split at accepted
  · next absent =>
    cases accepted
    exact ⟨absent, by simp⟩
  · obtain ⟨selected, bounded, rfl⟩ := map_ok.mp accepted
    obtain ⟨rfl, valid⟩ := boundedString_ok bounded
    exact ⟨rfl, by simpa using valid⟩

theorem optionalString_self {text : Option String} {fieldName : String} {maximum : Nat}
    (valid : ∀ selected ∈ text, isBounded selected maximum = true) :
    optionalString (optionalJson .str text) fieldName maximum = .ok text := by
  cases text with
  | none => rfl
  | some selected =>
    change (if _ then _ else _) = _
    rw [if_neg (by simp), optionalJson_some, boundedString_str (valid selected rfl)]
    rfl

/-- The format version every record is bound to. -/
def requireFormat (value : JsonValue) (format : String) (error : String) : Except PyError Unit :=
  raiseIf (value ≠ .str format) (.valueError error)

theorem requireFormat_self (format error : String) :
    requireFormat (.str format) format error = .ok () := raiseIf_ok.mpr (by simp)

/-- The arguments of the constructor, as a caller may pass them. -/
structure ProvenanceArguments where
  producer : JsonValue
  producerVersion : JsonValue
  sourceDigests : JsonValue := .object []
  buildId : JsonValue := .null
  validationVersion : JsonValue := .null
  attributes : JsonValue := .object []
  formatVersion : JsonValue := .str "meridian.config-artifact.provenance.v1"

structure ProvenanceFields where
  producer : String
  producerVersion : String
  sourceDigests : StringMapping
  buildId : Option String
  validationVersion : Option String
  attributes : Mapping
  deriving DecidableEq

namespace ProvenanceFields

def formatVersion : String := "meridian.config-artifact.provenance.v1"

def toArguments (fields : ProvenanceFields) : ProvenanceArguments where
  producer := .str fields.producer
  producerVersion := .str fields.producerVersion
  sourceDigests := fields.sourceDigests.toJson
  buildId := optionalJson .str fields.buildId
  validationVersion := optionalJson .str fields.validationVersion
  attributes := .object fields.attributes
  formatVersion := .str formatVersion

def toDict (fields : ProvenanceFields) : Mapping :=
  [("formatVersion", .str formatVersion),
    ("producer", .str fields.producer),
    ("producerVersion", .str fields.producerVersion),
    ("sourceDigests", fields.sourceDigests.toJson),
    ("buildId", optionalJson .str fields.buildId),
    ("validationVersion", optionalJson .str fields.validationVersion),
    ("attributes", .object (thawEntries fields.attributes))]

/-- `==` of two provenances. -/
def pySame (left right : ProvenanceFields) : Bool :=
  left.producer = right.producer && left.producerVersion = right.producerVersion &&
    pyEq left.sourceDigests.toJson right.sourceDigests.toJson && left.buildId = right.buildId &&
    left.validationVersion = right.validationVersion &&
    pyEq (.object left.attributes) (.object right.attributes)

@[simp] theorem pySame_refl (fields : ProvenanceFields) : fields.pySame fields = true := by
  simp [pySame]

end ProvenanceFields

def checkDigests : StringMapping → Except PyError Unit
  | [] => .ok ()
  | (_, value) :: rest => do
    let _ ← digest (.str value)
    checkDigests rest

namespace ProvenanceV1

/-- `__post_init__`. -/
def postInit (X : Platform) (arguments : ProvenanceArguments) : Except PyError ProvenanceFields := do
  let producer ← boundedString arguments.producer "producer" 256
  let producerVersion ← boundedString arguments.producerVersion "producer version" 128
  let sources ← stringMapping arguments.sourceDigests "source digests"
  checkDigests sources
  let buildId ← optionalString arguments.buildId "build id" 256
  let validationVersion ← optionalString arguments.validationVersion "validation version" 256
  let attributes ← canonicalMapping X arguments.attributes "provenance attributes" (some 64)
    (some 262144)
  requireFormat arguments.formatVersion ProvenanceFields.formatVersion
    "unsupported provenance format version"
  .ok ⟨producer, producerVersion, sources, buildId, validationVersion, attributes⟩

end ProvenanceV1

/-- What the constructor ensures of the fields it returns. -/
structure IsProvenance (X : Platform) (fields : ProvenanceFields) : Prop where
  producer : isBounded fields.producer 256 = true
  producerVersion : isBounded fields.producerVersion 128 = true
  sourceDigests : IsStringMapping fields.sourceDigests
  digests : ∀ entry ∈ fields.sourceDigests, isDigest entry.2 = true
  buildId : ∀ text ∈ fields.buildId, isBounded text 256 = true
  validationVersion : ∀ text ∈ fields.validationVersion, isBounded text 256 = true
  attributes : canonicalMapping X (.object fields.attributes) "provenance attributes" (some 64)
    (some 262144) = .ok fields.attributes

theorem checkDigests_ok {entries : StringMapping} {value : Unit} :
    checkDigests entries = .ok value ↔ ∀ entry ∈ entries, isDigest entry.2 = true := by
  induction entries with
  | nil => simp [checkDigests]
  | cons entry rest ih =>
    rw [List.forall_mem_cons, ← ih]
    constructor
    · intro accepted
      obtain ⟨_, hex, others⟩ := bind_ok.mp accepted
      obtain ⟨same, valid⟩ := digest_ok hex
      cases same
      exact ⟨valid, others⟩
    · rintro ⟨hex, others⟩
      exact bind_ok.mpr ⟨entry.2, if_pos hex, others⟩

/-- Provenance the constructor has admitted and normalized. -/
structure ProvenanceV1 (X : Platform) extends ProvenanceFields where
  valid : IsProvenance X toProvenanceFields
  deriving DecidableEq

namespace ProvenanceV1

variable {X : Platform}

theorem postInit_ok {arguments : ProvenanceArguments} {fields : ProvenanceFields}
    (accepted : postInit X arguments = .ok fields) : IsProvenance X fields := by
  obtain ⟨producer, produced, accepted⟩ := bind_ok.mp accepted
  obtain ⟨producerVersion, versioned, accepted⟩ := bind_ok.mp accepted
  obtain ⟨sources, mapped, accepted⟩ := bind_ok.mp accepted
  obtain ⟨_, digests, accepted⟩ := bind_ok.mp accepted
  obtain ⟨buildId, built, accepted⟩ := bind_ok.mp accepted
  obtain ⟨validationVersion, validated, accepted⟩ := bind_ok.mp accepted
  obtain ⟨attributes, normal, accepted⟩ := bind_ok.mp accepted
  obtain ⟨_, _, same⟩ := bind_ok.mp accepted
  cases same
  exact {
    producer := (boundedString_ok produced).2
    producerVersion := (boundedString_ok versioned).2
    sourceDigests := stringMapping_ok mapped
    digests := checkDigests_ok.mp digests
    buildId := (optionalString_ok built).2
    validationVersion := (optionalString_ok validated).2
    attributes := canonicalMapping_idempotent normal }

theorem postInit_toArguments {fields : ProvenanceFields} (valid : IsProvenance X fields) :
    postInit X fields.toArguments = .ok fields := by
  refine bind_ok.mpr ⟨_, boundedString_str valid.producer, ?_⟩
  refine bind_ok.mpr ⟨_, boundedString_str valid.producerVersion, ?_⟩
  refine bind_ok.mpr ⟨_, stringMapping_toJson valid.sourceDigests _, ?_⟩
  refine bind_ok.mpr ⟨(), checkDigests_ok.mpr valid.digests, ?_⟩
  refine bind_ok.mpr ⟨_, optionalString_self valid.buildId, ?_⟩
  refine bind_ok.mpr ⟨_, optionalString_self valid.validationVersion, ?_⟩
  refine bind_ok.mpr ⟨_, valid.attributes, ?_⟩
  exact bind_ok.mpr ⟨(), requireFormat_self _ _, rfl⟩

def create (X : Platform) (arguments : ProvenanceArguments) : Except PyError (ProvenanceV1 X) := do
  let ⟨fields, accepted⟩ ← witnessed (postInit X arguments)
  .ok ⟨fields, postInit_ok accepted⟩

theorem create_self (provenance : ProvenanceV1 X) :
    create X provenance.toArguments = .ok provenance :=
  witnessed_bind.mpr ⟨_, postInit_toArguments provenance.valid, rfl⟩

def requiredFields : List String := ["producer", "producerVersion"]

def allowedFields : List String :=
  ["formatVersion", "producer", "producerVersion", "sourceDigests", "buildId", "validationVersion",
    "attributes"]

/-- `value.get(key, default)`. -/
def getOr (value : Mapping) (key : String) (default : JsonValue) : JsonValue :=
  (value.lookup key).getD default

def decode (value : Mapping) : Except PyError ProvenanceArguments := do
  raiseIf ((¬∀ key ∈ requiredFields, key ∈ Mapping.keys value) ∨
      ¬∀ key ∈ Mapping.keys value, key ∈ allowedFields)
    (.valueError "provenance contains unknown or missing fields")
  raiseIf ((getOr value "sourceDigests" (.object [])).mappingSize? = none ∨
      (getOr value "attributes" (.object [])).mappingSize? = none)
    (.typeError "provenance sourceDigests and attributes must be objects")
  .ok {
    producer := getOr value "producer" .null
    producerVersion := getOr value "producerVersion" .null
    sourceDigests := getOr value "sourceDigests" (.object [])
    buildId := getOr value "buildId" .null
    validationVersion := getOr value "validationVersion" .null
    attributes := getOr value "attributes" (.object [])
    formatVersion := getOr value "formatVersion" (.str ProvenanceFields.formatVersion) }

def fromMapping (X : Platform) (value : Mapping) : Except PyError (ProvenanceV1 X) := do
  let arguments ← decode value
  create X arguments

theorem decode_toDict (fields : ProvenanceFields) : decode fields.toDict = .ok fields.toArguments := by
  refine bind_ok.mpr ⟨(), raiseIf_ok.mpr ?_, bind_ok.mpr ⟨(), raiseIf_ok.mpr ?_, ?_⟩⟩
  · simp [requiredFields, allowedFields, Mapping.keys, ProvenanceFields.toDict]
  · simp [getOr, ProvenanceFields.toDict, List.lookup_cons, JsonValue.mappingSize?, StringMapping.toJson]
  · simp only [ProvenanceFields.toDict, thawEntries_eq]
    rfl

theorem fromMapping_toDict (provenance : ProvenanceV1 X) :
    fromMapping X provenance.toDict = .ok provenance :=
  bind_ok.mpr ⟨_, decode_toDict _, provenance.create_self⟩

end ProvenanceV1

end ConfigArtifact
