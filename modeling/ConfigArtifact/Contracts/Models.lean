import ConfigArtifact.Canonical.Text
import ConfigArtifact.Contracts.JsonSchema

/-! The language-neutral contracts of the wire records.

These are the schema files of `contracts/models`. Each of them requires every
property it has and allows no other; `format` is an annotation and tests nothing.
-/

set_option autoImplicit false

namespace ConfigArtifact

open JsonSchema

/-- A prefix and 32 lowercase hexadecimal digits. -/
def hexIdPattern (start : String) : List Piece :=
  Piece.literal start ++ [.exactly isLowercaseHex 32]

def digestPattern : List Piece := Piece.literal "sha256:" ++ [.exactly isLowercaseHex 64]

/-- A letter or digit, and up to 255 of those and of `_`, `.`, `:`, `/` and `-`. -/
def namePattern : List Piece :=
  [.exactly isAsciiAlphanumeric 1,
    ⟨fun c => isAsciiAlphanumeric c || c ∈ ['_', '.', ':', '/', '-'], 0, 255⟩]

def text (keywords : List JsonSchema) : JsonSchema := every (type [.string] :: keywords)

def boundedText (least most : Nat) : JsonSchema := text [minLength least, maxLength most]

/-- A string or null, no longer than this. -/
def optionalText (most : Nat) : JsonSchema := every [type [.string, .null], maxLength most]

def schemaReferenceContract : JsonSchema := closed
  [("catalog", const (.str "structured")),
    ("namespace", text [pattern namePattern]),
    ("name", text [pattern namePattern]),
    ("version", boundedText 1 128)]

def payloadSchemaContract : JsonSchema := oneOf [type [.null], schemaReferenceContract]

def labelsContract : JsonSchema := every [type [.object], maxProperties 64,
  propertyNames (maxLength 128), additionalProperties [] (text [maxLength 512])]

/-- The properties of `meridian-stored-resource.v1.schema.json`. -/
def storedResourceProperties : List (String × JsonSchema) :=
  [("formatVersion", const (.str "meridian.config-artifact.stored-resource.v1")),
    ("resourceId", text [pattern (hexIdPattern "rs_")]),
    ("namespace", text [pattern namePattern]),
    ("kind", text [pattern namePattern]),
    ("name", text [pattern namePattern]),
    ("version", boundedText 1 256),
    ("profile", enum [.str "configuration", .str "artifact"]),
    ("state", enum [.str "DRAFT", .str "PUBLISHED", .str "DEPRECATED"]),
    ("mediaType", boundedText 3 255),
    ("digest", text [pattern digestPattern]),
    ("byteLength", every [type [.integer], minimum 0]),
    ("objectRef", type [.object, .null]),
    ("payload", type [.object, .null]),
    ("payloadSchema", payloadSchemaContract),
    ("labels", labelsContract),
    ("annotations", every [type [.object], maxProperties 64]),
    ("provenance", type [.object, .null]),
    ("createdBy", boundedText 1 512),
    ("createdAt", type [.string]),
    ("supersedes", optionalText 256),
    ("immutable", type [.boolean]),
    ("versionOrder", every [type [.integer, .null], minimum 0])]

/-- What the profile decides of a stored resource. -/
def profileContract : JsonSchema :=
  ifThenElse (properties [("profile", const (.str "configuration"))])
    (properties [("objectRef", type [.null]), ("payload", type [.object]),
      ("payloadSchema", type [.object])])
    (properties [("objectRef", type [.object]), ("payload", type [.null]),
      ("payloadSchema", type [.null])])

/-- What the state decides of a stored resource. -/
def stateContract : JsonSchema :=
  ifThenElse (properties [("state", const (.str "DRAFT"))])
    (properties [("immutable", const (.bool false))])
    (properties [("immutable", const (.bool true))])

def storedResourceContract : JsonSchema :=
  every [closed storedResourceProperties, profileContract, stateContract]

/-- `meridian-resource-channel.v1.schema.json` -/
def resourceChannelContract : JsonSchema := closed
  [("formatVersion", const (.str "meridian.config-artifact.resource-channel.v1")),
    ("channelVersionId", text [pattern (hexIdPattern "ch_")]),
    ("namespace", type [.string]),
    ("kind", type [.string]),
    ("name", type [.string]),
    ("channel", boundedText 1 128),
    ("targetResourceId", text [pattern (hexIdPattern "rs_")]),
    ("pointerVersion", every [type [.integer], minimum 1]),
    ("actor", boundedText 1 512),
    ("updatedAt", type [.string])]

/-- `meridian-orphan-candidate.v1.schema.json` -/
def orphanCandidateContract : JsonSchema := closed
  [("formatVersion", const (.str "meridian.config-artifact.orphan-candidate.v1")),
    ("candidateId", text [pattern (hexIdPattern "oc_")]),
    ("resourceId", text [pattern (hexIdPattern "rs_")]),
    ("objectRef", type [.object]),
    ("digest", text [pattern digestPattern]),
    ("byteLength", every [type [.integer], minimum 0]),
    ("reason", boundedText 1 512),
    ("discoveredAt", type [.string]),
    ("state", enum [.str "DISCOVERED", .str "RECORDED", .str "RESOLVED"])]

/-- `meridian-provenance.v1.schema.json` -/
def provenanceContract : JsonSchema := closed
  [("formatVersion", const (.str "meridian.config-artifact.provenance.v1")),
    ("producer", boundedText 1 256),
    ("producerVersion", boundedText 1 128),
    ("sourceDigests", every [type [.object], maxProperties 64,
      propertyNames (every [minLength 1, maxLength 128]),
      additionalProperties [] (text [pattern digestPattern])]),
    ("buildId", optionalText 256),
    ("validationVersion", optionalText 256),
    ("attributes", every [type [.object], maxProperties 64])]

end ConfigArtifact
