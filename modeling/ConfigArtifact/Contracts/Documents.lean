import ConfigArtifact.Contracts.Provider
import ConfigArtifact.Runtime

/-! The Schema documents of the structured collections: keys, indexes and what may change.

A structured store refuses a record that another one with the same identity, the same
alternate key or the same values of a unique index stands in the way of.
-/

set_option autoImplicit false

namespace ConfigArtifact

structure IndexDefinition where
  name : String
  kind : String
  fields : List String
  unique : Bool := false
  deriving DecidableEq, Repr

/-- `_schema(...)`, with the names of the fields that are declared as mutable. -/
structure SchemaDocument where
  name : String
  fields : List FieldDefinition
  mutableFields : List String := []
  identity : List String
  indexes : List IndexDefinition
  alternateKeys : List (List String) := []

/-- `stored_resource_schema`. -/
def storedResourceDocument : SchemaDocument where
  name := "stored-resource"
  fields := storedResourceSchema
  mutableFields := ["state"]
  identity := ["resourceId"]
  alternateKeys := [["namespace", "kind", "name", "version"]]
  indexes :=
    [{ name := "identity_lookup", kind := "btree"
       fields := ["namespace", "kind", "name", "version"], unique := true },
      { name := "published_versions", kind := "btree"
        fields := ["namespace", "kind", "name", "state", "versionOrder"] }]

/-- `resource_channel_schema`. -/
def resourceChannelDocument : SchemaDocument where
  name := "resource-channel"
  fields := resourceChannelSchema
  identity := ["channelVersionId"]
  alternateKeys := [["namespace", "kind", "name", "channel", "pointerVersion"]]
  indexes :=
    [{ name := "channel_latest", kind := "btree"
       fields := ["namespace", "kind", "name", "channel", "pointerVersion"], unique := true }]

/-- `provenance_schema`. -/
def provenanceDocument : SchemaDocument where
  name := "provenance"
  fields := provenanceSchema
  identity := ["provenanceId"]
  alternateKeys := [["resourceId"]]
  indexes :=
    [{ name := "resource_lookup", kind := "btree", fields := ["resourceId"], unique := true }]

/-- `orphan_candidate_schema`. -/
def orphanCandidateDocument : SchemaDocument where
  name := "orphan-candidate"
  fields := orphanCandidateSchema
  mutableFields := ["state"]
  identity := ["candidateId"]
  indexes :=
    [{ name := "orphan_queue", kind := "btree", fields := ["state", "discoveredAt", "candidateId"] }]

/-- `schema_documents`, by the Resource that `load` gives them to. -/
def documentOf : Collection → SchemaDocument
  | .metadata => storedResourceDocument
  | .channels => resourceChannelDocument
  | .provenance => provenanceDocument
  | .orphanCandidates => orphanCandidateDocument

/-- The lists of columns of which no two records may have the same values. -/
def SchemaDocument.uniqueKeys (document : SchemaDocument) : List (List String) :=
  document.identity :: document.alternateKeys ++
    (document.indexes.filter fun index => index.unique).map fun index => index.fields

/-- Every key is of declared fields. -/
example : ∀ collection ∈ [Collection.metadata, .channels, .provenance, .orphanCandidates],
    ∀ key ∈ (documentOf collection).uniqueKeys, ∀ field ∈ key,
      field ∈ (documentOf collection).fields.map fun field => field.name := by decide

end ConfigArtifact
