import ConfigArtifact.Contracts.Provider
import ConfigArtifact.Guarantees.Records

/-! The records the package writes and the Schemas it declares for them.

Every field fits but for the integers: a constructor bounds them from below
only, and the store keeps 64 bits.
-/

set_option autoImplicit false

namespace ConfigArtifact

/-! What the frozen values of the package keep of the JSON they come from. -/

theorem areJson_iff (items : List JsonValue) :
    areJson items = true ↔ ∀ item ∈ items, isJson item = true := by
  induction items with
  | nil => simp [areJson]
  | cons item rest ih => rw [areJson, Bool.and_eq_true, ih, List.forall_mem_cons]

theorem entriesAreJson_iff (entries : Mapping) :
    entriesAreJson entries = true ↔ ∀ entry ∈ entries, isJson entry.2 = true := by
  induction entries with
  | nil => simp [entriesAreJson]
  | cons entry rest ih => rw [entriesAreJson, Bool.and_eq_true, ih, List.forall_mem_cons]

theorem entriesAreJson_sort (entries : Mapping) :
    entriesAreJson (sortEntries entries) = entriesAreJson entries := by
  rw [Bool.eq_iff_iff, entriesAreJson_iff, entriesAreJson_iff]
  have same : (sortEntries entries).Perm entries := List.perm_insertionSort _ _
  exact forall_congr' fun entry => by rw [same.mem_iff]

/-- Freezing does not make JSON of anything else, nor the reverse. -/
theorem isJson_freezeJson (value : JsonValue) : isJson (freezeJson value) = isJson value := by
  induction sized : sizeOf value using Nat.strongRecOn generalizing value with
  | ind size ih =>
    cases value with
    | object entries =>
      have each : ∀ entry ∈ entries, isJson (freezeJson entry.2) = isJson entry.2 := by
        rintro ⟨key, value⟩ member
        have smaller := List.sizeOf_lt_of_mem member
        simp only [Prod.mk.sizeOf_spec, JsonValue.object.sizeOf_spec] at smaller sized
        exact ih (sizeOf value) (by omega) value rfl
      rw [freezeJson, isJson, isJson, entriesAreJson_sort, Bool.eq_iff_iff, entriesAreJson_iff,
        entriesAreJson_iff, freezeEntries_eq_map, List.forall_mem_map]
      exact forall₂_congr fun entry member => by rw [freezeEntry, each entry member]
    | array items =>
      have each : ∀ item ∈ items, isJson (freezeJson item) = isJson item := by
        intro item member
        have smaller := List.sizeOf_lt_of_mem member
        simp only [JsonValue.array.sizeOf_spec] at sized
        exact ih (sizeOf item) (by omega) item rfl
      rw [freezeJson, isJson, isJson, Bool.eq_iff_iff, areJson_iff, areJson_iff, freezeItems_eq_map,
        List.forall_mem_map]
      exact forall₂_congr fun item member => by rw [each item member]
    | _ => rfl

theorem isJson_strings (strings : StringMapping) : isJson strings.toJson = true := by
  change entriesAreJson _ = true
  rw [entriesAreJson_iff]
  intro entry member
  obtain ⟨string, -, rfl⟩ := List.mem_map.mp member
  rfl

theorem isJson_optional {A : Type} {write : A → JsonValue} (json : ∀ value, isJson (write value) = true)
    (value : Option A) : isJson (optionalJson write value) = true := by
  cases value with
  | none => rfl
  | some value => exact json value

section

/-! One field after the other. -/

variable {X : Platform} {semantics : Semantics}

/-- A field of a document that has it. -/
theorem admits_of_lookup {document : Mapping} {field : FieldDefinition} {value : JsonValue}
    (found : document.lookup field.name = some value) :
    ((document.lookup field.name).map (field.admits semantics)).getD false =
      field.admits semantics value := by
  rw [found]
  rfl

theorem schemaAdmits_iff {fields : List FieldDefinition} {document : Mapping}
    (names : Mapping.keys document = fields.map (·.name)) :
    schemaAdmits semantics fields document = true ↔
      ∀ field ∈ fields,
        ((document.lookup field.name).map (field.admits semantics)).getD false = true := by
  unfold schemaAdmits
  rw [names]
  simp

variable (documents : semantics.Documented X)

include documents

theorem stringField_admits {name value : String} {maximum : Nat} {nullable : Bool}
    (short : value.length ≤ maximum) :
    (stringField name maximum nullable).admits semantics (.str value) = true := by
  simp [stringField, FieldDefinition.admits, Constraints.hold, documents.string,
    (documents.maxLength maximum value).mpr short]

theorem stringField_bounded {name value : String} {maximum : Nat} {nullable : Bool}
    (bounded : isBounded value maximum = true) :
    (stringField name maximum nullable).admits semantics (.str value) = true :=
  stringField_admits documents (isBounded_length bounded).2

/-- An identifier is far shorter than its column. -/
theorem stringField_hexId {name start value : String} {maximum : Nat} {nullable : Bool}
    (valid : hasHexId start value = true) (room : start.length + 32 ≤ maximum) :
    (stringField name maximum nullable).admits semantics (.str value) = true := by
  apply stringField_admits documents
  simp only [hasHexId, isHexOf, Bool.and_eq_true, decide_eq_true_eq] at valid
  have digits : (value.toList.drop start.length).length = 32 := valid.2.1
  rw [List.length_drop, String.length_toList] at digits
  omega

theorem intField_admits {name : String} {least : Int} {nullable : Bool} {value : Nat}
    (bounded : least ≤ value) :
    (intField name least nullable).admits semantics (natJson value) = true ↔ value < 2 ^ 63 := by
  have typed := documents.int64 value
  have above := (documents.min least value).mpr bounded
  simp only [intField, FieldDefinition.admits, Constraints.hold, natJson, reduceCtorEq,
    decide_false, Bool.and_false, Bool.false_or, Bool.and_eq_true, Option.all_some, above, and_true,
    typed]
  omega

theorem intField_optional {name : String} (value : Option Nat) :
    (intField name 0 true).admits semantics (optionalJson natJson value) = true ↔
      ∀ n ∈ value, n < 2 ^ 63 := by
  cases value with
  | none => exact ⟨fun _ => by simp, fun _ => rfl⟩
  | some n =>
    rw [optionalJson_some, intField_admits documents (by omega)]
    simp

theorem digestField_admits {value : String} (valid : isDigest value = true) :
    digestField.admits semantics (.str value) = true := by
  have matching := digestPattern_str valid
  simp only [text_str, JsonSchema.every_cons, JsonSchema.every_nil, Bool.and_true] at matching
  change matchesPieces digestPattern value.toList = true at matching
  simp [digestField, FieldDefinition.admits, Constraints.hold, documents.string, documents.pattern,
    matching]

theorem enumField_admits {name value : String} {values : List String} (member : value ∈ values) :
    FieldDefinition.admits semantics { name, logicalType := .enum values } (.str value) = true := by
  simp [FieldDefinition.admits, Constraints.hold, documents.enum values value member]

theorem booleanField_admits {name : String} (value : Bool) :
    FieldDefinition.admits semantics { name, logicalType := .boolean } (.bool value) = true := by
  simp [FieldDefinition.admits, Constraints.hold, documents.boolean value]

/-- A field of JSON, of which a null is one. -/
theorem jsonField_admits {name : String} {nullable : Bool} {value : JsonValue}
    (json : isJson value = true) :
    FieldDefinition.admits semantics { name, logicalType := .json, nullable } value = true := by
  have typed := documents.json value json
  cases value <;> simp_all [FieldDefinition.admits, Constraints.hold]

theorem timestampField_admits {name value : String}
    (normal : utcTimestamp (.str value) = .ok value) :
    FieldDefinition.admits semantics { name, logicalType := .utcTimestamp } (.str value) = true := by
  obtain ⟨time, rfl⟩ := utcTimestamp_ok normal
  simp [FieldDefinition.admits, Constraints.hold, documents.utcTimestamp time]

theorem referenceField_admits {name : String} {nullable : Bool} {reference : ObjectReference}
    (checked : X.checkObjectReference reference = .ok reference) :
    FieldDefinition.admits semantics { name, logicalType := .objectRef, nullable }
      (.object (X.objectReferenceToDict reference)) = true := by
  simp [FieldDefinition.admits, Constraints.hold, documents.objectRef reference checked]

end

section

variable {X : Platform} {semantics : Semantics}
  (loads : ∀ {encoded loaded}, X.jsonLoads encoded = .ok loaded → isJson loaded = true)
  (documents : semantics.Documented X)

include loads

/-- What a mapping was normalized to came out of a JSON text. -/
theorem isJson_canonical {value : JsonValue} {fieldName : String}
    {maximumEntries maximumBytes : Option Nat} {mapping : Mapping}
    (accepted : canonicalMapping X value fieldName maximumEntries maximumBytes = .ok mapping) :
    isJson (.object (thawEntries mapping)) = true := by
  obtain ⟨_, loaded, -, -, read, rfl, -⟩ := canonicalMapping_ok accepted
  have frozen := isJson_freezeJson (.object loaded)
  rw [freezeJson] at frozen
  rw [thawEntries_eq, frozen]
  exact loads read

theorem isJson_provenance (provenance : ProvenanceV1 X) : isJson (.object provenance.toDict) = true := by
  have optional (text : Option String) : isJson (optionalJson .str text) = true :=
    isJson_optional (fun _ => rfl) text
  have attributes := isJson_canonical loads provenance.valid.attributes
  change entriesAreJson _ = true
  rw [entriesAreJson_iff]
  unfold ProvenanceFields.toDict
  simp only [List.forall_mem_cons, List.not_mem_nil]
  exact ⟨rfl, rfl, rfl, isJson_strings _, optional _, optional _, attributes, fun _ => False.elim⟩

theorem isJson_payload (resource : StoredResourceV1 X) :
    isJson (optionalJson (fun payload => .object (thawEntries payload)) resource.payload) = true := by
  have contained := resource.valid.content
  unfold IsContent at contained
  split at contained
  · obtain ⟨-, -, entries, _, given, normal, -⟩ := contained
    rw [given]
    exact isJson_canonical loads normal
  · rw [contained.1]
    rfl

include documents

/-- The row of a stored resource fits its Schema when its two integers fit 64 bits. -/
theorem resource_fits (resource : StoredResourceV1 X) :
    schemaAdmits semantics storedResourceSchema resource.toRecord = true ↔
      resource.byteLength < 2 ^ 63 ∧ ∀ order ∈ resource.versionOrder, order < 2 ^ 63 := by
  have valid := resource.valid
  have identified := ResourceIdentity.isResourceId_resourceId X resource.identity
  have profiled : FieldDefinition.admits semantics
      { name := "profile", logicalType := .enum ["configuration", "artifact"] }
      (.str resource.profile.value) = true := by
    cases resource.profile <;> exact enumField_admits documents (by decide)
  have stated : FieldDefinition.admits semantics
      { name := "state", logicalType := .enum ["DRAFT", "PUBLISHED", "DEPRECATED"] }
      (.str resource.state.value) = true := by
    cases resource.state <;> exact enumField_admits documents (by decide)
  have referenced : FieldDefinition.admits semantics
      { name := "objectRef", logicalType := .objectRef, nullable := true }
      (optionalJson (fun reference => .object (X.objectReferenceToDict reference))
        resource.objectRef) = true := by
    have checked := StoredResourceV1.checked_of_objectRef valid
    cases referred : resource.objectRef with
    | none => rfl
    | some reference => exact referenceField_admits documents (checked reference referred)
  have superseded : (stringField "supersedes" 256 true).admits semantics
      (optionalJson .str resource.supersedes) = true := by
    have bounded := valid.supersedes
    cases superseded : resource.supersedes with
    | none => rfl
    | some text => exact stringField_bounded documents (bounded text superseded)
  have provenance : isJson (optionalJson (fun provenance : ProvenanceV1 X =>
      .object provenance.toDict) resource.provenance) = true :=
    isJson_optional (isJson_provenance loads) _
  have schemed : isJson (optionalJson (fun schema : PayloadSchemaRef => .object schema.toDict)
      resource.payloadSchema) = true := isJson_optional (fun _ => rfl) _
  rw [schemaAdmits_iff rfl]
  unfold storedResourceSchema
  simp only [List.forall_mem_cons, List.not_mem_nil]
  constructor
  -- Only the two unbounded integers may not fit their column.
  · rintro ⟨-, -, -, -, -, -, -, -, -, -, sized, -, -, -, -, -, -, -, -, -, -, ordered, -⟩
    rw [admits_of_lookup rfl] at sized ordered
    exact ⟨(intField_admits documents (by omega)).mp sized, (intField_optional documents _).mp ordered⟩
  · rintro ⟨sized, ordered⟩
    refine ⟨?_, ?_, ?_, ?_, ?_, ?_, ?_, ?_, ?_, ?_, ?_, ?_, ?_, ?_, ?_, ?_, ?_, ?_, ?_, ?_, ?_, ?_,
      fun _ => False.elim⟩ <;> rw [admits_of_lookup rfl]
    · exact stringField_admits documents (by decide)
    · exact stringField_hexId documents identified (by decide)
    · exact stringField_bounded documents resource.identity.namespace_valid.1
    · exact stringField_bounded documents resource.identity.kind_valid.1
    · exact stringField_bounded documents resource.identity.name_valid.1
    · exact stringField_bounded documents resource.identity.version_valid
    · exact profiled
    · exact stated
    · exact stringField_bounded documents valid.mediaType.1
    · exact digestField_admits documents valid.digest
    · exact (intField_admits documents (by omega)).mpr sized
    · exact referenced
    · exact jsonField_admits documents (isJson_payload loads resource)
    · exact jsonField_admits documents schemed
    · exact jsonField_admits documents (isJson_strings _)
    · exact jsonField_admits documents (isJson_canonical loads valid.annotations)
    · exact jsonField_admits documents provenance
    · exact stringField_bounded documents valid.createdBy
    · exact timestampField_admits documents valid.createdAt
    · exact superseded
    · exact booleanField_admits documents resource.immutable
    · exact (intField_optional documents _).mpr ordered

omit loads

theorem channel_fits (pointer : ResourceChannelV1) :
    schemaAdmits semantics resourceChannelSchema (pointer.toRecord X) = true ↔ pointer.pointerVersion < 2 ^ 63 := by
  have valid := pointer.valid
  have identified : hasHexId "ch_" (pointer.channelVersionId X) = true :=
    hasHexId_append (X.uuid5_hex _ _)
  have positive : (1 : Int) ≤ pointer.pointerVersion := by exact_mod_cast valid.pointerVersion
  rw [schemaAdmits_iff rfl]
  unfold resourceChannelSchema
  simp only [List.forall_mem_cons, List.not_mem_nil]
  constructor
  · rintro ⟨-, -, -, -, -, -, -, counted, -⟩
    rw [admits_of_lookup rfl] at counted
    exact (intField_admits documents positive).mp counted
  · intro counted
    refine ⟨?_, ?_, ?_, ?_, ?_, ?_, ?_, ?_, ?_, ?_, fun _ => False.elim⟩ <;> rw [admits_of_lookup rfl]
    · exact stringField_admits documents (by decide)
    · exact stringField_hexId documents identified (by decide)
    · exact stringField_bounded documents valid.namespace.1
    · exact stringField_bounded documents valid.kind.1
    · exact stringField_bounded documents valid.name.1
    · exact stringField_bounded documents valid.channel.1
    · exact stringField_hexId documents valid.targetResourceId (by decide)
    · exact (intField_admits documents positive).mpr counted
    · exact stringField_bounded documents valid.actor
    · exact timestampField_admits documents valid.updatedAt

theorem orphan_fits (orphan : OrphanCandidateV1 X) :
    schemaAdmits semantics orphanCandidateSchema (orphan.toRecord X) = true ↔ orphan.byteLength < 2 ^ 63 := by
  have valid := orphan.valid
  have identified : hasHexId "oc_" (orphan.candidateId X) = true :=
    hasHexId_append (X.uuid5_hex _ _)
  have stated : FieldDefinition.admits semantics
      { name := "state", logicalType := .enum ["DISCOVERED", "RECORDED", "RESOLVED"] }
      (.str orphan.state.value) = true := by
    cases orphan.state <;> exact enumField_admits documents (by decide)
  rw [schemaAdmits_iff rfl]
  unfold orphanCandidateSchema
  simp only [List.forall_mem_cons, List.not_mem_nil]
  constructor
  · rintro ⟨-, -, -, -, -, sized, -⟩
    rw [admits_of_lookup rfl] at sized
    exact (intField_admits documents (by omega)).mp sized
  · intro sized
    refine ⟨?_, ?_, ?_, ?_, ?_, ?_, ?_, ?_, ?_, fun _ => False.elim⟩ <;> rw [admits_of_lookup rfl]
    · exact stringField_admits documents (by decide)
    · exact stringField_hexId documents identified (by decide)
    · exact stringField_hexId documents valid.resourceId (by decide)
    · exact referenceField_admits documents valid.objectRef
    · exact digestField_admits documents valid.digest
    · exact (intField_admits documents (by omega)).mpr sized
    · exact stringField_bounded documents valid.reason
    · exact timestampField_admits documents valid.discoveredAt
    · exact stated

include loads

theorem provenance_fits {resource : StoredResourceV1 X} {record : Mapping}
    (recorded : resource.provenanceRecord = some record) :
    schemaAdmits semantics provenanceSchema record = true := by
  have identified := ResourceIdentity.isResourceId_resourceId X resource.identity
  obtain ⟨provenance, -, rfl⟩ := Option.map_eq_some_iff.mp recorded
  rw [schemaAdmits_iff rfl]
  unfold provenanceSchema
  simp only [List.forall_mem_cons, List.not_mem_nil]
  refine ⟨?_, ?_, ?_, ?_, ?_, fun _ => False.elim⟩ <;> rw [admits_of_lookup rfl]
  · exact stringField_admits documents (by decide)
  · exact stringField_hexId documents identified (by decide)
  · exact stringField_hexId documents identified (by decide)
  · exact jsonField_admits documents (isJson_provenance loads provenance)
  · exact timestampField_admits documents resource.valid.createdAt

end

/-- The records fit the Schemas exactly when their integers fit 64 bits. -/
theorem records_fit_schemas (X : Platform) {semantics : Semantics}
    (documents : semantics.Documented X)
    (loads : ∀ {encoded loaded}, X.jsonLoads encoded = .ok loaded → isJson loaded = true) :
    (∀ resource : StoredResourceV1 X,
      schemaAdmits semantics storedResourceSchema resource.toRecord = true ↔
        resource.byteLength < 2 ^ 63 ∧ ∀ order ∈ resource.versionOrder, order < 2 ^ 63) ∧
    (∀ pointer : ResourceChannelV1,
      schemaAdmits semantics resourceChannelSchema (pointer.toRecord X) = true ↔
        pointer.pointerVersion < 2 ^ 63) ∧
    (∀ orphan : OrphanCandidateV1 X,
      schemaAdmits semantics orphanCandidateSchema (orphan.toRecord X) = true ↔
        orphan.byteLength < 2 ^ 63) ∧
    ∀ (resource : StoredResourceV1 X) record, resource.provenanceRecord = some record →
      schemaAdmits semantics provenanceSchema record = true :=
  ⟨resource_fits loads documents, channel_fits documents, orphan_fits documents,
    fun _ _ => provenance_fits loads documents⟩

namespace Reference

/-- Logical types and constraints as they are documented. -/
def semantics : Semantics where
  hasType
    | .string, .str _ => true
    | .int64, .int value => -2 ^ 63 ≤ value && value < 2 ^ 63
    | .boolean, .bool _ => true
    | .enum values, .str value => value ∈ values
    | .json, value => isJson value
    | .objectRef, .object entries => (documented.parseObjectReference entries).isOk
    | .utcTimestamp, .str text => (strptime text.toList).isSome
    | _, _ => false
  maxLength := fun maximum text => text.length ≤ maximum
  pattern := fun pieces text => matchesPieces pieces text.toList
  min := fun least value => least ≤ value

theorem documented_semantics : semantics.Documented documented where
  string := fun _ => rfl
  int64 := fun value => by simp [semantics]
  boolean := fun _ => rfl
  enum := fun values value member => by simp [semantics, member]
  json := fun _ json => json
  objectRef := fun reference checked => by
    change (documented.parseObjectReference _).isOk = true
    rw [documented.parse_toDict checked]
    rfl
  utcTimestamp := fun time => by simp [semantics, strptime_strftime]
  maxLength := fun _ _ => decide_eq_true_iff
  pattern := fun _ _ => rfl
  min := fun _ _ => decide_eq_true_iff

theorem documents_json : ∀ document ∈ documents, isJson document.1 = true := by decide

theorem jsonLoads_json {encoded : Bytes} {loaded : JsonValue}
    (read : documented.jsonLoads encoded = .ok loaded) : isJson loaded = true := by
  change decodeDocument encoded = .ok loaded at read
  unfold decodeDocument at read
  split at read
  · next document found =>
    cases read
    exact documents_json document (List.mem_of_find?_eq_some found)
  · cases read

end Reference

open Reference in
/-- Records with every field filled in fit. -/
theorem records_fit_schemas_described :
    schemaAdmits semantics storedResourceSchema described.toRecord = true ∧
      schemaAdmits semantics resourceChannelSchema (describedPointer.toRecord documented) = true ∧
      schemaAdmits semantics orphanCandidateSchema (describedOrphan.toRecord documented) = true ∧
      ∃ record, described.provenanceRecord = some record ∧
        schemaAdmits semantics provenanceSchema record = true := by
  obtain ⟨resources, pointers, orphans, provenances⟩ :=
    records_fit_schemas documented documented_semantics jsonLoads_json
  exact ⟨(resources described).mpr (by decide), (pointers describedPointer).mpr (by decide),
    (orphans describedOrphan).mpr (by decide), _, rfl, provenances described _ rfl⟩

/-- A resource ordered past the last 64-bit integer, which the constructor accepts. -/
def Reference.ordered : StoredResourceV1 Reference.documented where
  toStoredResourceFields :=
    { Reference.described.toStoredResourceFields with versionOrder := some (2 ^ 63) }
  valid := { Reference.described.valid with }

open Reference in
theorem ordered_exceeds_schema :
    semantics.Documented documented ∧
      StoredResourceV1.create documented ordered.toArguments = .ok ordered ∧
      schemaAdmits semantics storedResourceSchema ordered.toRecord = false := by
  refine ⟨documented_semantics, ordered.create_self, ?_⟩
  rw [← Bool.not_eq_true, resource_fits jsonLoads_json documented_semantics]
  rintro ⟨-, bounded⟩
  exact absurd (bounded (2 ^ 63) rfl) (by decide)

end ConfigArtifact
