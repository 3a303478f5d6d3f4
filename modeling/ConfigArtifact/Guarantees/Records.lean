import ConfigArtifact.Contracts.Models
import ConfigArtifact.Described

/-! The records the package writes.

They are read back as what was written, and they are what the published
contracts describe, but for one bound that the constructor of a stored resource
does not check.
-/

set_option autoImplicit false

namespace ConfigArtifact

open JsonSchema

variable {X : Platform}

/-- Every codec reads back what it wrote, and what it once read. -/
theorem records_round_trip (X : Platform) :
    (∀ resource : StoredResourceV1 X, StoredResourceV1.fromRecord X resource.toRecord =
      .ok (resource.withVersion none)) ∧
    (∀ pointer : ResourceChannelV1, ResourceChannelV1.fromRecord X (pointer.toRecord X) =
      .ok (pointer.withVersion none)) ∧
    (∀ orphan : OrphanCandidateV1 X, OrphanCandidateV1.fromRecord X (orphan.toRecord X) =
      .ok (orphan.withVersion none)) ∧
    (∀ provenance : ProvenanceV1 X, ProvenanceV1.fromMapping X provenance.toDict = .ok provenance) ∧
    (∀ record resource, StoredResourceV1.fromRecord X record = .ok resource →
      ∃ again, StoredResourceV1.fromRecord X resource.toRecord = .ok again ∧
        again.withVersion none = resource.withVersion none) ∧
    (∀ record pointer, ResourceChannelV1.fromRecord X record = .ok pointer →
      ∃ again, ResourceChannelV1.fromRecord X (pointer.toRecord X) = .ok again ∧
        again.withVersion none = pointer.withVersion none) ∧
    ∀ record orphan, OrphanCandidateV1.fromRecord X record = .ok orphan →
      ∃ again, OrphanCandidateV1.fromRecord X (orphan.toRecord X) = .ok again ∧
        again.withVersion none = orphan.withVersion none := by
  have resources (resource : StoredResourceV1 X) :
      StoredResourceV1.fromRecord X resource.toRecord = .ok (resource.withVersion none) := by
    have read := resource.fromRecord_toRecord none
    rwa [versionEntry, List.append_nil] at read
  have pointers (pointer : ResourceChannelV1) :
      ResourceChannelV1.fromRecord X (pointer.toRecord X) = .ok (pointer.withVersion none) := by
    have read := pointer.fromRecord_toRecord X none
    rwa [versionEntry, List.append_nil] at read
  have orphans (orphan : OrphanCandidateV1 X) :
      OrphanCandidateV1.fromRecord X (orphan.toRecord X) = .ok (orphan.withVersion none) := by
    have read := orphan.fromRecord_toRecord none
    rwa [versionEntry, List.append_nil] at read
  refine ⟨resources, pointers, orphans, fun provenance => provenance.fromMapping_toDict, ?_, ?_, ?_⟩
  · exact fun _ resource _ => ⟨_, resources resource, rfl⟩
  · exact fun _ pointer _ => ⟨_, pointers pointer, rfl⟩
  · exact fun _ orphan _ => ⟨_, orphans orphan, rfl⟩

open Reference in
/-- Records with every field filled in, read from a store at a version. -/
theorem records_round_trip_described :
    (∃ again, StoredResourceV1.fromRecord documented described.toRecord = .ok again ∧
      again.withVersion none = described.withVersion none) ∧
    (∃ again, ResourceChannelV1.fromRecord documented (describedPointer.toRecord documented) =
      .ok again ∧ again.withVersion none = describedPointer.withVersion none) ∧
    (∃ again, OrphanCandidateV1.fromRecord documented (describedOrphan.toRecord documented) = .ok again ∧
      again.withVersion none = describedOrphan.withVersion none) ∧
    ProvenanceV1.fromMapping documented source.toDict = .ok source := by
  obtain ⟨-, -, -, provenances, resources, pointers, orphans⟩ := records_round_trip documented
  exact ⟨resources (described.toRecord ++ versionEntry (some (.number 1))) described
      (described.fromRecord_toRecord (some (.number 1))),
    pointers (describedPointer.toRecord documented ++ versionEntry (some (.text "7"))) describedPointer
      (describedPointer.fromRecord_toRecord documented (some (.text "7"))),
    orphans (describedOrphan.toRecord documented ++ versionEntry (some (.number 2))) describedOrphan
      (describedOrphan.fromRecord_toRecord (some (.number 2))),
    provenances source⟩

section

theorem text_str (keywords : List JsonSchema) (value : String) :
    text keywords (.str value) = every keywords (.str value) := rfl

theorem boundedText_str {least most : Nat} {value : String}
    (bounded : isBounded value most = true) (long : least ≤ value.length) :
    boundedText least most (.str value) = true := by
  have short := (isBounded_length bounded).2
  simp [boundedText, text_str, minLength, maxLength, short, long]

theorem boundedText_one {most : Nat} {value : String} (bounded : isBounded value most = true) :
    boundedText 1 most (.str value) = true := boundedText_str bounded (isBounded_length bounded).1

theorem optionalText_optional {most : Nat} {value : Option String}
    (bounded : ∀ text ∈ value, isBounded text most = true) :
    optionalText most (optionalJson .str value) = true := by
  cases value with
  | none => rfl
  | some text =>
    have short := (isBounded_length (bounded text rfl)).2
    simp [optionalText, type, Kind.holds, maxLength, short]

theorem namePattern_str {value : String} (named : IsName value) :
    text [pattern namePattern] (.str value) = true := by
  have matching := named.2
  simp only [text_str, every_cons, every_nil, Bool.and_true]
  unfold isLogicalName matchesName at matching
  unfold pattern namePattern
  split at matching
  · cases matching
  · next first rest spelled =>
    simp only [Bool.and_eq_true, decide_eq_true_eq, List.all_eq_true] at matching
    dsimp only
    rw [spelled]
    change matchesPieces (_ :: _) ([first] ++ rest) = true
    apply matchesPieces_append (by simp [Piece.exactly]) (by simp [Piece.exactly])
    · intro c member
      rw [List.mem_singleton.mp member]
      exact matching.1.1
    · rw [← List.append_nil rest]
      exact matchesPieces_append (Nat.zero_le _) matching.2 matching.1.2 rfl

/-- Digits after a literal. -/
theorem hexPattern_str {start value : String} {count : Nat}
    (front : value.toList.take start.length = start.toList)
    (hex : isHexOf count (value.toList.drop start.length) = true) :
    text [pattern (Piece.literal start ++ [.exactly isLowercaseHex count])] (.str value) = true := by
  simp only [isHexOf, Bool.and_eq_true, decide_eq_true_eq, List.all_eq_true] at hex
  simp only [text_str, every_cons, every_nil, Bool.and_true]
  unfold pattern
  dsimp only
  rw [← List.take_append_drop start.length value.toList, front]
  apply matchesPieces_literal
  rw [← List.append_nil (List.drop _ _)]
  exact matchesPieces_append (by rw [hex.1]; rfl) (by rw [hex.1]; rfl) hex.2 rfl

theorem hexIdPattern_str {start value : String} (valid : hasHexId start value = true) :
    text [pattern (hexIdPattern start)] (.str value) = true := by
  simp only [hasHexId, Bool.and_eq_true, decide_eq_true_eq] at valid
  exact hexPattern_str valid.1 valid.2

theorem digestPattern_str {value : String} (valid : isDigest value = true) :
    text [pattern digestPattern] (.str value) = true := by
  simp only [isDigest, Bool.and_eq_true, decide_eq_true_eq] at valid
  have front : value.toList.take "sha256:".length = "sha256:".toList := valid.1
  exact hexPattern_str front valid.2

theorem nonnegative_natJson {least : Int} (value : Nat) (bounded : least ≤ value) :
    every [type [.integer], minimum least] (natJson value) = true := by
  simp [type, Kind.holds, natJson, minimum, bounded]

theorem labels_toJson {labels : StringMapping} (valid : IsStringMapping labels) :
    labelsContract labels.toJson = true := by
  have entries : ∀ entry ∈ labels.map fun entry => (entry.1, JsonValue.str entry.2),
      ∃ label ∈ labels, entry = (label.1, .str label.2) := by
    intro entry member
    obtain ⟨label, among, rfl⟩ := List.mem_map.mp member
    exact ⟨label, among, rfl⟩
  have keys : propertyNames (maxLength 128) labels.toJson = true := by
    apply List.all_eq_true.mpr
    intro entry member
    obtain ⟨label, among, rfl⟩ := entries entry member
    exact decide_eq_true (isBounded_length (valid.bounded label among).1).2
  have values : additionalProperties [] (text [maxLength 512]) labels.toJson = true := by
    apply List.all_eq_true.mpr
    intro entry member
    obtain ⟨label, among, rfl⟩ := entries entry member
    have short := (isBounded_length (valid.bounded label among).2).2
    simp [text_str, maxLength, short]
  have few : maxProperties 64 labels.toJson = true := by
    have short := valid.short
    simp [StringMapping.toJson, maxProperties, short]
  unfold labelsContract
  simp only [every_cons, every_nil, keys, values, few]
  rfl

theorem maxProperties_canonical {value : JsonValue} {fieldName : String} {maximumBytes : Option Nat}
    {entries : Mapping}
    (accepted : canonicalMapping X value fieldName (some 64) maximumBytes = .ok entries) :
    every [type [.object], maxProperties 64] (.object entries) = true := by
  obtain ⟨_, _, _, _, _, _, few, _⟩ := canonicalMapping_ok accepted
  simp only [exceeds, Option.any_some, decide_eq_false_iff_not, not_lt] at few
  simp [type, Kind.holds, maxProperties, few]

theorem schemaReference_contract (schema : PayloadSchemaRef) :
    schemaReferenceContract (.object schema.toDict) = true := by
  unfold schemaReferenceContract
  rw [closed_object rfl, properties_object]
  simp only [List.forall_mem_cons, List.not_mem_nil]
  exact ⟨rfl, properties_of_lookup rfl (namePattern_str schema.namespace_valid),
    properties_of_lookup rfl (namePattern_str schema.name_valid),
    properties_of_lookup rfl (boundedText_one schema.version_valid), fun _ => False.elim⟩

theorem payloadSchema_contract (schema : Option PayloadSchemaRef) :
    payloadSchemaContract (optionalJson (fun schema => .object schema.toDict) schema) = true := by
  cases schema with
  | none => rfl
  | some schema =>
    have valid := schemaReference_contract schema
    simp [payloadSchemaContract, oneOf, optionalJson, valid, type, Kind.holds]

theorem provenance_contract (provenance : ProvenanceV1 X) :
    provenanceContract (.object provenance.toDict) = true := by
  have valid := provenance.valid
  have sources : every [type [.object], maxProperties 64,
      propertyNames (every [minLength 1, maxLength 128]),
      additionalProperties [] (text [pattern digestPattern])] provenance.sourceDigests.toJson =
        true := by
    have keys : propertyNames (every [minLength 1, maxLength 128])
        provenance.sourceDigests.toJson = true := by
      apply List.all_eq_true.mpr
      intro entry member
      obtain ⟨source, among, rfl⟩ := List.mem_map.mp member
      have length := isBounded_length (valid.sourceDigests.bounded source among).1
      simp [minLength, maxLength, length]
    have values : additionalProperties [] (text [pattern digestPattern])
        provenance.sourceDigests.toJson = true := by
      apply List.all_eq_true.mpr
      intro entry member
      obtain ⟨source, among, rfl⟩ := List.mem_map.mp member
      exact digestPattern_str (valid.digests source among)
    have few : maxProperties 64 provenance.sourceDigests.toJson = true := by
      have short := valid.sourceDigests.short
      simp [StringMapping.toJson, maxProperties, short]
    simp only [every_cons, every_nil, keys, values, few]
    rfl
  unfold provenanceContract
  rw [closed_object rfl, properties_object]
  simp only [List.forall_mem_cons, List.not_mem_nil]
  refine ⟨rfl, properties_of_lookup rfl (boundedText_one valid.producer),
    properties_of_lookup rfl (boundedText_one valid.producerVersion),
    properties_of_lookup rfl sources,
    properties_of_lookup rfl (optionalText_optional valid.buildId),
    properties_of_lookup rfl (optionalText_optional valid.validationVersion),
    properties_of_lookup rfl ?_, fun _ => False.elim⟩
  rw [thawEntries_eq]
  exact maxProperties_canonical valid.attributes

theorem channel_contract (pointer : ResourceChannelV1) :
    resourceChannelContract (.object (pointer.toRecord X)) = true := by
  have identified : hasHexId "ch_" (pointer.channelVersionId X) = true :=
    hasHexId_append (X.uuid5_hex _ _)
  unfold resourceChannelContract
  rw [closed_object rfl, properties_object]
  simp only [List.forall_mem_cons, List.not_mem_nil]
  exact ⟨rfl, properties_of_lookup rfl (hexIdPattern_str identified), rfl, rfl, rfl,
    properties_of_lookup rfl (boundedText_one pointer.valid.channel.1),
    properties_of_lookup rfl (hexIdPattern_str pointer.valid.targetResourceId),
    properties_of_lookup rfl (nonnegative_natJson _ (by exact_mod_cast pointer.valid.pointerVersion)),
    properties_of_lookup rfl (boundedText_one pointer.valid.actor), rfl, fun _ => False.elim⟩

theorem orphan_contract (orphan : OrphanCandidateV1 X) :
    orphanCandidateContract (.object (orphan.toRecord X)) = true := by
  have identified : hasHexId "oc_" (orphan.candidateId X) = true :=
    hasHexId_append (X.uuid5_hex _ _)
  have stated : enum [.str "DISCOVERED", .str "RECORDED", .str "RESOLVED"] (.str orphan.state.value) =
      true := by
    cases orphan.state <;> rfl
  unfold orphanCandidateContract
  rw [closed_object rfl, properties_object]
  simp only [List.forall_mem_cons, List.not_mem_nil]
  exact ⟨rfl, properties_of_lookup rfl (hexIdPattern_str identified),
    properties_of_lookup rfl (hexIdPattern_str orphan.valid.resourceId), rfl,
    properties_of_lookup rfl (digestPattern_str orphan.valid.digest),
    properties_of_lookup rfl (nonnegative_natJson _ (by omega)),
    properties_of_lookup rfl (boundedText_one orphan.valid.reason), rfl,
    properties_of_lookup rfl stated, fun _ => False.elim⟩

end

section

variable (resource : StoredResourceV1 X)

theorem profile_contract : profileContract (.object resource.toRecord) = true := by
  have contained := resource.valid.content
  have decided : properties [("profile", const (.str "configuration"))] (.object resource.toRecord) =
      decide (resource.profile = .configuration) :=
    (properties_single rfl).trans (by cases resource.profile <;> rfl)
  unfold profileContract ifThenElse
  rw [decided]
  unfold IsContent at contained
  split at contained
  · next configuration =>
    obtain ⟨referenced, schemed, entries, -, given, -⟩ := contained
    obtain ⟨schema, present⟩ := Option.isSome_iff_exists.mp schemed
    rw [if_pos (by simpa using configuration), properties_object]
    simp only [List.forall_mem_cons, List.not_mem_nil]
    refine ⟨properties_of_lookup rfl ?_, properties_of_lookup rfl ?_, properties_of_lookup rfl ?_,
      fun _ => False.elim⟩
    · rw [referenced]
      rfl
    · rw [given]
      rfl
    · rw [present]
      rfl
  · next artifact =>
    obtain ⟨bare, unschemed, reference, given, -⟩ := contained
    rw [if_neg (by simp [artifact]), properties_object]
    simp only [List.forall_mem_cons, List.not_mem_nil]
    refine ⟨properties_of_lookup rfl ?_, properties_of_lookup rfl ?_, properties_of_lookup rfl ?_,
      fun _ => False.elim⟩
    · rw [given]
      rfl
    · rw [bare]
      rfl
    · rw [unschemed]
      rfl

theorem state_contract : stateContract (.object resource.toRecord) = true := by
  have immutable := resource.valid.immutable_iff
  have decided : properties [("state", const (.str "DRAFT"))] (.object resource.toRecord) =
      decide (resource.state = .draft) :=
    (properties_single rfl).trans (by cases resource.state <;> rfl)
  unfold stateContract ifThenElse
  rw [decided]
  by_cases drafted : resource.state = .draft
  · have fixed : resource.immutable = false := by
      rw [← Bool.not_eq_true, immutable, not_not]
      exact drafted
    rw [if_pos (by simpa using drafted), properties_single rfl, fixed]
    rfl
  · have fixed : resource.immutable = true := immutable.mpr drafted
    rw [if_neg (by simpa using drafted), properties_single rfl, fixed]
    rfl

/-- A stored resource is written as its contract describes it, if its media type is
as long as the contract asks. -/
theorem resource_contract :
    storedResourceContract (.object resource.toRecord) = true ↔ 3 ≤ resource.mediaType.length := by
  have valid := resource.valid
  unfold storedResourceContract
  simp only [every_cons, every_nil, profile_contract, state_contract, Bool.and_true]
  rw [show closed storedResourceProperties (.object resource.toRecord) =
    properties storedResourceProperties (.object resource.toRecord) from closed_object rfl,
    properties_object]
  unfold storedResourceProperties
  simp only [List.forall_mem_cons, List.not_mem_nil]
  constructor
  · rintro ⟨-, -, -, -, -, -, -, -, typed, -⟩
    change boundedText 3 255 (.str resource.mediaType) = true at typed
    simp only [boundedText, text_str, every_cons, every_nil, minLength, Bool.and_eq_true,
      decide_eq_true_eq] at typed
    exact typed.1
  · intro long
    have identified := ResourceIdentity.isResourceId_resourceId X resource.identity
    have profiled : enum [.str "configuration", .str "artifact"] (.str resource.profile.value) =
        true := by
      cases resource.profile <;> rfl
    have stated : enum [.str "DRAFT", .str "PUBLISHED", .str "DEPRECATED"]
        (.str resource.state.value) = true := by
      cases resource.state <;> rfl
    have optional {A : Type} (write : A → Mapping) (value : Option A) :
        type [.object, .null] (optionalJson (fun value => .object (write value)) value) = true := by
      cases value <;> rfl
    have ordered : every [type [.integer, .null], minimum 0]
        (optionalJson natJson resource.versionOrder) = true := by
      cases resource.versionOrder with
      | none => rfl
      | some order => simp [optionalJson, natJson, type, Kind.holds, minimum]
    refine ⟨rfl, properties_of_lookup rfl (hexIdPattern_str identified),
      properties_of_lookup rfl (namePattern_str resource.identity.namespace_valid),
      properties_of_lookup rfl (namePattern_str resource.identity.kind_valid),
      properties_of_lookup rfl (namePattern_str resource.identity.name_valid),
      properties_of_lookup rfl (boundedText_one resource.identity.version_valid),
      properties_of_lookup rfl profiled, properties_of_lookup rfl stated,
      properties_of_lookup rfl (boundedText_str valid.mediaType.1 long),
      properties_of_lookup rfl (digestPattern_str valid.digest),
      properties_of_lookup rfl (nonnegative_natJson _ (by omega)),
      properties_of_lookup rfl (optional X.objectReferenceToDict _),
      properties_of_lookup rfl (optional thawEntries _),
      properties_of_lookup rfl (payloadSchema_contract _),
      properties_of_lookup rfl (labels_toJson valid.labels), properties_of_lookup rfl ?_,
      properties_of_lookup rfl (optional (fun provenance : ProvenanceV1 X => provenance.toDict) _),
      properties_of_lookup rfl (boundedText_one valid.createdBy), rfl,
      properties_of_lookup rfl (optionalText_optional valid.supersedes), rfl,
      properties_of_lookup rfl ordered, fun _ => False.elim⟩
    rw [thawEntries_eq]
    exact maxProperties_canonical valid.annotations

end

/-- The wire records honour the published contracts, but for media types that are
shorter than the contract of a stored resource allows. -/
theorem records_honour_contracts (X : Platform) :
    (∀ resource : StoredResourceV1 X, storedResourceContract (.object resource.toRecord) = true ↔
      3 ≤ resource.mediaType.length) ∧
    (∀ pointer : ResourceChannelV1,
      resourceChannelContract (.object (pointer.toRecord X)) = true) ∧
    (∀ orphan : OrphanCandidateV1 X,
      orphanCandidateContract (.object (orphan.toRecord X)) = true) ∧
    ∀ provenance : ProvenanceV1 X, provenanceContract (.object provenance.toDict) = true :=
  ⟨resource_contract, channel_contract, orphan_contract, provenance_contract⟩

/-- A resource of the media type `/`, which the constructor accepts. -/
def Reference.slashed : StoredResourceV1 Platform.reference where
  toStoredResourceFields := { Reference.resource.toStoredResourceFields with mediaType := "/" }
  valid := { Reference.resource.valid with mediaType := by decide }

theorem slashed_breaks_contract :
    StoredResourceV1.create Platform.reference Reference.slashed.toArguments = .ok Reference.slashed ∧
      storedResourceContract (.object Reference.slashed.toRecord) = false := by
  refine ⟨Reference.slashed.create_self, ?_⟩
  rw [← Bool.not_eq_true, resource_contract]
  decide

end ConfigArtifact
