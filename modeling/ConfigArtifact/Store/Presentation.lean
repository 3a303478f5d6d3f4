import ConfigArtifact.Repositories.Object
import ConfigArtifact.Store.World

/-! Both presentations of a row are read back as the record it stores. -/

set_option autoImplicit false

namespace ConfigArtifact

variable {X : Platform}

theorem lookup_eq_none {value : Mapping} {key : String} :
    value.lookup key = none ↔ key ∉ Mapping.keys value := by
  rw [List.lookup_eq_none_iff]
  constructor
  · intro different member
    obtain ⟨entry, inside, rfl⟩ := List.mem_map.mp member
    simpa using different entry inside
  · intro outside entry inside
    have : key ≠ entry.1 := fun same => outside (same ▸ List.mem_map_of_mem inside)
    simpa using this

theorem keys_append (left right : Mapping) :
    Mapping.keys (left ++ right) = Mapping.keys left ++ Mapping.keys right := List.map_append

theorem set_of_notMem {value : Mapping} {key : String} (outside : key ∉ Mapping.keys value)
    (item : JsonValue) : Mapping.set value key item = value ++ [(key, item)] := by
  induction value with
  | nil => rfl
  | cons entry rest ih =>
    simp only [Mapping.keys, List.map_cons, List.mem_cons, not_or] at outside
    change (if _ then _ else _) = _
    rw [if_neg (Ne.symm outside.1), ih outside.2, List.cons_append]

/-- The fields of a record are none of those that a store adds to it. -/
def IsPlain (collection : Collection) (values : Mapping) : Prop :=
  ∀ key ∈ Mapping.keys values, key ∉ "values" :: "recordVersion" :: adapterTimestamps collection

/-- Timestamps an adapter has added to a record. -/
def AddedTimestamps (collection : Collection) (added : Mapping) : Prop :=
  ∀ entry ∈ added, entry.1 ∈ adapterTimestamps collection ∧
    ∃ text, entry.2 = .str text ∧ IsTimestamp text

theorem adapterTimestamps_other (collection : Collection) :
    "values" ∉ adapterTimestamps collection ∧ "recordVersion" ∉ adapterTimestamps collection := by
  cases collection <;> decide

theorem addedTimestamps_bare {collection : Collection} {timestamps : StringMapping}
    (valid : Shape.IsValid collection (.bare timestamps)) :
    AddedTimestamps collection (timestamps.map fun entry => (entry.1, .str entry.2)) := by
  intro entry member
  obtain ⟨stamp, inside, rfl⟩ := List.mem_map.mp member
  exact ⟨valid.1.subset (List.mem_map_of_mem inside), stamp.2, rfl, valid.2 stamp inside⟩

theorem lookup_values_bare {collection : Collection} {key : String} {row : Row}
    {timestamps : StringMapping} (plain : IsPlain collection row.values)
    (valid : Shape.IsValid collection (.bare timestamps)) :
    (present X collection key row (.bare timestamps)).lookup "values" = none := by
  rw [lookup_eq_none, present, keys_append, List.mem_append, not_or]
  refine ⟨fun member => plain _ member List.mem_cons_self, ?_⟩
  intro member
  rcases List.mem_cons.mp member with same | member
  · simp at same
  · obtain ⟨entry, inside, same⟩ := List.mem_map.mp member
    have stamped := (addedTimestamps_bare valid entry inside).1
    rw [same] at stamped
    exact (adapterTimestamps_other collection).1 stamped

theorem logicalRecord_present (X : Platform) {collection : Collection} (key description : String)
    {row : Row} {shape : Shape} (plain : IsPlain collection row.values)
    (valid : Shape.IsValid collection shape) :
    ∃ added, AddedTimestamps collection added ∧
      logicalRecord (present X collection key row shape) description =
        .ok (row.values ++ versionEntry (some row.version) ++ added) := by
  cases shape with
  | bare timestamps =>
    refine ⟨_, addedTimestamps_bare valid, ?_⟩
    unfold logicalRecord
    rw [lookup_values_bare plain valid]
    simp [present, versionEntry]
  | envelope createdAt updatedAt formatted =>
    refine ⟨[], fun entry member => (by cases member), ?_⟩
    have absent : "recordVersion" ∉ Mapping.keys row.values := fun member =>
      plain _ member (List.mem_cons_of_mem _ List.mem_cons_self)
    have unfolded : logicalRecord (present X collection key row
        (.envelope createdAt updatedAt formatted)) description =
        .ok (Mapping.set row.values "recordVersion" row.version.toJson) := by
      obtain ⟨values, version⟩ := row
      cases version <;> rfl
    rw [unfolded, set_of_notMem absent, List.append_nil]
    rfl

theorem checkTimestamps_ok {value : Mapping} {fields : List String}
    (valid : ∀ field ∈ fields, ∀ item, value.lookup field = some item →
      ∃ text, item = .str text ∧ IsTimestamp text) :
    checkTimestamps value fields = .ok () := by
  induction fields with
  | nil => rfl
  | cons field rest ih =>
    have others := ih fun other member => valid other (List.mem_cons_of_mem _ member)
    unfold checkTimestamps
    cases found : value.lookup field with
    | none => exact others
    | some item =>
      obtain ⟨text, rfl, stamped⟩ := valid field List.mem_cons_self item found
      unfold IsTimestamp at stamped
      cases accepted : utcTimestamp (.str text) with
      | ok normal => exact bind_ok.mpr ⟨normal, accepted, others⟩
      | error error =>
        rw [accepted] at stamped
        cases stamped

/-- The timestamps an adapter added are checked and dropped; nothing else is. -/
theorem withoutRecordTimestamps_added {collection : Collection} {values added : Mapping}
    (version : RecordVersion) (plain : IsPlain collection values)
    (stamps : AddedTimestamps collection added) :
    withoutRecordTimestamps (values ++ versionEntry (some version) ++ added)
      (adapterTimestamps collection) = .ok (values ++ versionEntry (some version)) := by
  have outside : ∀ field ∈ adapterTimestamps collection,
      field ∉ Mapping.keys (values ++ versionEntry (some version)) := by
    intro field member inside
    rw [keys_append] at inside
    rcases List.mem_append.mp inside with inside | inside
    · exact plain field inside (List.mem_cons_of_mem _ (List.mem_cons_of_mem _ member))
    · rw [List.mem_singleton.mp inside] at member
      exact (adapterTimestamps_other collection).2 member
  refine bind_ok.mpr ⟨(), checkTimestamps_ok ?_, ?_⟩
  · intro field member item found
    rw [List.lookup_append, lookup_eq_none.mpr (outside field member), Option.none_or] at found
    obtain ⟨front, rest, split, _⟩ := List.lookup_eq_some_iff.mp found
    exact (stamps (field, item) (split ▸ by simp)).2
  · congr 1
    unfold Mapping.without
    rw [List.filter_append]
    have kept : (values ++ versionEntry (some version)).filter
        (fun entry => entry.1 ∉ adapterTimestamps collection) =
        values ++ versionEntry (some version) := by
      refine List.filter_eq_self.mpr fun entry member => ?_
      simp only [decide_not, Bool.not_eq_true', decide_eq_false_iff_not]
      exact fun stamped => outside entry.1 stamped (List.mem_map_of_mem member)
    have dropped : added.filter (fun entry => entry.1 ∉ adapterTimestamps collection) = [] := by
      refine List.filter_eq_nil_iff.mpr fun entry member => ?_
      simpa using (stamps entry member).1
    rw [kept, dropped, List.append_nil]

theorem isPlain_resource (resource : StoredResourceV1 X) :
    IsPlain .metadata resource.toRecord := by
  change ∀ key ∈ StoredResourceV1.recordFields, _
  decide

theorem isPlain_channel (pointer : ResourceChannelV1) : IsPlain .channels (pointer.toRecord X) := by
  change ∀ key ∈ ResourceChannelV1.recordFields, _
  decide

theorem isPlain_orphan (orphan : OrphanCandidateV1 X) :
    IsPlain .orphanCandidates (orphan.toRecord X) := by
  change ∀ key ∈ OrphanCandidateV1.recordFields, _
  decide

theorem isPlain_provenance {resource : StoredResourceV1 X} {record : Mapping}
    (carried : resource.provenanceRecord = some record) : IsPlain .provenance record := by
  obtain ⟨provenance, -, rfl⟩ := Option.map_eq_some_iff.mp carried
  change ∀ key ∈ ["formatVersion", "provenanceId", "resourceId", "document", "createdAt"], _
  decide

section

variable {collection : Collection} {key description : String} {row : Row} {data : JsonValue}
  {resources : List ResourceRef} {A : Type} {parse : Mapping → Except PyError A} {value : A}

/-- How the parser of a collection reads a presented row. -/
def Reads (collection : Collection) (parse : Mapping → Except PyError A) (row : Row) (value : A) :
    Prop :=
  IsPlain collection row.values ∧ ∀ added, AddedTimestamps collection added →
    parse (row.values ++ versionEntry (some row.version) ++ added) = .ok value

theorem recordOf_presented (reads : Reads collection parse row value)
    (presented : Presents X collection key row data) :
    (recordOf ⟨data, resources⟩ description >>= parse) = .ok value := by
  obtain ⟨shape, valid, rfl⟩ := presented
  obtain ⟨added, stamps, logical⟩ := logicalRecord_present X key description reads.1 valid
  exact bind_ok.mpr ⟨_, bind_ok.mpr ⟨_, rfl, logical⟩, reads.2 added stamps⟩

theorem pageItem_presented (reads : Reads collection parse row value)
    (presented : Presents X collection key row data) :
    pageItem parse description data = .ok value := by
  obtain ⟨shape, valid, rfl⟩ := presented
  obtain ⟨added, stamps, logical⟩ := logicalRecord_present X key description reads.1 valid
  exact bind_ok.mpr ⟨_, rfl, bind_ok.mpr ⟨_, logical, reads.2 added stamps⟩⟩

theorem readRecord_presented {required : Bool} {name : String}
    (reads : Reads collection parse row value) (presented : Presents X collection key row data) :
    readRecord parse description name required (.ok ⟨data, resources⟩) = .ok (some value) := by
  have found : (recordOf ⟨data, resources⟩ description >>= parse) = .ok value :=
    recordOf_presented reads presented
  obtain ⟨record, found, parsed⟩ := bind_ok.mp found
  have given : data ≠ .null := by
    obtain ⟨shape, -, same⟩ := presented
    rw [same]
    simp
  change (if data = .null then _ else _) = _
  rw [if_neg given]
  exact bind_ok.mpr ⟨record, found, map_ok.mpr ⟨value, parsed, rfl⟩⟩

theorem reads_resource (resource : StoredResourceV1 X) (version : RecordVersion) :
    Reads .metadata (parseResource X) ⟨resource.toRecord, version⟩
      (resource.withVersion (some version)) := by
  refine ⟨isPlain_resource resource, fun added stamps => ?_⟩
  have parsed := bind_ok.mpr ⟨_, withoutRecordTimestamps_added version (isPlain_resource resource) stamps,
    resource.fromRecord_toRecord (some version)⟩
  exact congrArg (orInvalid _) parsed

theorem reads_channel (pointer : ResourceChannelV1) (version : RecordVersion) :
    Reads .channels (parseChannel X) ⟨pointer.toRecord X, version⟩
      (pointer.withVersion (some version)) := by
  refine ⟨isPlain_channel pointer, fun added stamps => ?_⟩
  have parsed := bind_ok.mpr ⟨_, withoutRecordTimestamps_added version (isPlain_channel (X := X) pointer)
    stamps, pointer.fromRecord_toRecord X (some version)⟩
  exact congrArg (orInvalid _) parsed

theorem reads_orphan (orphan : OrphanCandidateV1 X) (version : RecordVersion) :
    Reads .orphanCandidates (parseOrphan X) ⟨orphan.toRecord X, version⟩
      (orphan.withVersion (some version)) := by
  refine ⟨isPlain_orphan orphan, fun added stamps => ?_⟩
  have parsed := bind_ok.mpr ⟨_, withoutRecordTimestamps_added version (isPlain_orphan orphan) stamps,
    orphan.fromRecord_toRecord (some version)⟩
  exact congrArg (orInvalid _) parsed

end

theorem lookup_set (value : Mapping) (key other : String) (item : JsonValue) :
    (Mapping.set value key item).lookup other =
      if other = key then some item else value.lookup other := by
  induction value with
  | nil =>
    change List.lookup other [(key, item)] = _
    rw [List.lookup_cons]
    by_cases same : other = key
    · simp [same]
    · simp [beq_eq_false_iff_ne.mpr same, same]
  | cons entry rest ih =>
    obtain ⟨first, held⟩ := entry
    change (if first = key then (key, item) :: rest
      else (first, held) :: Mapping.set rest key item).lookup other = _
    by_cases here : first = key
    · subst here
      rw [if_pos rfl, List.lookup_cons, List.lookup_cons]
      by_cases same : other = first
      · simp [same]
      · simp [beq_eq_false_iff_ne.mpr same, same]
    · rw [if_neg here, List.lookup_cons, List.lookup_cons, ih]
      by_cases same : other = first
      · subst same
        simp [here]
      · simp [beq_eq_false_iff_ne.mpr same]

theorem set_self {value : Mapping} {key : String} {item : JsonValue}
    (found : value.lookup key = some item) : Mapping.set value key item = value := by
  induction value with
  | nil => cases found
  | cons entry rest ih =>
    obtain ⟨other, held⟩ := entry
    rw [List.lookup_cons] at found
    change (if _ then _ else _) = _
    by_cases same : other = key
    · subst same
      rw [beq_self_eq_true] at found
      cases found
      rw [if_pos rfl]
    · rw [beq_eq_false_iff_ne.mpr (Ne.symm same)] at found
      rw [if_neg same, ih found]

/-- A provenance row is read back as the record that was written. -/
theorem readProvenance_presented {resource : StoredResourceV1 X} {record : Mapping} {key : String}
    {version : RecordVersion} {data : JsonValue} (resources : List ResourceRef)
    (carried : resource.provenanceRecord = some record)
    (presented : Presents X .provenance key ⟨record, version⟩ data) :
    (MetadataRepository.readProvenance record ⟨data, resources⟩).isOk = true := by
  have plain := isPlain_provenance carried
  obtain ⟨shape, valid, rfl⟩ := presented
  obtain ⟨added, stamps, logical⟩ := @logicalRecord_present X _ key
    "structured provenance put result" ⟨record, version⟩ _ plain valid
  have stripped := withoutRecordTimestamps_added version plain stamps
  have time : (record ++ versionEntry (some version)).lookup "createdAt" =
      some (.str resource.createdAt) := by
    obtain ⟨provenance, -, rfl⟩ := Option.map_eq_some_iff.mp carried
    rfl
  have kept : Mapping.without (record ++ versionEntry (some version)) ["recordVersion"] = record := by
    obtain ⟨provenance, -, rfl⟩ := Option.map_eq_some_iff.mp carried
    rfl
  have normal : MetadataRepository.readProvenance record
      ⟨.object (present X .provenance key ⟨record, version⟩ shape), resources⟩ =
      .ok (record ++ versionEntry (some version)) := by
    refine bind_ok.mpr ⟨record ++ versionEntry (some version), ?_, ?_⟩
    · refine congrArg MetadataRepository.readProvenance.timestamps
        (bind_ok.mpr ⟨_, bind_ok.mpr ⟨_, rfl, logical⟩, bind_ok.mpr ⟨_, stripped, ?_⟩⟩)
      rw [time]
      exact bind_ok.mpr ⟨_, resource.valid.createdAt, by rw [set_self time]⟩
    · rw [kept]
      exact bind_ok.mpr ⟨(), raiseIf_ok.mpr (by simp), rfl⟩
  rw [normal]
  rfl

theorem checkEnvelope_present (key createdAt updatedAt : String) (row : Row) (formatted : Bool)
    (created : IsTimestamp createdAt) (updated : IsTimestamp updatedAt) :
    MetadataRepository.checkEnvelope X
      (present X .metadata key row (.envelope createdAt updatedAt formatted)) key = .ok () := by
  have stamped : ∀ text, IsTimestamp text → ∃ normal, utcTimestamp (.str text) = .ok normal := by
    intro text accepted
    unfold IsTimestamp at accepted
    cases read : utcTimestamp (.str text) with
    | ok normal => exact ⟨normal, rfl⟩
    | error error =>
      rw [read] at accepted
      cases accepted
  obtain ⟨first, created⟩ := stamped createdAt created
  obtain ⟨second, updated⟩ := stamped updatedAt updated
  have scope : MetadataRepository.envelopeScope X
      (present X .metadata key row (.envelope createdAt updatedAt formatted)) =
      .ok (X.collectionRef .metadata) := by
    unfold MetadataRepository.envelopeScope
    have parsed : (do
        let reference ← asMapping (entryOf (present X .metadata key row
          (.envelope createdAt updatedAt formatted)) "collectionRef") "patch collectionRef"
        let collection ← X.parseResourceRef reference
        let _ ← utcTimestamp (entryOf (present X .metadata key row
          (.envelope createdAt updatedAt formatted)) "createdAt")
        let _ ← utcTimestamp (entryOf (present X .metadata key row
          (.envelope createdAt updatedAt formatted)) "updatedAt")
        .ok collection) = Except.ok (X.collectionRef .metadata) :=
      bind_ok.mpr ⟨_, rfl, bind_ok.mpr ⟨_, X.parse_resourceRef .metadata,
        bind_ok.mpr ⟨_, created, bind_ok.mpr ⟨_, updated, rfl⟩⟩⟩⟩
    rw [parsed]
  refine bind_ok.mpr ⟨(), raiseIf_ok.mpr ?_, bind_ok.mpr ⟨(), raiseIf_ok.mpr ?_, ?_⟩⟩
  · cases formatted <;> simp [present, Mapping.keys, MetadataRepository.envelopeFields]
  · cases formatted <;> simp [present, List.lookup_cons]
  · refine bind_ok.mpr ⟨(), raiseIf_ok.mpr ?_, bind_ok.mpr ⟨_, scope, raiseIf_ok.mpr ?_⟩⟩
    · simp [entryOf, present, List.lookup_cons]
    · simp

theorem checkScope_present (key : String) {row : Row} {shape : Shape}
    (plain : IsPlain .metadata row.values) (valid : Shape.IsValid .metadata shape) :
    MetadataRepository.checkScope X (present X .metadata key row shape) key = .ok () := by
  unfold MetadataRepository.checkScope
  cases shape with
  | bare timestamps => rw [lookup_values_bare plain valid]; rfl
  | envelope createdAt updatedAt formatted =>
    rw [checkEnvelope_present key createdAt updatedAt row formatted valid.1 valid.2]
    split <;> rfl

theorem isStaleVersion_renewed {old version : RecordVersion} (renewed : version ≠ old)
    (valid : version.IsValid) :
    MetadataRepository.isStaleVersion (some old) (some version) = false := by
  unfold MetadataRepository.isStaleVersion
  cases version with
  | text value =>
    have : value ≠ "" := valid
    simp [renewed, this]
  | number value =>
    have : 0 ≤ value := valid
    simp [renewed, this]

/-- A patched row is accepted as the deprecated resource at its new version. -/
theorem deprecationResult_presented {resource : StoredResourceV1 X} {old version : RecordVersion}
    {data : JsonValue} (immutable : resource.immutable = true)
    (read : resource.recordVersion = some old) (renewed : version ≠ old)
    (valid : version.IsValid)
    (presented : Presents X .metadata resource.resourceId
      ⟨(resource.deprecatedAt immutable version).toRecord, version⟩ data) :
    MetadataRepository.deprecationResult ⟨.array [data], [X.collectionRef .metadata]⟩ resource =
      .ok (resource.deprecatedAt immutable version) := by
  have reads := reads_resource (resource.deprecatedAt immutable version) version
  obtain ⟨shape, shaped, rfl⟩ := presented
  obtain ⟨added, stamps, logical⟩ := logicalRecord_present X resource.resourceId
    "structured resource patch Record" reads.1 shaped
  have checked := checkScope_present (X := X) resource.resourceId reads.1 shaped
  refine bind_ok.mpr ⟨(), raiseIf_ok.mpr (by simp), bind_ok.mpr ⟨_, rfl, ?_⟩⟩
  refine bind_ok.mpr ⟨(), checked, bind_ok.mpr ⟨_, logical, ?_⟩⟩
  refine bind_ok.mpr ⟨_, reads.2 added stamps, ?_⟩
  refine bind_ok.mpr ⟨(), raiseIf_ok.mpr ?_, bind_ok.mpr ⟨(), raiseIf_ok.mpr ?_, rfl⟩⟩
  · change ¬pyEq _ (.object (resource.deprecatedAt immutable version).toRecord) = false
    rw [show (StoredResourceV1.withVersion (resource.deprecatedAt immutable version)
      (some version)).toRecord = (resource.deprecatedAt immutable version).toRecord from rfl,
      pyEq_refl]
    simp
  · change ¬MetadataRepository.isStaleVersion _ (some version) = true
    rw [read, isStaleVersion_renewed renewed valid]
    simp

end ConfigArtifact
