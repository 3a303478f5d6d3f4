import ConfigArtifact.Guarantees.Promotion
import ConfigArtifact.Operations.Alone.Artifact
import ConfigArtifact.Described

/-! What a publication makes of a row that its identity already has.

The publishers compare the two with Python's `==`, under which `True`, `1` and
`1.0` are one value. Their canonical JSON is not.
-/

set_option autoImplicit false

namespace ConfigArtifact

open Interaction Fallible MetadataRepository
open StoredResourceFields (sameArtifact sameConfiguration)

variable {X : Platform} {s t : World}

/-- Mappings that have the same canonical JSON. -/
def SameDocument (X : Platform) (left right : Mapping) : Prop :=
  ∃ encoded, X.canonicalJsonBytes (.object (thawEntries left)) = .ok encoded ∧
    X.canonicalJsonBytes (.object (thawEntries right)) = .ok encoded

/-- Of normalized mappings, only equal ones are the same document. -/
theorem sameDocument_iff {left right : Mapping} {fieldName fieldName' : String}
    {maximumEntries maximumEntries' maximumBytes maximumBytes' : Option Nat}
    (normal : canonicalMapping X (.object left) fieldName maximumEntries maximumBytes = .ok left)
    (normal' : canonicalMapping X (.object right) fieldName' maximumEntries' maximumBytes' =
      .ok right) : SameDocument X left right ↔ left = right := by
  obtain ⟨encoded, loaded, written, -, read, same, -⟩ := canonicalMapping_ok normal
  obtain ⟨encoded', loaded', written', -, read', same', -⟩ := canonicalMapping_ok normal'
  unfold SameDocument
  rw [thawEntries_eq, thawEntries_eq]
  constructor
  · rintro ⟨common, first, second⟩
    cases first.symm.trans written
    cases second.symm.trans written'
    cases read.symm.trans read'
    rw [same, same']
  · rintro rfl
    exact ⟨encoded, written, written⟩

theorem eq_of_entriesEq {left right : StringMapping}
    (same : entriesEq (left.map fun entry => (entry.1, .str entry.2))
      (right.map fun entry => (entry.1, .str entry.2)) = true) : left = right := by
  induction left generalizing right with
  | nil => cases right <;> simp_all [entriesEq]
  | cons entry rest ih =>
    cases right with
    | nil => simp [entriesEq] at same
    | cons other others =>
      simp only [List.map_cons, entriesEq, Bool.and_eq_true, decide_eq_true_eq, frozenEq] at same
      obtain ⟨⟨key, value⟩, rest⟩ := same
      rw [ih rest, Prod.ext key value]

theorem freezeJson_toJson {strings : StringMapping} (valid : IsStringMapping strings) :
    freezeJson strings.toJson = strings.toJson := by
  unfold StringMapping.toJson
  rw [freezeJson, freezeEntries_eq_map, List.map_map]
  refine congrArg JsonValue.object (sortEntries_of_sorted ?_)
  exact List.pairwise_map.mpr valid.sorted

/-- String mappings that Python calls equal are. -/
theorem IsStringMapping.pyEq_iff {left right : StringMapping} (valid : IsStringMapping left)
    (valid' : IsStringMapping right) : pyEq left.toJson right.toJson = true ↔ left = right := by
  constructor
  · intro same
    unfold pyEq at same
    rw [freezeJson_toJson valid, freezeJson_toJson valid'] at same
    exact eq_of_entriesEq same
  · rintro rfl
    exact pyEq_refl _

/-- Provenances that are the same document. -/
def SameProvenance : Option (ProvenanceV1 X) → Option (ProvenanceV1 X) → Prop
  | none, none => True
  | some left, some right => left.producer = right.producer ∧
      left.producerVersion = right.producerVersion ∧ left.sourceDigests = right.sourceDigests ∧
      left.buildId = right.buildId ∧ left.validationVersion = right.validationVersion ∧
      SameDocument X left.attributes right.attributes
  | _, _ => False

theorem sameProvenance_iff {left right : Option (ProvenanceV1 X)} :
    SameProvenance left right ↔ left = right := by
  cases left with
  | none => cases right <;> simp [SameProvenance]
  | some left =>
    cases right with
    | none => simp [SameProvenance]
    | some right =>
      have document := sameDocument_iff left.valid.attributes right.valid.attributes
      constructor
      · rintro ⟨producer, producerVersion, sources, built, validated, same⟩
        have attributes := document.mp same
        clear document same
        obtain ⟨⟨_, _, _, _, _, _⟩, valid⟩ := left
        obtain ⟨⟨_, _, _, _, _, _⟩, valid'⟩ := right
        simp only at producer producerVersion sources built validated attributes
        subst producer producerVersion sources built validated attributes
        rfl
      · intro same
        cases same
        exact ⟨rfl, rfl, rfl, rfl, rfl, document.mpr rfl⟩

/-- The content of two resources that are one publication. -/
structure Identical (left right : StoredResourceV1 X) : Prop where
  profile : left.profile = right.profile
  mediaType : left.mediaType = right.mediaType
  digest : left.digest = right.digest
  byteLength : left.byteLength = right.byteLength
  objectRef : left.objectRef = right.objectRef
  payload : optionalSame (fun left right => pyEq (.object left) (.object right)) left.payload
    right.payload = true
  payloadSchema : left.payloadSchema = right.payloadSchema
  labels : left.labels = right.labels
  annotations : SameDocument X left.annotations right.annotations
  provenance : SameProvenance left.provenance right.provenance
  supersedes : left.supersedes = right.supersedes
  versionOrder : left.versionOrder = right.versionOrder

/-- What the comparison of a publisher leaves open. -/
def SameDocuments (left right : StoredResourceV1 X) : Prop :=
  left.annotations = right.annotations ∧ left.provenance = right.provenance

theorem Identical.sameDocuments {left right : StoredResourceV1 X} (identical : Identical left right) :
    SameDocuments left right :=
  ⟨(sameDocument_iff left.valid.annotations right.valid.annotations).mp identical.annotations,
    sameProvenance_iff.mp identical.provenance⟩

theorem sameArtifact_iff {left right : StoredResourceV1 X} (documents : SameDocuments left right) :
    sameArtifact left.toStoredResourceFields right.toStoredResourceFields = true ↔
      left.resourceId = right.resourceId ∧ left.profile = right.profile ∧
      left.mediaType = right.mediaType ∧ left.digest = right.digest ∧
      left.byteLength = right.byteLength ∧ left.objectRef = right.objectRef ∧
      left.labels = right.labels ∧ left.supersedes = right.supersedes ∧
      left.versionOrder = right.versionOrder := by
  have labels := left.valid.labels.pyEq_iff right.valid.labels
  have provenance : optionalSame (fun left right => left.pySame right.toProvenanceFields)
      right.provenance right.provenance = true :=
    optionalSame_refl (fun value => value.pySame_refl) _
  unfold sameArtifact
  simp only [Bool.and_eq_true, decide_eq_true_eq, labels, documents.1, documents.2, pyEq_refl,
    provenance, and_assoc, true_and]

/-- Two configurations of one id are identical exactly if the comparison says so and
their documents are the same. -/
theorem identical_iff_configuration {left right : StoredResourceV1 X}
    (named : left.resourceId = right.resourceId) : Identical left right ↔
      sameConfiguration left.toStoredResourceFields right.toStoredResourceFields = true ∧
        SameDocuments left right := by
  unfold sameConfiguration
  constructor
  · intro identical
    have documents := identical.sameDocuments
    refine ⟨?_, documents⟩
    rw [Bool.and_eq_true, Bool.and_eq_true, sameArtifact_iff documents, decide_eq_true_eq]
    exact ⟨⟨⟨named, identical.profile, identical.mediaType, identical.digest, identical.byteLength,
      identical.objectRef, identical.labels, identical.supersedes, identical.versionOrder⟩,
      identical.payload⟩, identical.payloadSchema⟩
  · rintro ⟨same, documents⟩
    rw [Bool.and_eq_true, Bool.and_eq_true, sameArtifact_iff documents, decide_eq_true_eq] at same
    obtain ⟨⟨⟨-, profile, mediaType, digest, byteLength, objectRef, labels, supersedes,
      versionOrder⟩, payload⟩, payloadSchema⟩ := same
    have annotations := sameDocument_iff left.valid.annotations right.valid.annotations
    exact {
      profile, mediaType, digest, byteLength, objectRef, payload, payloadSchema, labels
      annotations := annotations.mpr documents.1, provenance := sameProvenance_iff.mpr documents.2
      supersedes, versionOrder }

/-- Artifacts have no inline payload that could tell them apart. -/
theorem identical_iff_artifact {left right : StoredResourceV1 X} (artifact : left.profile = .artifact)
    (named : left.resourceId = right.resourceId) : Identical left right ↔
      sameArtifact left.toStoredResourceFields right.toStoredResourceFields = true ∧
        SameDocuments left right := by
  have bare : ∀ {resource : StoredResourceV1 X}, resource.profile = .artifact →
      resource.payload = none ∧ resource.payloadSchema = none := by
    intro resource artifact
    have contained := resource.valid.content
    rw [artifact] at contained
    exact ⟨contained.1, contained.2.1⟩
  rw [identical_iff_configuration named]
  refine and_congr_left fun documents => ?_
  unfold sameConfiguration
  rw [Bool.and_eq_true, Bool.and_eq_true, and_assoc]
  refine and_iff_left_of_imp fun same => ?_
  have profile := ((sameArtifact_iff documents).mp same).2.1
  obtain ⟨unpaid, unschemed⟩ := bare artifact
  obtain ⟨unpaid', unschemed'⟩ := bare (profile.symm.trans artifact)
  rw [unpaid, unpaid', unschemed, unschemed']
  exact ⟨rfl, rfl⟩

/-- The stored row comes back exactly if the request is identical to it, an identity
conflict otherwise, and nothing is written. -/
def Retries (s : World) (candidate existing : StoredResourceV1 X)
    (result : Except PyError (PublicationReceipt X)) (t : World) : Prop :=
  Unwritten s t ∧ match result with
  | .ok receipt => receipt.resource = existing ∧ Identical candidate existing
  | .error error => error.hasType .identityConflict = true ∧ ¬Identical candidate existing

/-- What Python calls equal is also the same document, and there is no pointer version
to expect where there is no channel. -/
def Discerns (same : StoredResourceFields X → StoredResourceFields X → Bool)
    (candidate existing : StoredResourceV1 X) (expectedPointerVersion : JsonValue) : Prop :=
  same candidate.toStoredResourceFields existing.toStoredResourceFields = true →
    SameDocuments candidate existing ∧ expectedPointerVersion = .null

section

variable {candidate existing : StoredResourceV1 X} {actor expectedPointerVersion : JsonValue}
  {same : StoredResourceFields X → StoredResourceFields X → Bool} {profile : ResourceProfile}
  {result : Except PyError (PublicationReceipt X)}

/-- A retry, once it has its candidate and the row. -/
theorem retries_iff (identical : Identical candidate existing ↔
      same candidate.toStoredResourceFields existing.toStoredResourceFields = true ∧
        SameDocuments candidate existing)
    (runs : (existingReceipt profile same candidate existing .null expectedPointerVersion
      actor).run.Runs (reliable X) s result t) :
    Retries s candidate existing result t ↔
      Discerns same candidate existing expectedPointerVersion := by
  unfold Retries Discerns
  rcases runs_existingReceipt runs with ⟨different, rfl, rfl⟩ | ⟨matching, promoted, promotes, rfl⟩
  · rw [identical, different]
    constructor
    · intro _ matching
      cases matching
    · intro _
      exact ⟨.refl _, rfl, fun both => Bool.false_ne_true both.1⟩
  · rw [identical, matching]
    unfold promotePublished at promotes
    rw [if_pos rfl] at promotes
    by_cases silent : expectedPointerVersion = .null
    · rw [if_neg (not_not.mpr silent)] at promotes
      obtain ⟨rfl, rfl⟩ := promotes
      exact ⟨fun retried _ => ⟨retried.2.2.2, silent⟩,
        fun discerned => ⟨.refl _, rfl, rfl, (discerned rfl).1⟩⟩
    · rw [if_pos silent] at promotes
      obtain ⟨rfl, rfl⟩ := promotes
      refine ⟨?_, fun discerned => absurd (discerned rfl).2 silent⟩
      rintro ⟨-, conflict, -⟩
      cases conflict

/-- Resources that differ in who created them and when are identical to the same ones. -/
theorem Identical.congr {again : StoredResourceV1 X} {createdBy createdAt : String}
    (built : again.toStoredResourceFields =
      { candidate.toStoredResourceFields with createdBy, createdAt }) :
    Identical again existing ↔ Identical candidate existing := by
  obtain ⟨fields, valid⟩ := again
  subst built
  exact ⟨fun ⟨a, b, c, d, e, f, g, h, i, j, k, l⟩ => ⟨a, b, c, d, e, f, g, h, i, j, k, l⟩,
    fun ⟨a, b, c, d, e, f, g, h, i, j, k, l⟩ => ⟨a, b, c, d, e, f, g, h, i, j, k, l⟩⟩

theorem Retries.since {u : World} (unwritten : Unwritten s u) :
    Retries s candidate existing result t ↔ Retries u candidate existing result t := by
  refine and_congr_left fun _ => ⟨fun since => ?_, unwritten.trans⟩
  exact ⟨since.tables.trans unwritten.tables.symm, since.objects.trans unwritten.objects.symm⟩

theorem Retries.congr {again : StoredResourceV1 X}
    (identical : Identical again existing ↔ Identical candidate existing) :
    Retries s again existing result t ↔ Retries s candidate existing result t := by
  unfold Retries
  cases result <;> simp only [identical]

end

namespace ConfigurationPublisher

variable {request : ConfigurationRequest X} {candidate existing : StoredResourceV1 X}

/-- The candidates of a request differ in who asked for them and in when they were built. -/
theorem IsCandidate.again {actor : JsonValue} {again : StoredResourceV1 X}
    (planned : IsCandidate request candidate) (replanned : IsCandidate { request with actor } again) :
    again.toStoredResourceFields =
      { candidate.toStoredResourceFields with
        createdBy := again.createdBy, createdAt := again.createdAt } := by
  obtain ⟨arguments, _, first, planned, -, created⟩ := planned
  obtain ⟨arguments', _, second, planned', -, created'⟩ := replanned
  obtain ⟨identity, schema, validated, payload, encoded, media, annotations, named, parsed, admitted,
    normal, written, typed, annotated, rfl⟩ := plan_ok planned
  have replan : plan { request with actor } =
      .ok (candidateArguments { request with actor } identity schema media payload annotations encoded) :=
    bind_ok.mpr ⟨_, named, bind_ok.mpr ⟨_, parsed, bind_ok.mpr ⟨_, admitted, bind_ok.mpr ⟨_, normal,
      bind_ok.mpr ⟨_, written, bind_ok.mpr ⟨_, typed, bind_ok.mpr ⟨_, annotated, rfl⟩⟩⟩⟩⟩⟩⟩
  cases replan.symm.trans planned'
  have built := StoredResourceV1.isBuilt_of_create created
  exact built.eq_of_same (StoredResourceV1.isBuilt_of_create created') rfl

theorem runs_retry (consistent : Consistent X s) (stores : Stores s existing)
    (planned : IsCandidate request candidate) (named : candidate.resourceId = existing.resourceId)
    (alone : request.channel = .null) {result : Except PyError (PublicationReceipt X)}
    (runs : (publish request).run.Runs (reliable X) s result t) :
    Retries s candidate existing result t ↔
      Discerns sameConfiguration candidate existing request.expectedPointerVersion := by
  cases runs_publish covered_reliable consistent runs with
  | refused invalid => exact absurd planned.valid invalid
  | @found again other _ _ replanned stores' named' runs =>
    have built := planned.again replanned
    have fields : again.resourceId = candidate.resourceId := by
      unfold StoredResourceFields.resourceId
      rw [built]
    obtain rfl := stores.unique stores' (named'.trans (fields.trans named))
    rw [alone] at runs
    have retried := retries_iff (identical_iff_configuration (fields.trans named)) runs
    rw [Retries.congr (Identical.congr built)] at retried
    rw [retried]
    unfold Discerns SameDocuments
    rw [built]
    rfl
  | committed replanned absent _ =>
    obtain ⟨row, found, -⟩ := stores
    have fields := congrArg StoredResourceFields.resourceId (planned.again replanned)
    rw [fields] at absent
    cases found.symm.trans ((congrArg _ named).symm.trans absent)

end ConfigurationPublisher

namespace ArtifactPublisher

variable {request : ArtifactRequest X} {candidate existing : StoredResourceV1 X}

theorem IsCandidate.again {actor : JsonValue} {again : StoredResourceV1 X}
    (planned : IsCandidate request candidate) (replanned : IsCandidate { request with actor } again) :
    again.toStoredResourceFields =
      { candidate.toStoredResourceFields with
        createdBy := again.createdBy, createdAt := again.createdAt } := by
  obtain ⟨content, arguments, _, first, read, planned, -, created⟩ := planned
  obtain ⟨content', arguments', _, second, read', planned', -, created'⟩ := replanned
  cases read.symm.trans read'
  obtain ⟨annotations, annotated, same⟩ := bind_ok.mp planned
  cases same
  have replan : plan { request with actor } content =
      .ok (candidateArguments { request with actor } content (objectRefOf X content) annotations) :=
    bind_ok.mpr ⟨_, annotated, rfl⟩
  cases replan.symm.trans planned'
  have built := StoredResourceV1.isBuilt_of_create created
  exact built.eq_of_same (StoredResourceV1.isBuilt_of_create created') rfl

/-- Over a row of other content a publisher does not come to compare the rest. -/
theorem retries_differs (planned : IsCandidate request candidate) {content : Content}
    (read : contentOf request = .ok content) (differs : Differs existing content) {error : PyError}
    (conflict : error.hasType .identityConflict = true) :
    Retries s candidate existing (.error error) s ∧
      Discerns sameArtifact candidate existing request.expectedPointerVersion := by
  obtain ⟨-, profile, -, content', read', -, digest, byteLength, mediaType, -⟩ := planned.built
  cases read.symm.trans read'
  have apart : ¬(candidate.profile = existing.profile ∧ candidate.mediaType = existing.mediaType ∧
      candidate.digest = existing.digest ∧ candidate.byteLength = existing.byteLength) := by
    rintro ⟨same, typed, hashed, measured⟩
    rcases differs with wrong | wrong | wrong | wrong
    · exact wrong (same.symm.trans profile)
    · exact wrong (hashed.symm.trans digest)
    · exact wrong (measured.symm.trans byteLength)
    · exact wrong (typed.symm.trans mediaType)
  refine ⟨⟨.refl s, conflict, fun identical => apart ?_⟩, fun matching => absurd ?_ apart⟩
  · exact ⟨identical.profile, identical.mediaType, identical.digest, identical.byteLength⟩
  · simp only [sameArtifact, Bool.and_eq_true, decide_eq_true_eq] at matching
    obtain ⟨⟨⟨⟨⟨⟨⟨⟨⟨⟨-, profile⟩, mediaType⟩, digest⟩, byteLength⟩, -⟩, -⟩, -⟩, -⟩, -⟩, -⟩ := matching
    exact ⟨profile, mediaType, digest, byteLength⟩

theorem runs_retry (consistent : Consistent X s) (stores : Stores s existing)
    (planned : IsCandidate request candidate) (named : candidate.resourceId = existing.resourceId)
    (alone : request.channel = .null) {result : Except PyError (PublicationReceipt X)}
    (runs : (publish request).run.Runs (reliable X) s result t) :
    Retries s candidate existing result t ↔
      Discerns sameArtifact candidate existing request.expectedPointerVersion := by
  have covered := @covered_reliable X
  obtain ⟨-, profile, -, content, read, identity, -⟩ := planned.built
  have identified : candidate.resourceId = content.identity.resourceId X := by
    rw [← identity]
    rfl
  rcases runs_publish covered consistent runs with ⟨unread, -⟩ |
    ⟨content', payload, u, read', unwritten, kept, -, publishes⟩
  · exact absurd read (unread content)
  cases read.symm.trans read'
  have stores := unwritten.stores.mpr stores
  rw [Retries.since unwritten]
  -- The retry finds the row, so it never comes to the Object.
  have missing : u.row? .metadata (content.identity.resourceId X) ≠ none := by
    obtain ⟨row, found, -⟩ := stores
    rw [← identified, named, found]
    simp
  cases publishes with
  | @found other _ _ stores' named' runs =>
    obtain rfl := stores.unique stores' (named'.trans (identified.symm.trans named))
    rcases runs_publishExisting covered kept read stores' named' runs with
      ⟨differs, rfl, error, rfl, conflict⟩ | ⟨-, ⟨-, error, -, refuses⟩ | ⟨again, replanned, receipt⟩⟩
    · obtain ⟨retried, discerned⟩ := retries_differs planned read differs conflict
      exact ⟨fun _ => discerned, fun _ => retried⟩
    · exact absurd planned (refuses.not_candidate read)
    · have built := planned.again replanned
      have fields : again.resourceId = candidate.resourceId := by
        unfold StoredResourceFields.resourceId
        rw [built]
      obtain ⟨-, artifact, -⟩ := replanned.built
      rw [alone] at receipt
      have retried := retries_iff (identical_iff_artifact artifact (fields.trans named)) receipt
      rw [Retries.congr (Identical.congr built)] at retried
      rw [retried]
      unfold Discerns SameDocuments
      rw [built]
      rfl
  | stopped absent => exact absurd absent missing
  | refused absent => exact absurd absent missing
  | committed absent => exact absurd absent missing

end ArtifactPublisher

/-- A retry for the identity of a stored row brings the row back for identical content
only, and an identity conflict otherwise, exactly if the content is discerned. -/
theorem publish_retries (consistent : Consistent X s) {existing : StoredResourceV1 X}
    (stores : Stores s existing) :
    (∀ (request : ConfigurationRequest X) (candidate : StoredResourceV1 X),
      ConfigurationPublisher.IsCandidate request candidate →
      candidate.resourceId = existing.resourceId → request.channel = .null →
      ((∀ result t, (ConfigurationPublisher.publish request).run.Runs (reliable X) s result t →
          Retries s candidate existing result t) ↔
        Discerns sameConfiguration candidate existing request.expectedPointerVersion)) ∧
    ∀ (request : ArtifactRequest X) (candidate : StoredResourceV1 X),
      ArtifactPublisher.IsCandidate request candidate →
      candidate.resourceId = existing.resourceId → request.channel = .null →
      ((∀ result t, (ArtifactPublisher.publish request).run.Runs (reliable X) s result t →
          Retries s candidate existing result t) ↔
        Discerns sameArtifact candidate existing request.expectedPointerVersion) := by
  constructor
  · intro request candidate planned named alone
    have uses := (@uses_publishConfiguration X (fun _ => True) (fun _ => True) request).mono
      fun _ issued => issued.answerable
    have runs := (Program.runs_execute answer_any uses (s := s) trivial).1
    exact ⟨fun retries => (ConfigurationPublisher.runs_retry consistent stores planned named alone
      runs).mp (retries _ _ runs), fun discerns result t runs =>
        (ConfigurationPublisher.runs_retry consistent stores planned named alone runs).mpr discerns⟩
  · intro request candidate planned named alone
    have registers : request.payload.Registers fun _ => True := by
      cases request.payload <;> trivial
    have uses := (@uses_publishArtifact X (fun _ => True) request registers).mono
      fun _ issued => issued.answerable
    have runs := (Program.runs_execute answer_any uses (s := s) trivial).1
    exact ⟨fun retries => (ArtifactPublisher.runs_retry consistent stores planned named alone
      runs).mp (retries _ _ runs), fun discerns result t runs =>
        (ArtifactPublisher.runs_retry consistent stores planned named alone runs).mpr discerns⟩

namespace Reference

/-- A configuration with one annotation. -/
def retaining (value : JsonValue) : ConfigurationRequest documented where
  «namespace» := .str "team"
  kind := .str "feature"
  name := .str "flags"
  version := .str "1"
  payload := .object []
  schema := .value (.str "team.flags@1")
  actor := .str "alice"
  annotations := .object [("retain", value)]

/-- What publishing it stores. -/
def retained (value : JsonValue) (normal : canonicalMapping documented
    (.object [("retain", value)]) "annotations" (some 64) (some 262144) = .ok [("retain", value)]) :
    StoredResourceV1 documented where
  identity := identity
  profile := .configuration
  state := .published
  mediaType := "application/json"
  digest := resource.digest
  byteLength := 2
  createdBy := "alice"
  createdAt := "2026-01-01T00:00:00.000000Z"
  objectRef := none
  payload := some []
  payloadSchema := some schema
  labels := []
  annotations := [("retain", value)]
  provenance := none
  supersedes := none
  immutable := true
  versionOrder := none
  recordVersion := some (.number 1)
  valid := {
    mediaType := resource.valid.mediaType
    digest := resource.valid.digest
    createdBy := resource.valid.createdBy
    createdAt := resource.valid.createdAt
    labels := resource.valid.labels
    annotations := normal
    supersedes := resource.valid.supersedes
    immutable_iff := resource.valid.immutable_iff
    content := ⟨rfl, rfl, [], emptyObject, rfl, by decide +kernel, by decide +kernel,
      show documented.digestOf emptyObject = resource.digest by decide +kernel, rfl⟩ }

/-- The annotation is a number in the stored row. -/
def numbered : StoredResourceV1 documented := retained (.int 1) (by decide +kernel)

/-- The annotation is a boolean in the request. -/
def flagged : StoredResourceV1 documented :=
  (retained (.bool true) (by decide +kernel)).withVersion none

theorem plan_retaining : ConfigurationPublisher.plan (retaining (.bool true)) =
    .ok (ConfigurationPublisher.candidateArguments (retaining (.bool true)) identity schema
      "application/json" [] [("retain", .bool true)] emptyObject) := by
  refine bind_ok.mpr ⟨identity, by decide +kernel, bind_ok.mpr ⟨schema, by decide +kernel, ?_⟩⟩
  refine bind_ok.mpr ⟨.object [], rfl, bind_ok.mpr ⟨[], by decide +kernel, ?_⟩⟩
  refine bind_ok.mpr ⟨emptyObject, by decide +kernel, ?_⟩
  exact bind_ok.mpr ⟨_, by decide +kernel, bind_ok.mpr ⟨_, by decide +kernel, rfl⟩⟩

theorem isCandidate_flagged :
    ConfigurationPublisher.IsCandidate (retaining (.bool true)) flagged :=
  ⟨_, referenceTime, "2026-01-01T00:00:00.000000Z", plan_retaining, by decide +kernel,
    StoredResourceV1.create_iff.mpr (by decide +kernel)⟩

def holdingNumbered : World := World.empty.publish numbered (.number 1) (.number 1)

end Reference

/-- A retry with the same arguments brings the row back. -/
theorem publish_retries_configuration : ∃ result t,
    (ConfigurationPublisher.publish Reference.configuration).run.Runs
      (reliable Platform.reference) (Reference.holding Reference.resource) result t ∧
    Retries (Reference.holding Reference.resource) (Reference.resource.withVersion none)
      Reference.resource result t := by
  have uses := (@uses_publishConfiguration _ (fun _ => True) (fun _ => True) Reference.configuration).mono
    fun _ issued => issued.answerable
  have runs := (Program.runs_execute answer_any uses
    (s := Reference.holding Reference.resource) trivial).1
  have discerns : Discerns sameConfiguration (Reference.resource.withVersion none)
      Reference.resource Reference.configuration.expectedPointerVersion :=
    fun _ => ⟨⟨rfl, rfl⟩, rfl⟩
  have retries := ((publish_retries Reference.consistent_holding (Reference.stores_holding rfl)).1
    Reference.configuration _ Reference.isCandidate_configuration rfl rfl).mpr discerns
  exact ⟨_, _, runs, retries _ _ runs⟩

/-- A retry that annotates with a boolean what is stored with a number brings the row
back, although the two are different documents. -/
theorem retried_as_another_document : ∃ receipt t,
    (ConfigurationPublisher.publish (Reference.retaining (.bool true))).run.Runs
      (reliable Reference.documented) Reference.holdingNumbered (.ok receipt) t ∧
    receipt.resource = Reference.numbered ∧
    ConfigurationPublisher.IsCandidate (Reference.retaining (.bool true)) Reference.flagged ∧
    ¬Identical Reference.flagged Reference.numbered := by
  have uses := (@uses_publishConfiguration _ (fun _ => True) (fun _ => True)
    (Reference.retaining (.bool true))).mono fun _ issued => issued.answerable
  have runs := (Program.runs_execute answer_any uses (s := Reference.holdingNumbered) trivial).1
  have returned : (Program.execute (answer Reference.documented Delivery.any)
      (ConfigurationPublisher.publish (Reference.retaining (.bool true))).run
      Reference.holdingNumbered).1.toOption.map (·.resource) = some Reference.numbered := by
    decide +kernel
  revert runs returned
  generalize (Program.execute _ _ Reference.holdingNumbered).1 = result
  intro runs returned
  cases result with
  | error error => cases returned
  | ok receipt =>
    refine ⟨receipt, _, runs, Option.some.inj returned, Reference.isCandidate_flagged, ?_⟩
    exact fun identical => absurd identical.sameDocuments.1 (by decide +kernel)

end ConfigArtifact
