import ConfigArtifact.Canonical.Equality
import ConfigArtifact.Guarantees.Idempotence

/-! The content of a configuration is the JSON value of its payload.

The publisher validates a payload, normalizes it and hashes it. The constructor of
the row normalizes and hashes it again, and so does whoever reads the row back.
-/

set_option autoImplicit false

namespace ConfigArtifact

open Interaction Fallible MetadataRepository
open StoredResourceFields (sameConfiguration)

variable {X : Platform}

/-- The validator accepts a payload with every equal one, and makes equal values of them. -/
def RespectsJson (X : Platform) : Prop :=
  ∀ (schema : PayloadSchemaRef) {payload other validated : JsonValue}, SameJson payload other →
    X.validate payload schema.namespace schema.name schema.version = .ok validated →
    ∃ again, X.validate other schema.namespace schema.name schema.version = .ok again ∧
      SameJson validated again

/-- The digest and the length are those of the canonical bytes of the entries. -/
def Identifies (X : Platform) (entries : Mapping) (digest : String) (byteLength : Nat) : Prop :=
  ∃ encoded, X.canonicalJsonBytes (.object entries) = .ok encoded ∧ X.digestOf encoded = digest ∧
    encoded.length = byteLength

theorem withinBytes_named {entries : Mapping} {fieldName : String} {maximumBytes : Option Nat}
    {result : Unit} (short : withinBytes X entries fieldName maximumBytes = .ok result)
    (other : String) : withinBytes X entries other maximumBytes = .ok () := by
  cases maximumBytes with
  | none => rfl
  | some maximum =>
    obtain ⟨encoded, written, short⟩ := bind_ok.mp short
    exact bind_ok.mpr ⟨encoded, written, raiseIf_ok.mpr (raiseIf_ok.mp short)⟩

/-- The name of a field is only in its errors. -/
theorem canonicalMapping_named {value : JsonValue} {fieldName : String}
    {maximumEntries maximumBytes : Option Nat} {mapping : Mapping}
    (accepted : canonicalMapping X value fieldName maximumEntries maximumBytes = .ok mapping)
    (other : String) : canonicalMapping X value other maximumEntries maximumBytes = .ok mapping := by
  unfold canonicalMapping at accepted ⊢
  split at accepted
  · cases accepted
  · obtain ⟨_, few, accepted⟩ := bind_ok.mp accepted
    obtain ⟨normalized, normal, accepted⟩ := bind_ok.mp accepted
    refine bind_ok.mpr ⟨(), raiseIf_ok.mpr (raiseIf_ok.mp few), bind_ok.mpr ⟨_, normal, ?_⟩⟩
    cases normalized with
    | object entries =>
      obtain ⟨_, short, same⟩ := bind_ok.mp accepted
      exact bind_ok.mpr ⟨(), withinBytes_named short other, same⟩
    | _ => cases accepted

/-- Where a step returns, what is raised comes after it. -/
theorem next_error {A B : Type} {result : Except PyError A} {next : A → Except PyError B} {value : A}
    {error : PyError} (raised : result >>= next = .error error) (returned : result = .ok value) :
    next value = .error error := by
  rw [returned] at raised
  exact raised

theorem boundedString_raises {value : JsonValue} {fieldName : String} {maximum : Nat}
    {error : PyError} (raised : boundedString value fieldName maximum = .error error) :
    error = .valueError (fieldName ++ " must be a bounded non-empty printable string") := by
  unfold boundedString at raised
  split at raised
  · split at raised <;> cases raised
    rfl
  · cases raised
    rfl

theorem stringEntries_raises {fieldName : String} {entries : Mapping} {error : PyError}
    (raised : stringEntries fieldName entries = .error error) :
    error = .valueError (fieldName ++ " key" ++ " must be a bounded non-empty printable string") ∨
      error =
        .valueError (fieldName ++ " value" ++ " must be a bounded non-empty printable string") := by
  induction entries with
  | nil => cases raised
  | cons entry rest ih =>
    rcases bind_error.mp raised with unnamed | ⟨key, -, raised⟩
    · exact .inl (boundedString_raises unnamed)
    · rcases bind_error.mp raised with unvalued | ⟨item, -, raised⟩
      · exact .inr (boundedString_raises unvalued)
      · rcases bind_error.mp raised with later | ⟨others, -, same⟩
        · exact ih later
        · cases same

theorem entryOf_set (value : Mapping) (key other : String) (item : JsonValue) :
    entryOf (value.set key item) other = if other = key then item else entryOf value other := by
  unfold entryOf
  split
  · next same =>
    subst same
    simp [lookup_set]
  · next different => simp [lookup_set, different]

theorem keys_set {value : Mapping} {key : String} (present : key ∈ value.keys) (item : JsonValue) :
    Mapping.keys (value.set key item) = value.keys := by
  induction value with
  | nil => cases present
  | cons entry rest ih =>
    change Mapping.keys (if _ then _ else _) = _
    split
    · next same => simp [Mapping.keys, same]
    · next different =>
      have later : key ∈ Mapping.keys rest := by
        rcases List.mem_cons.mp present with same | later
        · exact absurd same.symm different
        · exact later
      exact congrArg (entry.1 :: ·) (ih later)

namespace StoredResourceV1

theorem postInit_payload {arguments : StoredResourceArguments X} {document : JsonValue}
    (same : SameJson arguments.payload document) :
    postInit X { arguments with payload := document } = postInit X arguments := by
  have contained : ∀ digest length, content X { arguments with payload := document } digest length =
      content X arguments digest length := by
    intro digest length
    unfold content configurationContent artifactContent
    dsimp only
    simp only [same.canonicalMapping, same.eq_null, ne_eq]
  unfold postInit
  simp only [contained]

theorem decode_payload {value : Mapping} {document : JsonValue}
    (same : SameJson (entryOf value "payload") document) {arguments : StoredResourceArguments X}
    (decoded : decode X value = .ok arguments) : arguments.payload = entryOf value "payload" ∧
      decode X (value.set "payload" document) = .ok { arguments with payload := document } := by
  obtain ⟨_, complete, decoded⟩ := bind_ok.mp decoded
  obtain ⟨_, mapped, decoded⟩ := bind_ok.mp decoded
  obtain ⟨_, schemed, decoded⟩ := bind_ok.mp decoded
  obtain ⟨_, referenced, decoded⟩ := bind_ok.mp decoded
  obtain ⟨_, proved, decoded⟩ := bind_ok.mp decoded
  obtain ⟨_, labelled, decoded⟩ := bind_ok.mp decoded
  obtain ⟨profile, profiled, decoded⟩ := bind_ok.mp decoded
  obtain ⟨state, stated, decoded⟩ := bind_ok.mp decoded
  obtain ⟨reference, objectRef, decoded⟩ := bind_ok.mp decoded
  obtain ⟨schema, payloadSchema, decoded⟩ := bind_ok.mp decoded
  obtain ⟨provenance, given, decoded⟩ := bind_ok.mp decoded
  cases decoded
  refine ⟨rfl, ?_⟩
  rw [requireRecordFields_ok] at complete
  have keys := keys_set (complete.1 "payload" (by simp [recordFields])) document
  unfold decode
  simp only [entryOf_set, String.reduceEq, if_false, if_true]
  refine bind_ok.mpr ⟨(), requireRecordFields_ok.mpr (keys ▸ complete), ?_⟩
  refine bind_ok.mpr ⟨(), raiseIf_ok.mpr ?_, ?_⟩
  · rw [← same.mappingSize?, ne_eq, ← same.eq_null]
    exact raiseIf_ok.mp mapped
  exact bind_ok.mpr ⟨_, schemed, bind_ok.mpr ⟨_, referenced, bind_ok.mpr ⟨_, proved,
    bind_ok.mpr ⟨_, labelled, bind_ok.mpr ⟨_, profiled, bind_ok.mpr ⟨_, stated,
      bind_ok.mpr ⟨_, objectRef, bind_ok.mpr ⟨_, payloadSchema, bind_ok.mpr ⟨_, given, rfl⟩⟩⟩⟩⟩⟩⟩⟩⟩

/-- A row is read back as the resource it was, also with an equal document in it. -/
theorem fromRecord_reordered {resource : StoredResourceV1 X} {payload : Mapping}
    (inline : resource.payload = some payload) {document : JsonValue}
    (same : SameJson (.object payload) document) (version : Option RecordVersion) :
    fromRecord X (Mapping.set (resource.toRecord ++ versionEntry version) "payload" document) =
      .ok (resource.withVersion version) := by
  have held : entryOf (resource.toRecord ++ versionEntry version) "payload" = .object payload := by
    change optionalJson (fun payload => .object (thawEntries payload)) resource.payload = _
    rw [inline, optionalJson, thawEntries_eq]
  rw [← held] at same
  obtain ⟨given, decoded⟩ := decode_payload same (decode_toRecord resource version)
  refine bind_ok.mpr ⟨_, decoded, create_iff.mpr ?_⟩
  rw [postInit_payload (given ▸ same)]
  exact create_iff.mp (create_self _)

end StoredResourceV1

namespace ConfigurationPublisher

variable {request : ConfigurationRequest X} {payload : JsonValue}
  {arguments : String → StoredResourceArguments X}

theorem plan_congr (respects : RespectsJson X) (same : SameJson request.payload payload)
    (planned : plan request = .ok arguments) :
    plan { request with payload := payload } = .ok arguments := by
  obtain ⟨identity, schema, validated, entries, encoded, media, annotations, named, parsed, admitted,
    normal, written, typed, annotated, rfl⟩ := plan_ok planned
  obtain ⟨again, admitted, equal⟩ := respects schema same admitted
  rw [equal.canonicalMapping] at normal
  exact bind_ok.mpr ⟨_, named, bind_ok.mpr ⟨_, parsed, bind_ok.mpr ⟨_, admitted,
    bind_ok.mpr ⟨_, normal, bind_ok.mpr ⟨_, written, bind_ok.mpr ⟨_, typed,
      bind_ok.mpr ⟨_, annotated, rfl⟩⟩⟩⟩⟩⟩⟩

theorem plan_iff (respects : RespectsJson X) (same : SameJson request.payload payload) :
    plan { request with payload := payload } = .ok arguments ↔ plan request = .ok arguments := by
  constructor
  · intro planned
    exact @plan_congr X { request with payload := payload } _ _ respects same.symm planned
  · exact plan_congr respects same

/-- Equal payloads have the same candidates. -/
theorem isCandidate_congr (respects : RespectsJson X) (same : SameJson request.payload payload)
    {candidate : StoredResourceV1 X} :
    IsCandidate { request with payload := payload } candidate ↔ IsCandidate request candidate := by
  unfold IsCandidate
  simp only [plan_iff respects same]

/-- An argument of the request, other than its payload, that the constructor refuses. -/
def RefusesArgument (request : ConfigurationRequest X) (error : PyError) : Prop :=
  boundedString request.actor "actor" 512 = .error error ∨
    stringMapping (orEmpty request.labels) "labels" = .error error ∨
    optionalString request.supersedes "supersedes" 256 = .error error ∨
    versionOrder request.versionOrder = .error error

/-- The constructor normalizes and hashes the payload as the publisher did. -/
theorem content_candidateArguments {identity : ResourceIdentity} {schema : PayloadSchemaRef}
    {media : String} {validated : JsonValue} {entries annotations : Mapping} {encoded : Bytes}
    (normal : canonicalMapping X validated "payload" none none = .ok entries)
    (written : X.canonicalJsonBytes (.object (thawEntries entries)) = .ok encoded)
    (createdAt : String) :
    StoredResourceV1.content X
      (candidateArguments request identity schema media entries annotations encoded createdAt)
      (X.digestOf encoded) encoded.length = .ok ⟨none, some entries, some schema⟩ := by
  refine bind_ok.mpr ⟨(), raiseIf_ok.mpr (by simp [candidateArguments]), ?_⟩
  refine bind_ok.mpr ⟨entries, canonicalMapping_named (canonicalMapping_idempotent normal) _, ?_⟩
  refine bind_ok.mpr ⟨schema, rfl, bind_ok.mpr ⟨encoded, written, ?_⟩⟩
  exact bind_ok.mpr ⟨(), raiseIf_ok.mpr (by simp), rfl⟩

/-- Only an argument that is no part of the payload makes the constructor reject a candidate. -/
theorem refuses_of_create (planned : plan request = .ok arguments) {time : DateTime}
    {createdAt : String} (timed : utcTimestampOfDatetime time = .ok createdAt) {error : PyError}
    (raised : StoredResourceV1.create X (arguments createdAt) = .error error) :
    RefusesArgument request error := by
  obtain ⟨identity, schema, validated, entries, encoded, media, annotations, -, -, -, normal,
    written, typed, annotated, rfl⟩ := plan_ok planned
  have typed : mediaType (.str media) = .ok media := (mediaType_ok typed).1 ▸ typed
  have digested : digest (.str (X.digestOf encoded)) = .ok (X.digestOf encoded) := by
    simp [digest, X.isDigest_digestOf]
  have annotated := canonicalMapping_idempotent annotated
  have raised := StoredResourceV1.create_error.mp raised
  have raised := next_error raised identity.create_self
  have raised := next_error raised (@raiseIf_ok _ _ _ ()|>.mpr (by simp [candidateArguments]))
  have raised := next_error raised typed
  have raised := next_error raised digested
  have raised := next_error raised (byteLength_natJson _ _)
  rcases bind_error.mp raised with unnamed | ⟨createdBy, -, raised⟩
  · exact .inl unnamed
  have raised := next_error raised (utcTimestampOfDatetime_ok timed)
  rcases bind_error.mp raised with unlabelled | ⟨labels, -, raised⟩
  · exact .inr (.inl unlabelled)
  have raised := next_error raised annotated
  rcases bind_error.mp raised with unbounded | ⟨supersedes, -, raised⟩
  · exact .inr (.inr (.inl unbounded))
  have raised := next_error raised (StoredResourceV1.immutability_self
    (by simp [candidateArguments]))
  rcases bind_error.mp raised with unordered | ⟨order, -, raised⟩
  · exact .inr (.inr (.inr unordered))
  have raised := next_error raised (rfl : recordVersion .null = .ok none)
  have raised := next_error raised (content_candidateArguments normal written createdAt)
  cases next_error raised (requireFormat_self _ _)

/-- The constructor's complaint about a payload that its row does not describe. -/
def contentMismatch : PyError :=
  .valueError "configuration digest or byte length does not match payload"

theorem RefusesArgument.ne_contentMismatch {error : PyError}
    (refuses : RefusesArgument request error) : error ≠ contentMismatch := by
  rcases refuses with acted | labelled | superseded | ordered
  · rw [boundedString_raises acted]
    decide +kernel
  · unfold stringMapping at labelled
    split at labelled
    · split at labelled
      · cases labelled
        decide +kernel
      · rcases stringEntries_raises (map_error.mp labelled) with rfl | rfl <;> decide +kernel
    · split at labelled <;> cases labelled <;> decide +kernel
    · cases labelled
      decide +kernel
  · unfold optionalString at superseded
    split at superseded
    · cases superseded
    · rw [boundedString_raises (map_error.mp superseded)]
      decide +kernel
  · unfold versionOrder at ordered
    split at ordered
    · cases ordered
    · split at ordered <;> cases ordered
      decide +kernel
    · cases ordered
      decide +kernel

/-- The validator accepts the payload of the request for its Schema. -/
def Validates (request : ConfigurationRequest X) : Prop :=
  ∀ schema, PayloadSchemaRef.parse request.schema = .ok schema → ∃ validated,
    X.validate request.payload schema.namespace schema.name schema.version = .ok validated

theorem runs_candidate_congr (respects : RespectsJson X) (same : SameJson request.payload payload)
    (accepted : Validates request) {s t : World} {result : Except PyError (StoredResourceV1 X)}
    (runs : (candidate request).run.Runs (reliable X) s result t) :
    (candidate { request with payload := payload }).run.Runs (reliable X) s result t := by
  unfold candidate at runs ⊢
  dsimp only
  rw [run_settle_bind] at runs ⊢
  cases named : ResourceIdentity.create request.namespace request.kind request.name
      request.version with
  | error error =>
    rw [named] at runs
    exact runs
  | ok identity =>
    rw [named, andThen_ok, run_settle_bind] at runs
    rw [andThen_ok, run_settle_bind]
    cases parsed : PayloadSchemaRef.parse request.schema with
    | error error =>
      rw [parsed] at runs
      exact runs
    | ok schema =>
      rw [parsed, andThen_ok] at runs
      rw [andThen_ok]
      obtain ⟨validated, admitted⟩ := accepted schema parsed
      obtain ⟨again, admitted', equal⟩ := respects schema same admitted
      obtain ⟨first, u, ⟨reply, _, ⟨rfl, rfl⟩, rfl, rfl⟩, runs⟩ := runs_then runs
      rw [admitted, andThen_ok, equal.canonicalMapping] at runs
      rw [run_bind]
      refine (Program.runs_bind _ _ _ _ _ _).mpr ⟨.ok again, _, ⟨_, _, ⟨rfl, admitted'.symm⟩, rfl, rfl⟩, ?_⟩
      exact runs

theorem validates_congr (respects : RespectsJson X) (same : SameJson request.payload payload)
    (accepted : Validates request) : Validates { request with payload := payload } := by
  intro schema parsed
  obtain ⟨validated, admitted⟩ := accepted schema parsed
  obtain ⟨again, admitted, -⟩ := respects schema same admitted
  exact ⟨again, admitted⟩

/-- Publishing an equal payload is publishing the payload. -/
theorem runs_publish_congr (respects : RespectsJson X) (same : SameJson request.payload payload)
    (accepted : Validates request) {s t : World} {result : Except PyError (PublicationReceipt X)}
    (runs : (publish request).run.Runs (reliable X) s result t) :
    (publish { request with payload := payload }).run.Runs (reliable X) s result t := by
  unfold publish at runs ⊢
  obtain ⟨first, u, builds, runs⟩ := runs_then runs
  rw [run_bind]
  exact (Program.runs_bind _ _ _ _ _ _).mpr
    ⟨first, u, runs_candidate_congr respects same accepted builds, runs⟩

/-- A row that the publisher takes for what the request asks to publish. -/
def Accepts (request : ConfigurationRequest X) (existing : StoredResourceV1 X) : Prop :=
  ∃ candidate, IsCandidate request candidate ∧ existing.resourceId = candidate.resourceId ∧
    sameConfiguration candidate.toStoredResourceFields existing.toStoredResourceFields = true

theorem Accepts.later {existing later : StoredResourceV1 X} (accepts : Accepts request existing)
    (same : SameRecord existing later) : Accepts request later := by
  obtain ⟨candidate, planned, named, matching⟩ := accepts
  refine ⟨candidate, planned, same.resourceId.trans named, ?_⟩
  unfold SameRecord at same
  rw [same]
  exact matching

/-- Promoting a row leaves it stored. -/
theorem promotes_live {s t : World} (consistent : Consistent X s)
    {resource : StoredResourceV1 X} (live : Live s resource)
    {promoted : Except PyError (Option ResourceChannelV1)}
    (runs : (promotePublished .configuration resource request.channel
      request.expectedPointerVersion request.actor).run.Runs (reliable X) s promoted t) :
    Consistent X t ∧ Live t resource := by
  have kept : (following (Policy.unrestricted X) s).invariant s := ⟨consistent, .refl⟩
  have safe : (promotePublished .configuration resource request.channel
      request.expectedPointerVersion request.actor : PyM X _).run.Safe
      (following (Policy.unrestricted X) s) (serving X False) (fun _ _ _ => True) [] s := by
    rw [← Program.bind_done (promotePublished .configuration resource request.channel
      request.expectedPointerVersion request.actor : PyM X _).run]
    exact safe_promotePublished kept live (fun _ _ _ _ => trivial) fun _ _ _ _ _ _ _ _ => trivial
  have moved : Changes (Policy.unrestricted X) s t :=
    ((safe.narrow fun request before reply after answered =>
      serving_of_reliable request before reply after answered).runs kept
        (fun _ _ moved => moved) runs).2.1
  exact ⟨moved.consistent consistent, moved.evolves.live live⟩

/-- What a publication returns stays the row of its identity, and one it accepts. -/
theorem accepts_of_publish {s t : World} (consistent : Consistent X s)
    {receipt : PublicationReceipt X}
    (runs : (publish request).run.Runs (reliable X) s (.ok receipt) t) :
    Accepts request receipt.resource ∧ Consistent X t ∧ Live t receipt.resource := by
  generalize returned : (Except.ok receipt : Except PyError _) = result at runs
  cases runs_publish covered_reliable consistent runs with
  | refused invalid => cases returned
  | @found candidate existing _ _ planned stores named runs =>
    rcases runs_existingReceipt runs with ⟨-, -, rfl⟩ | ⟨matching, promoted, promotes, rfl⟩
    · cases returned
    · have live := promotes_live consistent stores.live promotes
      cases promoted with
      | error error => cases returned
      | ok pointer =>
        cases returned
        exact ⟨⟨candidate, planned, named, matching⟩, live⟩
  | @committed candidate version stamp promoted _ planned absent promotes =>
    obtain ⟨published, profile, -⟩ := planned.built
    have later := consistent.publish absent published
      (fun artifact => by cases profile.symm.trans artifact) version stamp
    have live := promotes_live later (stores_publish candidate version stamp).live promotes
    cases promoted with
    | error error => cases returned
    | ok pointer =>
      cases returned
      exact ⟨⟨candidate, planned, rfl, sameConfiguration_ignoresVersion candidate _⟩, live⟩

/-- The row that is there comes back, and only the channel is looked after. -/
def Retried (request : ConfigurationRequest X) (existing : StoredResourceV1 X) (s : World)
    (result : Except PyError (PublicationReceipt X)) (t : World) : Prop :=
  ∃ promoted, (promotePublished .configuration existing request.channel
      request.expectedPointerVersion request.actor).run.Runs (reliable X) s promoted t ∧
    result = promoted >>= fun promoted => .ok {
      resource := existing, idempotent := true, objectCommitted := false
      metadataCommitted := true, channel := promoted }

theorem retried_of_accepts {s t : World} (consistent : Consistent X s)
    {existing : StoredResourceV1 X} (stores : Stores s existing) (accepts : Accepts request existing)
    {result : Except PyError (PublicationReceipt X)}
    (runs : (publish request).run.Runs (reliable X) s result t) :
    Retried request existing s result t := by
  obtain ⟨candidate, planned, named, matching⟩ := accepts
  cases runs_publish covered_reliable consistent runs with
  | refused invalid => exact absurd planned.valid invalid
  | @found again other _ _ replanned stores' named' runs =>
    have built := planned.again replanned
    have fields : again.resourceId = candidate.resourceId :=
      (congrArg StoredResourceFields.resourceId built).trans rfl
    obtain rfl := stores.unique stores' (named'.trans (fields.trans named.symm))
    rcases runs_existingReceipt runs with ⟨different, -, -⟩ | ⟨-, promoted, promotes, rfl⟩
    · rw [built] at different
      cases matching.symm.trans different
    · exact ⟨promoted, promotes, rfl⟩
  | committed replanned absent _ =>
    obtain ⟨row, found, -⟩ := stores
    have fields := congrArg StoredResourceFields.resourceId (planned.again replanned)
    rw [fields] at absent
    cases found.symm.trans ((congrArg _ named).trans absent)

theorem Retried.unpromoted {s t : World} {existing : StoredResourceV1 X}
    {result : Except PyError (PublicationReceipt X)} (retried : Retried request existing s result t)
    (alone : Unpromoted request.channel request.expectedPointerVersion) : t = s ∧ result = .ok {
      resource := existing, idempotent := true, objectCommitted := false, metadataCommitted := true
      channel := none } := by
  obtain ⟨promoted, promotes, rfl⟩ := retried
  rcases runs_promotePublished promotes with ⟨-, rfl, rfl⟩ | ⟨unsound, -⟩ | ⟨promoting, -⟩
  · exact ⟨rfl, rfl⟩
  · exact absurd (.inl alone) unsound
  · exact absurd alone promoting

/-- What a configuration and another one, with an equal payload, have in common. -/
structure OneContent (request again : ConfigurationRequest X) : Prop where
  /-- Both publications come to the same digest, length and payload. -/
  planned : ∀ arguments, plan again = .ok arguments ↔ plan request = .ok arguments
  candidates : ∀ candidate other, IsCandidate request candidate → IsCandidate again other →
    other.digest = candidate.digest ∧ other.byteLength = candidate.byteLength ∧
      other.payload = candidate.payload
  /-- The constructor does not reject a candidate for its digest or length. -/
  constructed : ∀ arguments time createdAt error, plan again = .ok arguments →
    utcTimestampOfDatetime time = .ok createdAt →
    StoredResourceV1.create X (arguments createdAt) = .error error → error ≠ contentMismatch
  /-- The row is read back as what was published, in whatever order its payload comes, and
  its digest and length are those of its payload. -/
  readBack : ∀ candidate, IsCandidate again candidate → ∃ payload,
    candidate.payload = some payload ∧
    Identifies X payload candidate.digest candidate.byteLength ∧
    ∀ document version, SameJson (.object payload) document →
      StoredResourceV1.fromRecord X (Mapping.set (candidate.toRecord ++ versionEntry version)
        "payload" document) = .ok (candidate.withVersion version)
  /-- What a consumer gets hashes to the digest. -/
  payload : ∀ existing, Accepts again existing → ∃ entries,
    ConfigurationConsumer.payload existing = .ok entries ∧
    Identifies X entries existing.digest existing.byteLength
  /-- Publishing the other payload is publishing the payload once more. -/
  alike : Validates request → ∀ s result t,
    (publish again).run.Runs (reliable X) s result t ↔
      (publish request).run.Runs (reliable X) s result t
  /-- Whatever else was done since, it finds the row that the first publication returned. -/
  retried : ∀ s receipt t, Consistent X s →
    (publish request).run.Runs (reliable X) s (.ok receipt) t →
    ∀ u result v, Changes (Policy.unrestricted X) t u →
    (publish again).run.Runs (reliable X) u result v → ∃ existing,
      Stores u existing ∧ SameRecord receipt.resource existing ∧
      Retried again existing u result v ∧
      (Unpromoted again.channel again.expectedPointerVersion → v = u ∧ result = .ok {
        resource := existing, idempotent := true, objectCommitted := false
        metadataCommitted := true, channel := none })

theorem IsCandidate.identifies {candidate : StoredResourceV1 X}
    (planned : IsCandidate request candidate) : ∃ entries, candidate.payload = some entries ∧
      Identifies X entries candidate.digest candidate.byteLength := by
  have contained := candidate.valid.content
  rw [planned.built.2.1] at contained
  obtain ⟨-, -, entries, encoded, inline, -, written, digest, length⟩ := contained
  exact ⟨entries, inline, encoded, written, digest, length⟩

theorem Accepts.consumed {existing : StoredResourceV1 X} (accepts : Accepts request existing) :
    ∃ entries, ConfigurationConsumer.payload existing = .ok entries ∧
      Identifies X entries existing.digest existing.byteLength := by
  obtain ⟨candidate, planned, -, matching⟩ := accepts
  have profile : existing.profile = .configuration := by
    simp only [sameConfiguration, StoredResourceFields.sameArtifact, Bool.and_eq_true,
      decide_eq_true_eq, and_assoc] at matching
    exact matching.2.1.symm.trans planned.built.2.1
  have contained := existing.valid.content
  rw [profile] at contained
  obtain ⟨-, -, entries, encoded, inline, -, written, digest, length⟩ := contained
  refine ⟨thawEntries entries, bind_ok.mpr ⟨(), raiseIf_ok.mpr (by simp [profile]), ?_⟩, ?_⟩
  · rw [inline]
  · rw [thawEntries_eq]
    exact ⟨encoded, written, digest, length⟩

end ConfigurationPublisher

open ConfigurationPublisher

/-- Payloads that are one JSON value are one content. -/
theorem configuration_content (respects : RespectsJson X) (request : ConfigurationRequest X)
    (payload : JsonValue) (same : SameJson request.payload payload) :
    OneContent request { request with payload := payload } where
  planned := fun arguments => plan_iff respects same
  candidates := by
    intro candidate other planned replanned
    have built := planned.again ((isCandidate_congr respects same).mp replanned)
    rw [built]
    exact ⟨rfl, rfl, rfl⟩
  constructed := fun arguments time createdAt error planned timed raised =>
    (refuses_of_create planned timed raised).ne_contentMismatch
  readBack := by
    intro candidate planned
    obtain ⟨entries, inline, identifies⟩ := planned.identifies
    refine ⟨entries, inline, identifies, fun document version equal => ?_⟩
    exact StoredResourceV1.fromRecord_reordered inline equal version
  payload := fun existing accepts => accepts.consumed
  alike := by
    intro accepted s result t
    constructor
    · exact @runs_publish_congr X { request with payload := payload } _ respects same.symm
        (validates_congr respects same accepted) s t result
    · exact runs_publish_congr respects same accepted
  retried := by
    intro s receipt t consistent returned u result v moved runs
    obtain ⟨accepts, kept, live⟩ := accepts_of_publish consistent returned
    obtain ⟨existing, stores, unchanged⟩ := moved.evolves.live live
    obtain ⟨candidate, planned, named, matching⟩ := accepts.later unchanged
    have again : Accepts { request with payload := payload } existing :=
      ⟨candidate, (isCandidate_congr respects same).mpr planned, named, matching⟩
    have retried := retried_of_accepts (moved.consistent kept) stores again runs
    exact ⟨existing, stores, unchanged, retried, retried.unpromoted⟩

namespace Reference

def switches : JsonValue := .object [("a", .bool true), ("b", .bool false)]

/-- The canonical bytes of the switches. -/
def switchesBytes : Bytes :=
  [0x7b, 0x22, 0x61, 0x22, 0x3a, 0x74, 0x72, 0x75, 0x65, 0x2c, 0x22, 0x62, 0x22, 0x3a, 0x66, 0x61,
    0x6c, 0x73, 0x65, 0x7d]

/-- The reference platform, with a codec and a hash that also know the switches. -/
def switching : Platform :=
  { Platform.reference with
    sha256 := fun value =>
      if value = switchesBytes then
        "cf5ce5d22cc0da3c5aa620a9652583597ad367d1e69a668b4ddceecaf010d5a8"
      else sha256 value
    canonicalJsonBytes := fun value =>
      if freezeJson value = switches then .ok switchesBytes else canonicalJsonBytes value
    jsonLoads := fun encoded =>
      if encoded = switchesBytes then .ok switches else jsonLoads encoded
    sha256_hex := fun value => by
      split
      · decide
      · exact sha256_hex value
    canonical_freeze := fun value => by
      rw [freezeJson_freezeJson]
      exact congrArg (ite _ _) (Platform.reference.canonical_freeze value)
    loads_canonical := fun {value encoded} written => by
      split at written
      · cases written
        exact ⟨switches, by decide, by decide⟩
      · obtain ⟨known, rfl⟩ := canonicalJsonBytes_ok written
        exact ⟨.object [], by decide, by decide⟩
    loads_object := fun {value encoded size} sized written => by
      rw [← mappingSize?_freezeJson] at sized
      split at written
      · next known =>
        cases written
        rw [known] at sized
        exact ⟨_, rfl, (Option.some.inj sized).le⟩
      · obtain ⟨known, rfl⟩ := canonicalJsonBytes_ok written
        exact ⟨[], by decide, Nat.zero_le _⟩ }

/-- A configuration of the switches. -/
def switched : ConfigurationRequest switching where
  «namespace» := .str "team"
  kind := .str "feature"
  name := .str "flags"
  version := .str "1"
  payload := switches
  schema := .value (.str "team.flags@1")
  actor := .str "alice"

end Reference

/-- The switches in the other order are the same content, which the publisher accepts. -/
theorem configuration_content_switches :
    (ConfigurationPublisher.plan Reference.switched).isOk = true ∧
    OneContent Reference.switched { Reference.switched with
      payload := .object [("b", .bool false), ("a", .bool true)] } :=
  ⟨by decide +kernel, configuration_content
    (fun _ {_ _ _} same admitted => ⟨_, rfl, Except.ok.inj admitted ▸ same⟩) _ _
    (.reordered (by decide) (.swap _ _ _))⟩

end ConfigArtifact
