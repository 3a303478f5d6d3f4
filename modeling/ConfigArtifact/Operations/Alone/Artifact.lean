import ConfigArtifact.Operations.Alone.Configuration
import ConfigArtifact.Operations.ArtifactPublication
import ConfigArtifact.Store.Execution

/-! What an artifact publication does when nothing else runs.

The Object is put before the candidate is built, so a request may be refused
over an Object that it has committed.
-/

set_option autoImplicit false

namespace ConfigArtifact

open Interaction Fallible MetadataRepository
open StoredResourceFields (sameArtifact)

variable {X : Platform} {s t u : World} {env : Environment (runtime X) World}

theorem unwritten_setPayload (token : String) (source : PayloadSource) :
    Unwritten s (s.setPayload token source) := ⟨rfl, rfl⟩

theorem Consistent.setPayload (consistent : Consistent X s) {token : String}
    (fresh : s.payload? token = none) (source : PayloadSource) :
    Consistent X (s.setPayload token source) := by
  have change : Change (Policy.unrestricted X) s (s.setPayload token source) := .registered fresh
  exact change.consistent consistent

theorem runs_registerSource (covered : Covered env) {source : PayloadSource} {digest : String}
    {length : Nat} {result : Except PyError PayloadReference}
    (runs : (invoke (Call.registerPayload source digest length : Call X) : PyM X _).run.Runs env s
      result t) :
    ∃ reference, result = .ok reference ∧ s.payload? reference.token = none ∧
      t = s.setPayload reference.token source := by
  obtain ⟨reply, middle, answered, rfl, rfl⟩ := runs
  obtain ⟨token, fresh, rfl, rfl⟩ := covered _ _ _ _ answered
  exact ⟨_, rfl, fresh, rfl⟩

namespace ArtifactPublisher

/-- The payload that a request has registered. -/
def Supplies (s t : World) (reference : PayloadReference) : ArtifactPayload → Prop
  | .bytes raw => t.payload? reference.token = some (.ofBytes raw)
  | .reference given => reference = given ∧ t = s
  | .source source | .factory source | .stream source => t.payload? reference.token = some source
  | .unsupported => False

/-- What registering the payload of a request tells. -/
def Registers (X : Platform) (payload : ArtifactPayload) (expectedDigest expectedLength : JsonValue)
    (s t : World) : Except PyError RegisteredPayload → Prop
  | .ok registered => declared X payload expectedDigest expectedLength =
      .ok (registered.digest, registered.byteLength) ∧ Supplies s t registered.reference payload
  | .error _ => ∀ identified, declared X payload expectedDigest expectedLength ≠ .ok identified

theorem runs_registerDeclared (covered : Covered env) (consistent : Consistent X s)
    {source : PayloadSource} {expectedDigest expectedLength : JsonValue}
    {result : Except PyError RegisteredPayload}
    (runs : (registerDeclared source expectedDigest expectedLength : PyM X _).run.Runs env s result t) :
    (Unwritten s t ∧ Consistent X t) ∧
      Registers X (.source source) expectedDigest expectedLength s t result := by
  have runs := runs_settle runs
  cases digested : requiredDigest expectedDigest with
  | error error =>
    rw [digested] at runs
    obtain ⟨rfl, rfl⟩ := runs
    refine ⟨⟨.refl s, consistent⟩, fun identified given => ?_⟩
    obtain ⟨_, accepted, -⟩ := bind_ok.mp given
    cases digested.symm.trans accepted
  | ok digest =>
    rw [digested, andThen_ok] at runs
    have runs := runs_settle runs
    cases measured : requiredLength expectedLength with
    | error error =>
      rw [measured] at runs
      obtain ⟨rfl, rfl⟩ := runs
      refine ⟨⟨.refl s, consistent⟩, fun identified given => ?_⟩
      obtain ⟨_, _, given⟩ := bind_ok.mp given
      obtain ⟨_, accepted, -⟩ := bind_ok.mp given
      cases measured.symm.trans accepted
    | ok length =>
      rw [measured, andThen_ok] at runs
      obtain ⟨first, u, registers, runs⟩ := runs_then runs
      obtain ⟨reference, rfl, fresh, rfl⟩ := runs_registerSource covered registers
      obtain ⟨rfl, rfl⟩ := runs
      refine ⟨⟨unwritten_setPayload _ _, consistent.setPayload fresh source⟩, ?_, ?_⟩
      · exact bind_ok.mpr ⟨_, digested, bind_ok.mpr ⟨_, measured, rfl⟩⟩
      · exact World.payload?_setPayload_self _ _ _

theorem runs_registerPayload (covered : Covered env) (consistent : Consistent X s)
    {payload : ArtifactPayload} {expectedDigest expectedLength : JsonValue}
    {result : Except PyError RegisteredPayload}
    (runs : (registerPayload payload expectedDigest expectedLength : PyM X _).run.Runs env s result t) :
    (Unwritten s t ∧ Consistent X t) ∧
      Registers X payload expectedDigest expectedLength s t result := by
  unfold registerPayload at runs
  cases payload with
  | bytes raw =>
    have runs := runs_settle runs
    cases matching : matchDeclared (X.digestOf raw) raw.length expectedDigest expectedLength with
    | error error =>
      rw [matching] at runs
      obtain ⟨rfl, rfl⟩ := runs
      refine ⟨⟨.refl s, consistent⟩, fun identified given => ?_⟩
      obtain ⟨_, accepted, -⟩ := bind_ok.mp given
      cases matching.symm.trans accepted
    | ok _ =>
      rw [matching, andThen_ok] at runs
      obtain ⟨first, u, registers, runs⟩ := runs_then runs
      obtain ⟨reference, rfl, fresh, rfl⟩ := runs_registerSource covered registers
      obtain ⟨rfl, rfl⟩ := runs
      exact ⟨⟨unwritten_setPayload _ _, consistent.setPayload fresh _⟩,
        bind_ok.mpr ⟨_, matching, rfl⟩, World.payload?_setPayload_self _ _ _⟩
  | reference reference =>
    have runs := runs_settle runs
    cases digested : requiredDigest (if expectedDigest.truthy = true then expectedDigest
        else optionalJson .str reference.expectedDigest) with
    | error error =>
      rw [digested] at runs
      obtain ⟨rfl, rfl⟩ := runs
      refine ⟨⟨.refl s, consistent⟩, fun identified given => ?_⟩
      obtain ⟨_, accepted, -⟩ := bind_ok.mp given
      cases digested.symm.trans accepted
    | ok digest =>
      rw [digested, andThen_ok] at runs
      have runs := runs_settle runs
      cases measured : requiredLength (if expectedLength ≠ .null then expectedLength
          else optionalJson .int reference.expectedLength) with
      | error error =>
        rw [measured] at runs
        obtain ⟨rfl, rfl⟩ := runs
        refine ⟨⟨.refl s, consistent⟩, fun identified given => ?_⟩
        obtain ⟨_, _, given⟩ := bind_ok.mp given
        obtain ⟨_, accepted, -⟩ := bind_ok.mp given
        cases measured.symm.trans accepted
      | ok length =>
        rw [measured] at runs
        obtain ⟨rfl, rfl⟩ := runs
        exact ⟨⟨.refl s, consistent⟩,
          bind_ok.mpr ⟨_, digested, bind_ok.mpr ⟨_, measured, rfl⟩⟩, rfl, rfl⟩
  | source source => exact runs_registerDeclared covered consistent runs
  | factory source => exact runs_registerDeclared covered consistent runs
  | stream source => exact runs_registerDeclared covered consistent runs
  | unsupported =>
    have refused : ∀ identified, declared X .unsupported expectedDigest expectedLength ≠
        .ok identified := fun _ given => by cases given
    have runs := runs_settle runs
    cases digested : requiredDigest expectedDigest with
    | error error =>
      rw [digested] at runs
      obtain ⟨rfl, rfl⟩ := runs
      exact ⟨⟨.refl s, consistent⟩, refused⟩
    | ok digest =>
      rw [digested, andThen_ok] at runs
      have runs := runs_settle runs
      cases measured : requiredLength expectedLength with
      | error error =>
        rw [measured] at runs
        obtain ⟨rfl, rfl⟩ := runs
        exact ⟨⟨.refl s, consistent⟩, refused⟩
      | ok length =>
        rw [measured] at runs
        obtain ⟨rfl, rfl⟩ := runs
        exact ⟨⟨.refl s, consistent⟩, refused⟩

section

variable {request : ArtifactRequest X} {content : Content} {payload : PayloadReference}

/-- How the Object of a publication comes to be there, or does not. -/
inductive ObjectStep (env : Environment (runtime X) World) (s : World) (request : ArtifactRequest X)
    (content : Content) (payload : PayloadReference) :
    Except PyError (ObjectMetadata × Bool) → World → Prop
  | failed {error reason : PyError}
      (answered : env (.object (objectRequest request content payload).call) s (.error reason) s)
      (clashing : reason.isObjectConflict = true → ¬Held X s content) :
      ObjectStep env s request content payload (.error error) s
  | committed {bytes : Bytes} (accepted : surface request content = .ok ())
      (delivers : Delivers s payload bytes)
      (intact : IsIntact X content.digest content.byteLength bytes)
      (absent : s.object? (content.identity.objectId X) = none) :
      ObjectStep env s request content payload
        (.ok (((objectRequest request content payload).stored X bytes).metadata, false))
        (s.setObject (content.identity.objectId X)
          ((objectRequest request content payload).stored X bytes))
  | existing {object : StoredObject} (accepted : surface request content = .ok ())
      (found : s.object? (content.identity.objectId X) = some object)
      (named : object.metadata.objectRef = objectRefOf X content) (held : Held X s content) :
      ObjectStep env s request content payload (.ok (object.metadata, true)) s

theorem verifyObjectMetadata_ok {object : StoredObject} (consistent : Consistent X s)
    (found : s.object? (content.identity.objectId X) = some object)
    (verified : verifyObjectMetadata X object.metadata content = .ok ()) :
    object.metadata.objectRef = objectRefOf X content ∧ Held X s content := by
  unfold verifyObjectMetadata at verified
  rw [raiseIf_ok, not_or, not_or, not_or, not_or, not_not, not_not, not_not, not_not, not_not]
    at verified
  obtain ⟨-, -, digest, length, media⟩ := verified
  have named : object.metadata.objectRef = objectRefOf X content := by
    rw [consistent.objects _ object found, digest]
    rfl
  exact ⟨named, object, found, named, digest, length, media⟩

theorem verifyObjectMetadata_held {object : StoredObject}
    (found : s.object? (content.identity.objectId X) = some object) (held : Held X s content) :
    verifyObjectMetadata X object.metadata content = .ok () := by
  obtain ⟨again, found', named, digest, length, media⟩ := held
  cases found.symm.trans found'
  unfold verifyObjectMetadata
  rw [raiseIf_ok, named]
  rintro (wrong | wrong | wrong | wrong | wrong)
  · exact wrong rfl
  · exact wrong rfl
  · exact wrong digest
  · exact wrong length
  · exact wrong media

/-- The put of a publication, as its publisher is answered. -/
theorem runs_put (covered : Covered env) {result : Except PyError ObjectMetadata}
    (runs : (ObjectRepository.put (content.identity.objectId X) payload content.mediaType
      content.digest content.byteLength (userMetadata X content.identity)
      (creationContext request.actor) (match request.provenance with
        | none => []
        | some provenance => provenance.toDict) : PyM X _).run.Runs env s result t) :
    (∃ bytes, surface request content = .ok () ∧ Delivers s payload bytes ∧
      IsIntact X content.digest content.byteLength bytes ∧
      s.object? (content.identity.objectId X) = none ∧
      result = .ok ((objectRequest request content payload).stored X bytes).metadata ∧
      t = s.setObject (content.identity.objectId X)
        ((objectRequest request content payload).stored X bytes)) ∨
    t = s ∧ ∃ error, result = .error error ∧
      env (.object (objectRequest request content payload).call) s (.error error) s ∧
      (error.isObjectConflict = true → surface request content = .ok ()) := by
  have runs := (congrArg (fun program => program.Runs env s result t)
    (run_putObject (objectRequest request content payload))).mp runs
  obtain ⟨reply, middle, answered, rfl, rfl⟩ := runs
  rcases covered _ _ _ _ answered with ⟨accepted, ⟨bytes, resources, delivers, intact, absent, rfl,
    rfl⟩ | ⟨rfl, present, error, rfl, conflict⟩ | ⟨rfl, broken, error, rfl⟩⟩ |
    ⟨error, refused, rfl, rfl⟩
  · refine Or.inl ⟨bytes, accepted, delivers, intact, absent, ?_, rfl⟩
    rw [metadataOf_data accepted]
    rfl
  · exact Or.inr ⟨rfl, error, rfl, answered, fun _ => accepted⟩
  · exact Or.inr ⟨rfl, error, rfl, answered, fun _ => accepted⟩
  · refine Or.inr ⟨rfl, error, rfl, answered, fun conflict => ?_⟩
    cases (X.check_conflict refused).symm.trans conflict

theorem runs_statExisting (covered : Covered env) (consistent : Consistent X s) {result : Except PyError ObjectMetadata}
    (runs : (statExisting content.identity : PyM X _).run.Runs env s result t) :
    t = s ∧ ((∃ object, s.object? (content.identity.objectId X) = some object ∧
        result = .ok object.metadata) ∨
      s.object? (content.identity.objectId X) = none ∧ ∃ error, result = .error error) := by
  have reference := X.objectReference_artifact
    (ResourceIdentity.isResourceId_resourceId X content.identity) none (by simp)
  have runs := runs_settle runs
  rw [show X.objectReference X.objectResource (content.identity.objectId X) none =
    .ok ⟨X.objectResource, content.identity.objectId X, none⟩ from reference, andThen_ok,
    run_stat] at runs
  obtain ⟨reply, middle, answered, rfl, rfl⟩ := runs
  obtain ⟨rfl, conforms⟩ := covered _ _ _ _ answered
  refine ⟨rfl, ?_⟩
  have finds : middle.find? ⟨X.objectResource, content.identity.objectId X, none⟩ =
      middle.object? (content.identity.objectId X) := by
    unfold World.find?
    cases middle.object? (content.identity.objectId X) <;> rfl
  cases found : middle.object? (content.identity.objectId X) with
  | some object =>
    rw [finds, found] at conforms
    obtain ⟨resources, rfl⟩ := conforms
    exact Or.inl ⟨object, rfl, metadataOf_data (consistent.accepted _ object found) _ _⟩
  | none =>
    rw [finds, found] at conforms
    obtain ⟨error, rfl, -⟩ := conforms
    exact Or.inr ⟨rfl, error, rfl⟩

theorem runs_verified {object : StoredObject} {idempotent : Bool}
    {result : Except PyError (ObjectMetadata × Bool)}
    (runs : (settle (verifyObjectMetadata X object.metadata content) >>= fun _ =>
      pure (object.metadata, idempotent) : PyM X _).run.Runs env s result t) :
    t = s ∧ ((∃ error, result = .error error ∧
        verifyObjectMetadata X object.metadata content = .error error) ∨
      result = .ok (object.metadata, idempotent) ∧
        verifyObjectMetadata X object.metadata content = .ok ()) := by
  have runs := runs_settle runs
  cases verified : verifyObjectMetadata X object.metadata content with
  | error error =>
    rw [verified] at runs
    obtain ⟨rfl, rfl⟩ := runs
    exact ⟨rfl, Or.inl ⟨error, rfl, rfl⟩⟩
  | ok _ =>
    rw [verified] at runs
    obtain ⟨rfl, rfl⟩ := runs
    exact ⟨rfl, Or.inr ⟨rfl, rfl⟩⟩

theorem held_stored (bytes : Bytes) : Held X (s.setObject (content.identity.objectId X)
    ((objectRequest request content payload).stored X bytes)) content :=
  ⟨_, World.object?_setObject_self _ _ _, rfl, rfl, rfl, rfl⟩

theorem runs_putObject (covered : Covered env) (consistent : Consistent X s)
    {result : Except PyError (ObjectMetadata × Bool)}
    (runs : (putObject request content payload).run.Runs env s result t) :
    ObjectStep env s request content payload result t := by
  unfold putObject at runs
  rw [run_attempt_bind] at runs
  obtain ⟨first, u, puts, runs⟩ := (Program.runs_bind _ _ _ _ _ _).mp runs
  rcases runs_put covered puts with ⟨bytes, accepted, delivers, intact, absent, rfl, rfl⟩ |
    ⟨rfl, reason, rfl, answered, taken⟩
  · have held : Held X (s.setObject (content.identity.objectId X)
        ((objectRequest request content payload).stored X bytes)) content := held_stored bytes
    obtain ⟨rfl, ⟨error, -, refused⟩ | ⟨rfl, -⟩⟩ := runs_verified runs
    · rw [verifyObjectMetadata_held (World.object?_setObject_self _ _ _) held] at refused
      cases refused
    · exact .committed accepted delivers intact absent
  · dsimp only at runs
    split at runs
    · next conflict =>
      obtain ⟨first, v, stats, runs⟩ := runs_then runs
      obtain ⟨rfl, ⟨object, found, rfl⟩ | ⟨absent, error, rfl⟩⟩ :=
        runs_statExisting covered consistent stats
      · obtain ⟨rfl, ⟨error, rfl, refused⟩ | ⟨rfl, verified⟩⟩ := runs_verified runs
        · refine .failed answered fun _ held => ?_
          cases (verifyObjectMetadata_held found held).symm.trans refused
        · obtain ⟨named, held⟩ := verifyObjectMetadata_ok consistent found verified
          exact .existing (taken conflict) found named held
      · obtain ⟨rfl, rfl⟩ := runs
        refine .failed answered fun _ held => ?_
        obtain ⟨object, found, -⟩ := held
        cases found.symm.trans absent
    · next other =>
      obtain ⟨rfl, rfl⟩ := runs
      exact .failed answered fun conflict => absurd conflict other

/-- The error with which the candidate of a request is refused, at any time. -/
def Refuses (request : ArtifactRequest X) (content : Content) (error : PyError) : Prop :=
  annotationsOf X request.annotations = .error error ∨ ∃ arguments,
    plan request content = .ok arguments ∧ ∀ time createdAt,
      utcTimestampOfDatetime time = .ok createdAt →
        StoredResourceV1.create X (arguments createdAt) = .error error

theorem plan_eq {arguments : String → StoredResourceArguments X}
    (planned : plan request content = .ok arguments) (first second : String) :
    arguments second = { arguments first with createdAt := .str second } := by
  obtain ⟨annotations, -, same⟩ := bind_ok.mp planned
  cases same
  rfl

/-- What is built at one time is built at any. -/
theorem IsCandidate.builds {resource : StoredResourceV1 X} (candidate : IsCandidate request resource)
    (read : contentOf request = .ok content) : Builds request content := by
  obtain ⟨content', arguments, time, createdAt, read', planned, timed, created⟩ := candidate
  cases read.symm.trans read'
  refine ⟨arguments, planned, fun later createdAt' timed' => ?_⟩
  rw [plan_eq planned createdAt createdAt']
  exact StoredResourceV1.create_later (utcTimestampOfDatetime_ok timed)
    (utcTimestampOfDatetime_ok timed') (plan_eq planned createdAt createdAt ▸ created)

theorem Builds.candidate (builds : Builds request content) (read : contentOf request = .ok content) :
    ∃ resource, IsCandidate request resource := by
  obtain ⟨arguments, planned, builds⟩ := builds
  have timed : utcTimestampOfDatetime referenceTime = .ok "2026-01-01T00:00:00.000000Z" := by decide
  obtain ⟨resource, created⟩ := builds _ _ timed
  exact ⟨resource, content, arguments, _, _, read, planned, timed, created⟩

theorem IsCandidate.actor {resource : StoredResourceV1 X} (candidate : IsCandidate request resource) :
    boundedString request.actor "actor" 512 = .ok resource.createdBy := by
  obtain ⟨_, arguments, time, createdAt, -, planned, -, created⟩ := candidate
  obtain ⟨annotations, -, same⟩ := bind_ok.mp planned
  cases same
  exact (StoredResourceV1.isBuilt_of_create created).createdBy

/-- What is refused at one time is refused at any. -/
theorem refuses_of_create {arguments : String → StoredResourceArguments X} {time : DateTime}
    {createdAt : String} {error : PyError} (planned : plan request content = .ok arguments)
    (timed : utcTimestampOfDatetime time = .ok createdAt)
    (refused : StoredResourceV1.create X (arguments createdAt) = .error error) :
    Refuses request content error := by
  refine Or.inr ⟨arguments, planned, fun later createdAt' timed' => ?_⟩
  rw [plan_eq planned createdAt createdAt']
  exact (StoredResourceV1.create_createdAt (utcTimestampOfDatetime_ok timed)
    (utcTimestampOfDatetime_ok timed') error).mpr (plan_eq planned createdAt createdAt ▸ refused)

theorem Refuses.unique {error other : PyError} (refuses : Refuses request content error)
    (again : Refuses request content other) : other = error := by
  rcases refuses with refused | ⟨arguments, planned, refused⟩
  · rcases again with refused' | ⟨arguments, planned, -⟩
    · exact Except.error.inj (refused'.symm.trans refused)
    · obtain ⟨_, accepted, -⟩ := bind_ok.mp planned
      cases accepted.symm.trans refused
  · rcases again with refused' | ⟨arguments', planned', refused'⟩
    · obtain ⟨_, accepted, -⟩ := bind_ok.mp planned
      cases accepted.symm.trans refused'
    · cases planned.symm.trans planned'
      have time : utcTimestampOfDatetime referenceTime = .ok "2026-01-01T00:00:00.000000Z" := by decide
      exact Except.error.inj ((refused' _ _ time).symm.trans (refused _ _ time))

theorem Refuses.not_candidate {error : PyError} (refuses : Refuses request content error)
    (read : contentOf request = .ok content) {resource : StoredResourceV1 X} :
    ¬IsCandidate request resource := by
  rintro ⟨content', arguments, time, createdAt, read', planned, timed, created⟩
  cases read.symm.trans read'
  rcases refuses with refused | ⟨arguments', planned', refused⟩
  · obtain ⟨_, accepted, -⟩ := bind_ok.mp planned
    cases accepted.symm.trans refused
  · cases planned.symm.trans planned'
    cases created.symm.trans (refused time createdAt timed)

theorem reads_candidate (request : ArtifactRequest X) (content : Content)
    (objectRef : Option ObjectReference) :
    (candidate request content objectRef).run.Uses Call.IsReading := by
  cases objectRef with
  | none => trivial
  | some reference =>
    exact uses_settle_bind fun _ _ => uses_bind reads_currentTimestamp fun _ => trivial

theorem runs_candidate (covered : Covered env) (read : contentOf request = .ok content)
    {result : Except PyError (StoredResourceV1 X)}
    (runs : (candidate request content (some (objectRefOf X content))).run.Runs env s result t) :
    t = s ∧ ((∃ resource, result = .ok resource ∧ IsCandidate request resource) ∨
      ∃ error, result = .error error ∧ Refuses request content error) := by
  refine ⟨covered.still (reads_candidate _ _ _) runs, ?_⟩
  have runs := runs_settle runs
  cases annotated : annotationsOf X request.annotations with
  | error error =>
    rw [annotated] at runs
    obtain ⟨rfl, -⟩ := runs
    exact Or.inr ⟨error, rfl, Or.inl annotated⟩
  | ok annotations =>
    have planned : plan request content =
        .ok (candidateArguments request content (objectRefOf X content) annotations) :=
      bind_ok.mpr ⟨_, annotated, rfl⟩
    rw [annotated, andThen_ok] at runs
    obtain ⟨first, u, reads, runs⟩ := runs_then runs
    obtain ⟨rfl, timed⟩ := runs_currentTimestamp covered.honest reads
    cases first with
    | error error => cases timed
    | ok createdAt =>
      obtain ⟨time, timed⟩ := timed
      obtain ⟨rfl, -⟩ := runs
      cases created : StoredResourceV1.create X (candidateArguments request content
          (objectRefOf X content) annotations createdAt) with
      | ok resource =>
        exact Or.inl ⟨resource, rfl, content, _, time, createdAt, read, planned, timed, created⟩
      | error error => exact Or.inr ⟨error, rfl, refuses_of_create planned timed created⟩

theorem runs_publishMetadata (covered : Covered env) (consistent : Consistent X s)
    {candidate : StoredResourceV1 X} {idempotent : Bool}
    (absent : s.row? .metadata candidate.resourceId = none)
    {result : Except PyError (PublicationReceipt X)}
    (runs : (publishMetadata request candidate idempotent).run.Runs env s result t) :
    ∃ version stamp promoted, (promotePublished .artifact (candidate.withVersion (some version))
        request.channel request.expectedPointerVersion request.actor).run.Runs env
        (s.publish candidate version stamp) promoted t ∧
      result = promoted >>= fun promoted => .ok {
        resource := candidate.withVersion (some version), idempotent, objectCommitted := true
        metadataCommitted := true, channel := promoted } := by
  unfold publishMetadata at runs
  rw [run_attempt_bind] at runs
  obtain ⟨first, u, commits, runs⟩ := (Program.runs_bind _ _ _ _ _ _).mp runs
  have committed := runs_publication covered consistent sameArtifact_ignoresVersion commits
  cases first with
  | error error => exact absurd absent (committed.resolve_left id).2.1
  | ok stored =>
    obtain ⟨version, stamp, -, rfl, rfl⟩ := committed
    obtain ⟨promoted, v, promotes, rest⟩ := runs_then runs
    refine ⟨version, stamp, promoted, ?_⟩
    cases promoted with
    | ok pointer =>
      obtain ⟨rfl, rfl⟩ := rest
      exact ⟨promotes, rfl⟩
    | error error =>
      obtain ⟨rfl, rfl⟩ := rest
      exact ⟨promotes, rfl⟩

/-- A stored row that other content was published under. -/
def Differs (existing : StoredResourceV1 X) (content : Content) : Prop :=
  existing.profile ≠ .artifact ∨ existing.digest ≠ content.digest ∨
    existing.byteLength ≠ content.byteLength ∨ existing.mediaType ≠ content.mediaType

/-- A publication over a row that is there. -/
theorem runs_publishExisting (covered : Covered env) (consistent : Consistent X s)
    (read : contentOf request = .ok content) {existing : StoredResourceV1 X}
    (stores : Stores s existing) (named : existing.resourceId = content.identity.resourceId X)
    {result : Except PyError (PublicationReceipt X)}
    (runs : (publishExisting request content existing).run.Runs env s result t) :
    Differs existing content ∧ t = s ∧ (∃ error, result = .error error ∧
      error.hasType .identityConflict = true) ∨
    ¬Differs existing content ∧ (t = s ∧ (∃ error, result = .error error ∧
        Refuses request content error) ∨
      ∃ candidate, IsCandidate request candidate ∧ (existingReceipt .artifact sameArtifact candidate
        existing request.channel request.expectedPointerVersion request.actor).run.Runs env s
          result t) := by
  unfold publishExisting at runs
  split at runs
  · next different =>
    obtain ⟨rfl, rfl⟩ := runs
    exact Or.inl ⟨different, rfl, _, rfl, rfl⟩
  · next matching =>
    have same := matching
    rw [not_or, not_not, not_or, not_not] at same
    rw [objectRef_of_stored consistent stores same.1 named same.2.1] at runs
    obtain ⟨first, u, builds, runs⟩ := runs_then runs
    obtain ⟨rfl, ⟨candidate, rfl, planned⟩ | ⟨error, rfl, refuses⟩⟩ :=
      runs_candidate covered read builds
    · exact Or.inr ⟨matching, Or.inr ⟨candidate, planned, runs⟩⟩
    · obtain ⟨rfl, rfl⟩ := runs
      exact Or.inr ⟨matching, Or.inl ⟨rfl, error, rfl, refuses⟩⟩

/-- What a publication does with a payload that is registered. -/
inductive Publishes (env : Environment (runtime X) World) (s : World) (request : ArtifactRequest X)
    (content : Content) (payload : PayloadReference) :
    Except PyError (PublicationReceipt X) → World → Prop
  | found {existing : StoredResourceV1 X} {result : Except PyError (PublicationReceipt X)} {t : World}
      (stores : Stores s existing) (named : existing.resourceId = content.identity.resourceId X)
      (runs : (publishExisting request content existing).run.Runs env s result t) :
      Publishes env s request content payload result t
  | stopped {error : PyError} {t : World}
      (absent : s.row? .metadata (content.identity.resourceId X) = none)
      (step : ObjectStep env s request content payload (.error error) t) :
      Publishes env s request content payload (.error error) t
  | refused {pair : ObjectMetadata × Bool} {error : PyError} {t : World}
      (absent : s.row? .metadata (content.identity.resourceId X) = none)
      (step : ObjectStep env s request content payload (.ok pair) t)
      (refuses : Refuses request content error) :
      Publishes env s request content payload (.error error) t
  | committed {pair : ObjectMetadata × Bool} {candidate : StoredResourceV1 X}
      {version stamp : RecordVersion} {promoted : Except PyError (Option ResourceChannelV1)}
      {u t : World}
      (absent : s.row? .metadata (content.identity.resourceId X) = none)
      (step : ObjectStep env s request content payload (.ok pair) u)
      (planned : IsCandidate request candidate)
      (runs : (promotePublished .artifact (candidate.withVersion (some version)) request.channel
        request.expectedPointerVersion request.actor).run.Runs env
        (u.publish candidate version stamp) promoted t) :
      Publishes env s request content payload (promoted >>= fun promoted => .ok {
        resource := candidate.withVersion (some version), idempotent := pair.2
        objectCommitted := true, metadataCommitted := true, channel := promoted }) t

/-- An Object phase leaves the rows as they are, and the stores consistent. -/
theorem ObjectStep.kept {result : Except PyError (ObjectMetadata × Bool)}
    (step : ObjectStep env s request content payload result t) (consistent : Consistent X s) :
    t.tables = s.tables ∧ Consistent X t := by
  cases step with
  | failed => exact ⟨rfl, consistent⟩
  | @committed bytes accepted delivers intact absent =>
    have change := (objectRequest request content payload).commits (P := Policy.unrestricted X) rfl
      (ResourceIdentity.isResourceId_resourceId X content.identity) accepted intact absent
      trivial
    exact ⟨rfl, change.consistent consistent⟩
  | existing => exact ⟨rfl, consistent⟩

theorem ObjectStep.named {pair : ObjectMetadata × Bool}
    (step : ObjectStep env s request content payload (.ok pair) t) :
    pair.1.objectRef = objectRefOf X content := by
  cases step with
  | committed => rfl
  | existing accepted found named held => exact named

theorem ObjectStep.held {pair : ObjectMetadata × Bool}
    (step : ObjectStep env s request content payload (.ok pair) t) : Held X t content := by
  cases step with
  | committed => exact held_stored _
  | existing accepted found named held => exact held

theorem runs_publishRegistered (covered : Covered env) (consistent : Consistent X s)
    (read : contentOf request = .ok content) {result : Except PyError (PublicationReceipt X)}
    (runs : (publishRegistered request content payload).run.Runs env s result t) :
    Publishes env s request content payload result t := by
  unfold publishRegistered at runs
  obtain ⟨first, u, looks, runs⟩ := runs_then runs
  obtain ⟨rfl, looked⟩ := runs_getResource covered.honest consistent looks
  match first, looked with
  | .error error, impossible => exact absurd (impossible.resolve_left id).1 (by simp)
  | .ok (some existing), looked => exact .found looked.1 looked.2 runs
  | .ok none, looked =>
    have absent := looked.2.resolve_left id
    rw [andThen_ok] at runs
    obtain ⟨first, v, puts, runs⟩ := runs_then runs
    have step := runs_putObject covered consistent puts
    cases first with
    | error error =>
      obtain ⟨rfl, rfl⟩ := runs
      exact .stopped absent step
    | ok pair =>
      obtain ⟨tables, kept⟩ := step.kept consistent
      rw [andThen_ok] at runs
      dsimp only at runs
      rw [step.named] at runs
      obtain ⟨first, w, builds, runs⟩ := runs_then runs
      obtain ⟨rfl, ⟨candidate, rfl, planned⟩ | ⟨error, rfl, refuses⟩⟩ :=
        runs_candidate covered read builds
      · obtain ⟨-, -, -, content', read', identity, -⟩ := planned.built
        cases read.symm.trans read'
        have absent' : w.row? .metadata candidate.resourceId = none := by
          change w.row? .metadata (candidate.identity.resourceId X) = none
          rw [identity, World.row?_of_tables tables]
          exact absent
        obtain ⟨version, stamp, promoted, promotes, rfl⟩ :=
          runs_publishMetadata covered kept absent' runs
        exact .committed absent step planned promotes
      · obtain ⟨rfl, rfl⟩ := runs
        exact .refused absent step refuses

theorem runs_releaseOwned (covered : Covered env) {registered : RegisteredPayload}
    {result : Except PyError Unit}
    (runs : (releaseOwned registered : PyM X Unit).run.Runs env s result t) :
    t = s ∧ result = .ok () := by
  unfold releaseOwned at runs
  split at runs
  · obtain ⟨reply, middle, answered, rfl, rfl⟩ := runs
    exact covered _ _ _ _ answered
  · obtain ⟨rfl, rfl⟩ := runs
    exact ⟨rfl, rfl⟩

/-- A publication registers its payload, or is refused before it has done anything. -/
theorem runs_publish (covered : Covered env) (consistent : Consistent X s)
    {result : Except PyError (PublicationReceipt X)}
    (runs : (publish request).run.Runs env s result t) :
    (∀ content, contentOf request ≠ .ok content) ∧ Unwritten s t ∧ (∃ error, result = .error error) ∨
    ∃ content payload u, contentOf request = .ok content ∧ Unwritten s u ∧ Consistent X u ∧
      Supplies s u payload request.payload ∧ Publishes env u request content payload result t := by
  unfold publish at runs
  have runs := runs_settle runs
  cases named : ResourceIdentity.create request.namespace request.kind request.name
      request.version with
  | error error =>
    rw [named] at runs
    obtain ⟨rfl, rfl⟩ := runs
    refine Or.inl ⟨fun content read => ?_, .refl s, error, rfl⟩
    obtain ⟨_, accepted, -⟩ := bind_ok.mp read
    cases named.symm.trans accepted
  | ok identity =>
    rw [named, andThen_ok] at runs
    have runs := runs_settle runs
    cases typed : mediaType request.mediaTypeValue with
    | error error =>
      rw [typed] at runs
      obtain ⟨rfl, rfl⟩ := runs
      refine Or.inl ⟨fun content read => ?_, .refl s, error, rfl⟩
      obtain ⟨_, _, read⟩ := bind_ok.mp read
      obtain ⟨_, accepted, -⟩ := bind_ok.mp read
      cases typed.symm.trans accepted
    | ok media =>
      rw [typed, andThen_ok] at runs
      obtain ⟨first, u, registers, runs⟩ := runs_then runs
      obtain ⟨⟨unwritten, kept⟩, registers⟩ := runs_registerPayload covered consistent registers
      cases first with
      | error error =>
        obtain ⟨rfl, rfl⟩ := runs
        refine Or.inl ⟨fun content read => ?_, unwritten, error, rfl⟩
        obtain ⟨_, _, read⟩ := bind_ok.mp read
        obtain ⟨_, _, read⟩ := bind_ok.mp read
        obtain ⟨identified, accepted, -⟩ := bind_ok.mp read
        exact registers identified accepted
      | ok registered =>
        obtain ⟨identified, supplies⟩ := registers
        have read : contentOf request =
            .ok ⟨identity, registered.digest, registered.byteLength, media⟩ :=
          bind_ok.mpr ⟨_, named, bind_ok.mpr ⟨_, typed, bind_ok.mpr ⟨_, identified, rfl⟩⟩⟩
        rw [andThen_ok, run_ensuring] at runs
        obtain ⟨ended, v, publishes, runs⟩ := (Program.runs_bind _ _ _ _ _ _).mp runs
        obtain ⟨released, w, releases, runs⟩ := (Program.runs_bind _ _ _ _ _ _).mp runs
        obtain ⟨rfl, rfl⟩ := runs_releaseOwned covered releases
        obtain ⟨rfl, rfl⟩ := runs
        exact Or.inr ⟨_, registered.reference, u, read, unwritten, kept, supplies,
          runs_publishRegistered covered kept read publishes⟩

end

end ArtifactPublisher

end ConfigArtifact
