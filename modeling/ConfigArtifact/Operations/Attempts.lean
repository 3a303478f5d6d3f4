import ConfigArtifact.Deployment
import ConfigArtifact.Guarantees.Rejection
import ConfigArtifact.Interaction.Among
import ConfigArtifact.Operations.Authority

/-! What one attempt at a publication asks the stores for.

Besides its Object and its rows an attempt only reads, points a channel and
records an orphan. The Object is put from the payload of its request, and the
rows are those of a candidate stamped by a clock it has read itself.
-/

set_option autoImplicit false

namespace ConfigArtifact

open Interaction Fallible MetadataRepository
open StoredResourceFields (sameArtifact sameConfiguration)

variable {X : Platform}

/-- A publication of either profile. -/
inductive PublishRequest (X : Platform) where
  | configuration (request : ConfigurationRequest X)
  | artifact (request : ArtifactRequest X)

namespace PublishRequest

def program : PublishRequest X → PyM X (PublicationReceipt X)
  | .configuration request => ConfigurationPublisher.publish request
  | .artifact request => ArtifactPublisher.publish request

/-- The same publication, asked for by another actor. -/
def askedBy (actor : JsonValue) : PublishRequest X → PublishRequest X
  | .configuration request => .configuration { request with actor }
  | .artifact request => .artifact { request with actor }

def identity : PublishRequest X → Except PyError ResourceIdentity
  | .configuration request =>
    ResourceIdentity.create request.namespace request.kind request.name request.version
  | .artifact request =>
    ResourceIdentity.create request.namespace request.kind request.name request.version

/-- A publication that names no channel to promote to. -/
def IsUnpromoted : PublishRequest X → Prop
  | .configuration request => Unpromoted request.channel request.expectedPointerVersion
  | .artifact request => Unpromoted request.channel request.expectedPointerVersion

def IsCandidate : PublishRequest X → StoredResourceV1 X → Prop
  | .configuration request => ConfigurationPublisher.IsCandidate request
  | .artifact request => ArtifactPublisher.IsCandidate request

def IsValid (s : World) : PublishRequest X → Prop
  | .configuration request => ConfigurationPublisher.IsValid request
  | .artifact request => ArtifactPublisher.IsValid s request

def Clashes : PublishRequest X → World → Prop
  | .configuration request => ConfigurationPublisher.Clashes request
  | .artifact request => ArtifactPublisher.Clashes request

/-- How the publisher compares its candidate with a row. -/
def same : PublishRequest X → StoredResourceFields X → StoredResourceFields X → Bool
  | .configuration _ => sameConfiguration
  | .artifact _ => sameArtifact

/-- The Object is as the request describes the one it puts. -/
def Offers (request : PublishRequest X) (object : StoredObject) : Prop :=
  ∃ asked content, request = .artifact asked ∧ ArtifactPublisher.contentOf asked = .ok content ∧
    object.metadata.digest = content.digest ∧ object.metadata.byteLength = content.byteLength ∧
    object.metadata.mediaType = content.mediaType

theorem safe_program {P : Policy X} {faults valid : Prop} {first s : World}
    (request : PublishRequest X) (kept : (following P first).invariant s)
    (sound : valid → request.IsValid s)
    (publishes : ∀ candidate, request.IsCandidate candidate → P.publishes candidate)
    (commits : ∀ object, request.Offers object → P.commits object) :
    request.program.run.Safe (following P first) (serving X faults)
      (fun history t result => request.IsUnpromoted →
        PublicationEnds faults valid P first request.same request.IsCandidate request.Clashes
          history t result) [] s := by
  cases request with
  | configuration asked => exact ConfigurationPublisher.safe_publish kept sound publishes
  | artifact asked =>
    refine ArtifactPublisher.safe_publish kept sound publishes fun content _ _ read _ => ?_
    exact commits _ ⟨asked, content, rfl, read, rfl, rfl, rfl⟩

end PublishRequest

/-- What a publication needs besides committing its Object and its rows. -/
def beside : List Capability :=
  [.get .metadata, .query .channels, .put .channels, .objectStat, .put .orphanCandidates,
    .get .orphanCandidates]

/-- Replies that are true of the payloads a state has registered and of the clock. -/
def Furnished (T : World) (readings : DateTime → Prop) : Truth (runtime X)
  | .clock, reply | .utcNow, reply => ∀ time, reply = .ok time → readings time
  | .registerPayload source _ _, reply =>
    ∀ reference, reply = .ok reference → T.payload? reference.token = some source
  | _, _ => True

/-- The time has been read off the clock. -/
def Stamped (readings : DateTime → Prop) (createdAt : String) : Prop :=
  ∃ time, readings time ∧ utcTimestampOfDatetime time = .ok createdAt

/-- A put of the Object of a request, from its own payload. -/
def PublishRequest.Puts (request : PublishRequest X) (T : World) (call : Call X) : Prop :=
  ∃ asked content payload, request = .artifact asked ∧
    ArtifactPublisher.contentOf asked = .ok content ∧
    ArtifactPublisher.Supplies T T payload asked.payload ∧
    call = .object (ArtifactPublisher.objectRequest asked content payload).call

/-- A transaction that commits the rows of a candidate. -/
def CommitsRows (readings : DateTime → Prop) (call : Call X) : Prop :=
  ∃ candidate same, IgnoresVersion (X := X) same ∧ Stamped readings candidate.createdAt ∧
    call = .transaction (publication same candidate).run

/-- The calls of one attempt. -/
def PublishRequest.Attempts (request : PublishRequest X) (T : World) (readings : DateTime → Prop)
    (call : Call X) : Prop :=
  call.IsGranted (· ∈ beside) ∨ request.Puts T call ∨ CommitsRows readings call

section

variable {request : PublishRequest X} {T : World} {readings : DateTime → Prop}

/-- What a program asks for that only needs what is beside. -/
theorem concludes_beside {A : Type} {program : PyM X A} (needs : Needs program (· ∈ beside)) :
    program.run.Concludes (Furnished T readings) (request.Attempts T readings) fun _ => True :=
  (needs.mono fun _ => Or.inl).concludes

theorem concludes_currentTimestamp_stamped :
    (currentTimestamp : PyM X String).run.Concludes (Furnished T readings)
      (request.Attempts T readings) fun result =>
        ∀ createdAt, result = .ok createdAt → Stamped readings createdAt := by
  rw [run_currentTimestamp]
  refine ⟨Or.inl trivial, fun reply told createdAt read => ?_⟩
  obtain ⟨time, same, stamped⟩ := bind_ok.mp read
  exact ⟨time, told time same, stamped⟩

/-- A candidate that is created with a time it is given carries it. -/
theorem createdAt_of_create {arguments : StoredResourceArguments X} {candidate : StoredResourceV1 X}
    {time : DateTime} {createdAt : String} (read : utcTimestampOfDatetime time = .ok createdAt)
    (given : arguments.createdAt = .str createdAt)
    (created : StoredResourceV1.create X arguments = .ok candidate) :
    candidate.createdAt = createdAt := by
  have normal := (StoredResourceV1.isBuilt_of_create created).createdAt
  rw [given, utcTimestampOfDatetime_ok read] at normal
  exact (Except.ok.inj normal).symm

/-- The candidate that a program returns is stamped by the clock. -/
abbrev ReturnsStamped (readings : DateTime → Prop) (result : Except PyError (StoredResourceV1 X)) :
    Prop :=
  ∀ candidate, result = .ok candidate → Stamped readings candidate.createdAt

theorem returnsStamped_error (error : PyError) :
    ReturnsStamped readings (.error error : Except PyError (StoredResourceV1 X)) :=
  fun _ same => by cases same

/-- Building a candidate ends with reading the clock. -/
theorem concludes_stamped {arguments : String → StoredResourceArguments X}
    (given : ∀ createdAt, (arguments createdAt).createdAt = .str createdAt) :
    (currentTimestamp >>= fun createdAt =>
      settle (StoredResourceV1.create X (arguments createdAt)) : PyM X _).run.Concludes
      (Furnished T readings) (request.Attempts T readings) (ReturnsStamped readings) := by
  refine concludes_bind concludes_currentTimestamp_stamped (fun error _ => returnsStamped_error error) ?_
  intro createdAt read candidate created
  obtain ⟨time, reading, stamped⟩ := read createdAt rfl
  have same := createdAt_of_create stamped (given createdAt) created
  exact ⟨time, reading, same ▸ stamped⟩

theorem concludes_candidate_configuration (asked : ConfigurationRequest X) :
    (ConfigurationPublisher.candidate asked).run.Concludes (Furnished T readings)
      (request.Attempts T readings) (ReturnsStamped readings) := by
  have failed : ∀ {A : Type} {result : Except PyError A} (error : PyError), result = .error error →
      ReturnsStamped readings (.error error : Except PyError (StoredResourceV1 X)) :=
    fun error _ => returnsStamped_error error
  refine concludes_settle_bind failed fun identity _ => concludes_settle_bind failed fun schema _ => ?_
  refine concludes_bind (concludes_beside (uses_invoke trivial))
    (fun error _ => returnsStamped_error error) fun validated _ => ?_
  refine concludes_settle_bind failed fun payload _ => concludes_settle_bind failed fun encoded _ => ?_
  refine concludes_settle_bind failed fun media _ => concludes_settle_bind failed fun annotations _ => ?_
  exact concludes_stamped fun _ => rfl

theorem concludes_candidate_artifact (asked : ArtifactRequest X)
    (content : ArtifactPublisher.Content) (objectRef : Option ObjectReference) :
    (ArtifactPublisher.candidate asked content objectRef).run.Concludes (Furnished T readings)
      (request.Attempts T readings) (ReturnsStamped readings) := by
  cases objectRef with
  | none => exact returnsStamped_error _
  | some reference =>
    refine concludes_settle_bind (fun error _ => returnsStamped_error error) fun annotations _ => ?_
    exact concludes_stamped fun _ => rfl

theorem concludes_commits {candidate : StoredResourceV1 X}
    {same : StoredResourceFields X → StoredResourceFields X → Bool} (reflexive : IgnoresVersion same)
    (stamped : Stamped readings candidate.createdAt) :
    (inTransaction (publication same candidate) : PyM X _).run.Concludes (Furnished T readings)
      (request.Attempts T readings) fun _ => True :=
  ⟨Or.inr (Or.inr ⟨candidate, same, reflexive, stamped, rfl⟩), fun _ _ => trivial⟩

theorem get_beside : Capability.get .metadata ∈ beside := by decide

theorem query_beside : Capability.query .channels ∈ beside := by decide

theorem point_beside : Capability.put .channels ∈ beside := by decide

theorem concludes_publishConfiguration (asked : ConfigurationRequest X) :
    (ConfigurationPublisher.publish asked).run.Concludes (Furnished T readings)
      (request.Attempts T readings) fun _ => True := by
  refine concludes_bind (concludes_candidate_configuration asked) (fun _ _ => trivial) ?_
  intro candidate stamped
  refine concludes_bind (concludes_beside (needs_lift (uses_getResource _ _ get_beside)))
    (fun _ _ => trivial) fun found _ => ?_
  cases found with
  | some existing =>
    exact concludes_beside (needs_existingReceipt _ _ _ _ _ _ _ query_beside point_beside)
  | none =>
    refine concludes_attempt_bind (concludes_commits sameConfiguration_ignoresVersion
      (stamped candidate rfl)) fun result _ => ?_
    cases result with
    | ok stored =>
      exact concludes_beside (uses_bind (needs_promotePublished _ _ _ _ _ query_beside point_beside)
        fun _ => trivial)
    | error error =>
      dsimp only
      split
      · refine concludes_beside (uses_bind (needs_lift (uses_getResource _ _ get_beside)) fun found => ?_)
        cases found with
        | some winner => exact needs_existingReceipt _ _ _ _ _ _ _ query_beside point_beside
        | none => trivial
      · trivial

namespace ArtifactPublisher

theorem needs_incomplete_beside (candidate : StoredResourceV1 X) (error : PyError) :
    Needs (incomplete candidate error) (· ∈ beside) := by
  refine uses_bind ?_ fun _ => trivial
  unfold recordOrphan
  split
  · trivial
  · refine uses_bind needs_currentTimestamp fun _ => uses_settle_bind fun orphan _ => ?_
    refine uses_attempt_bind (needs_lift (uses_putOrphan _ (by decide) (by decide))) fun result => ?_
    cases result <;> trivial

theorem concludes_publishMetadata_stamped (asked : ArtifactRequest X) {candidate : StoredResourceV1 X}
    (idempotent : Bool) (stamped : Stamped readings candidate.createdAt) :
    (publishMetadata asked candidate idempotent).run.Concludes (Furnished T readings)
      (request.Attempts T readings) fun _ => True := by
  refine concludes_attempt_bind (concludes_commits sameArtifact_ignoresVersion stamped)
    fun result _ => ?_
  cases result with
  | ok stored =>
    exact concludes_beside (uses_bind (needs_promotePublished _ _ _ _ _ query_beside point_beside)
      fun _ => trivial)
  | error error =>
    dsimp only
    split
    · trivial
    · split
      · refine concludes_beside (uses_bind (needs_lift (uses_getResource _ _ get_beside)) fun found => ?_)
        cases found with
        | some winner => exact needs_existingReceipt _ _ _ _ _ _ _ query_beside point_beside
        | none => exact needs_incomplete_beside _ _
      · exact concludes_beside (needs_incomplete_beside _ _)

variable {asked : ArtifactRequest X} {content : Content} {payload : PayloadReference}

theorem concludes_objectPut (object : ObjectRequest)
    (permitted : request.Attempts T readings (.object object.call)) :
    (ObjectRepository.put object.objectId object.payload object.mediaType object.digest
      object.byteLength object.userMetadata object.creationContext object.provenance :
      PyM X _).run.Concludes (Furnished T readings) (request.Attempts T readings) fun _ => True := by
  rw [run_putObject]
  exact ⟨permitted, fun _ _ => trivial⟩

theorem concludes_putObject_supplied (read : contentOf asked = .ok content)
    (supplies : Supplies T T payload asked.payload) :
    (putObject asked content payload).run.Concludes (Furnished T readings)
      (PublishRequest.Attempts (.artifact asked) T readings) fun _ => True := by
  refine concludes_attempt_bind (concludes_objectPut (objectRequest asked content payload)
    (Or.inr (Or.inl ⟨asked, content, payload, rfl, read, supplies, rfl⟩))) fun result _ => ?_
  · have verified : ∀ metadata idempotent, Needs (do
        settle (verifyObjectMetadata X metadata content)
        return (metadata, idempotent) : PyM X (ObjectMetadata × Bool)) (· ∈ beside) := fun _ _ =>
      uses_settle_bind fun _ _ => trivial
    cases result with
    | ok metadata => exact concludes_beside (verified metadata false)
    | error error =>
      dsimp only
      split
      · refine concludes_beside (uses_bind (uses_settle_bind fun _ _ => ?_) fun metadata =>
          verified metadata true)
        exact uses_bind (uses_invoke (show Capability.objectStat ∈ beside by decide)) fun _ => trivial
      · trivial

theorem concludes_publishRegistered_supplied (read : contentOf asked = .ok content)
    (supplies : Supplies T T payload asked.payload) :
    (publishRegistered asked content payload).run.Concludes (Furnished T readings)
      (PublishRequest.Attempts (.artifact asked) T readings) fun _ => True := by
  refine concludes_bind (concludes_beside (needs_lift (uses_getResource _ _ get_beside)))
    (fun _ _ => trivial) fun found _ => ?_
  cases found with
  | some existing =>
    dsimp only
    unfold publishExisting
    split
    · trivial
    · exact concludes_beside (uses_bind (needs_candidate _ _ _) fun _ =>
        needs_existingReceipt _ _ _ _ _ _ _ query_beside point_beside)
  | none =>
    refine concludes_bind (concludes_putObject_supplied read supplies) (fun _ _ => trivial) ?_
    intro pair _
    refine concludes_bind (concludes_candidate_artifact _ _ _) (fun _ _ => trivial) ?_
    exact fun candidate stamped => concludes_publishMetadata_stamped _ _ (stamped candidate rfl)

/-- What registering the payload of a request tells. -/
def IsSupplied (X : Platform) (T : World) (payload : ArtifactPayload)
    (expectedDigest expectedLength : JsonValue) (result : Except PyError RegisteredPayload) : Prop :=
  ∀ registered, result = .ok registered →
    declared X payload expectedDigest expectedLength =
      .ok (registered.digest, registered.byteLength) ∧ Supplies T T registered.reference payload

theorem isSupplied_error {payload : ArtifactPayload} {expectedDigest expectedLength : JsonValue}
    (error : PyError) : IsSupplied X T payload expectedDigest expectedLength (.error error) :=
  fun _ same => by cases same

theorem concludes_registerSource {source : PayloadSource} {digest : String} {length : Nat} :
    (invoke (Call.registerPayload source digest length : Call X) : PyM X _).run.Concludes
      (Furnished T readings) (request.Attempts T readings) fun result =>
        ∀ reference, result = .ok reference → T.payload? reference.token = some source :=
  ⟨Or.inl trivial, fun _ told => told⟩

theorem concludes_registerDeclared_supplied (source : PayloadSource)
    (expectedDigest expectedLength : JsonValue) :
    (registerDeclared source expectedDigest expectedLength : PyM X _).run.Concludes
      (Furnished T readings) (request.Attempts T readings)
      (IsSupplied X T (.source source) expectedDigest expectedLength) := by
  refine concludes_settle_bind (fun error _ => isSupplied_error error) fun digest digested => ?_
  refine concludes_settle_bind (fun error _ => isSupplied_error error) fun length measured => ?_
  refine concludes_bind concludes_registerSource (fun error _ => isSupplied_error error) ?_
  intro reference told registered same
  cases same
  exact ⟨bind_ok.mpr ⟨_, digested, bind_ok.mpr ⟨_, measured, rfl⟩⟩, told reference rfl⟩

theorem concludes_registerPayload_supplied (payload : ArtifactPayload)
    (expectedDigest expectedLength : JsonValue) :
    (registerPayload payload expectedDigest expectedLength : PyM X _).run.Concludes
      (Furnished T readings) (request.Attempts T readings)
      (IsSupplied X T payload expectedDigest expectedLength) := by
  cases payload with
  | bytes raw =>
    refine concludes_settle_bind (fun error _ => isSupplied_error error) fun _ matching => ?_
    refine concludes_bind concludes_registerSource (fun error _ => isSupplied_error error) ?_
    intro reference told registered same
    cases same
    exact ⟨bind_ok.mpr ⟨_, matching, rfl⟩, told reference rfl⟩
  | reference reference =>
    refine concludes_settle_bind (fun error _ => isSupplied_error error) fun digest digested => ?_
    refine concludes_settle_bind (fun error _ => isSupplied_error error) fun length measured => ?_
    intro registered same
    cases same
    exact ⟨bind_ok.mpr ⟨_, digested, bind_ok.mpr ⟨_, measured, rfl⟩⟩, rfl, rfl⟩
  | source source => exact concludes_registerDeclared_supplied source _ _
  | factory source => exact concludes_registerDeclared_supplied source _ _
  | stream source => exact concludes_registerDeclared_supplied source _ _
  | unsupported =>
    refine concludes_settle_bind (fun error _ => isSupplied_error error) fun digest _ => ?_
    exact concludes_settle_bind (fun error _ => isSupplied_error error) fun length _ =>
      isSupplied_error _

theorem concludes_publish_supplied (asked : ArtifactRequest X) :
    (publish asked).run.Concludes (Furnished T readings)
      (PublishRequest.Attempts (.artifact asked) T readings) fun _ => True := by
  refine concludes_settle_bind (fun _ _ => trivial) fun identity named => ?_
  refine concludes_settle_bind (fun _ _ => trivial) fun media typed => ?_
  refine concludes_bind (concludes_registerPayload_supplied _ _ _) (fun _ _ => trivial) ?_
  intro registered supplied
  obtain ⟨identified, supplies⟩ := supplied registered rfl
  have read : contentOf asked = .ok ⟨identity, registered.digest, registered.byteLength, media⟩ :=
    bind_ok.mpr ⟨_, named, bind_ok.mpr ⟨_, typed, bind_ok.mpr ⟨_, identified, rfl⟩⟩⟩
  refine concludes_ensuring (concludes_publishRegistered_supplied read supplies)
    (concludes_beside ?_) fun _ _ => trivial
  unfold releaseOwned
  split
  · exact uses_invoke trivial
  · trivial

end ArtifactPublisher

/-- An attempt makes no other calls. -/
theorem PublishRequest.concludes_program (request : PublishRequest X) :
    request.program.run.Concludes (Furnished T readings) (request.Attempts T readings)
      fun _ => True := by
  cases request with
  | configuration asked => exact concludes_publishConfiguration asked
  | artifact asked => exact ArtifactPublisher.concludes_publish_supplied asked

end

end ConfigArtifact
