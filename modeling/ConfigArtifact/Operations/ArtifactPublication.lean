import ConfigArtifact.Operations.Publication
import ConfigArtifact.Store.Objects
import ConfigArtifact.Store.Orphans

/-! What one artifact publication does among others.

The Object comes first: whether this call commits it or finds it, its metadata
is verified before a candidate names it, and Objects never change. What follows
is a publication of the candidate as for configurations.
-/

set_option autoImplicit false

namespace ConfigArtifact

open Interaction Fallible Relation MetadataRepository
open StoredResourceFields (sameArtifact)

variable {X : Platform} {P : Policy X} {first s t u : World} {faults valid : Prop}
  {history : List (Event (runtime X) World)}

namespace ArtifactPublisher

/-- The digest and length a registration settles on. -/
def declared (X : Platform) (payload : ArtifactPayload) (expectedDigest expectedLength : JsonValue) :
    Except PyError (String × Nat) :=
  match payload with
  | .bytes raw => do
    matchDeclared (X.digestOf raw) raw.length expectedDigest expectedLength
    .ok (X.digestOf raw, raw.length)
  | .reference reference => do
    let digest ← requiredDigest (if expectedDigest.truthy then expectedDigest
      else optionalJson .str reference.expectedDigest)
    let length ← requiredLength (if expectedLength ≠ .null then expectedLength
      else optionalJson .int reference.expectedLength)
    .ok (digest, length)
  | .source _ | .factory _ | .stream _ => do
    let digest ← requiredDigest expectedDigest
    let length ← requiredLength expectedLength
    .ok (digest, length)
  | .unsupported => .error (.typeError "artifact payload must be bytes or a stream")

/-- What a request is to publish under its identity. -/
def contentOf (request : ArtifactRequest X) : Except PyError Content := do
  let identity ← ResourceIdentity.create request.namespace request.kind request.name request.version
  let mediaType ← mediaType request.mediaTypeValue
  let (digest, length) ← declared X request.payload request.expectedDigest request.expectedLength
  .ok ⟨identity, digest, length, mediaType⟩

/-- The reference of the Object that holds some content. -/
def objectRefOf (X : Platform) (content : Content) : ObjectReference :=
  ⟨X.objectResource, content.identity.objectId X, some content.digest⟩

/-- The arguments of the candidate at each time. -/
def plan (request : ArtifactRequest X) (content : Content) :
    Except PyError (String → StoredResourceArguments X) := do
  let annotations ← annotationsOf X request.annotations
  .ok (candidateArguments request content (objectRefOf X content) annotations)

/-- A resource the request asks to publish, at some time. -/
def IsCandidate (request : ArtifactRequest X) (resource : StoredResourceV1 X) : Prop :=
  ∃ content arguments time createdAt, contentOf request = .ok content ∧
    plan request content = .ok arguments ∧ utcTimestampOfDatetime time = .ok createdAt ∧
    StoredResourceV1.create X (arguments createdAt) = .ok resource

/-- A candidate is built from the content at any time. -/
def Builds (request : ArtifactRequest X) (content : Content) : Prop :=
  ∃ arguments, plan request content = .ok arguments ∧ ∀ time createdAt,
    utcTimestampOfDatetime time = .ok createdAt →
      ∃ resource, StoredResourceV1.create X (arguments createdAt) = .ok resource

/-- The payload yields the declared bytes each time it is opened. -/
def Yields (X : Platform) (s : World) (digest : String) (length : Nat) : ArtifactPayload → Prop
  | .reference reference => IsReplayable X s reference digest length
  | .source source | .factory source | .stream source =>
    (∃ content, source.yields content) ∧
      ∀ content, source.yields content → IsIntact X digest length content
  | .bytes _ | .unsupported => True

/-- The put that `_put_object` issues. -/
def objectRequest (request : ArtifactRequest X) (content : Content) (payload : PayloadReference) :
    ObjectRequest where
  resourceId := content.identity.resourceId X
  payload
  mediaType := content.mediaType
  digest := content.digest
  byteLength := content.byteLength
  userMetadata := userMetadata X content.identity
  creationContext := creationContext request.actor
  provenance := match request.provenance with
    | none => []
    | some provenance => provenance.toDict

/-- What the Object surface answers to the metadata of a request, before it calls. -/
def surface (request : ArtifactRequest X) (content : Content) : Except PyError Unit :=
  X.checkMetadata <| committedMetadata X (content.identity.objectId X) content.digest
    content.byteLength content.mediaType (userMetadata X content.identity)
    (creationContext request.actor)
    (match request.provenance with
      | none => []
      | some provenance => provenance.toDict)

/-- Arguments that the Object surface accepts and from which a candidate is built at any
time, and a replayable payload. -/
def IsValid (s : World) (request : ArtifactRequest X) : Prop :=
  ∃ content, contentOf request = .ok content ∧ surface request content = .ok () ∧
    Builds request content ∧ Yields X s content.digest content.byteLength request.payload

/-- A stored row or Object that is not what the request asks to publish. -/
def Clashes (request : ArtifactRequest X) (s : World) : Prop :=
  (∃ (existing : StoredResourceV1 X) (content : Content), Stores s existing ∧
    contentOf request = .ok content ∧ existing.resourceId = content.identity.resourceId X ∧
    (existing.profile ≠ .artifact ∨ existing.digest ≠ content.digest ∨
      existing.byteLength ≠ content.byteLength ∨ existing.mediaType ≠ content.mediaType)) ∨
  (∃ existing candidate : StoredResourceV1 X, Stores s existing ∧ IsCandidate request candidate ∧
    existing.resourceId = candidate.resourceId ∧
    sameArtifact candidate.toStoredResourceFields existing.toStoredResourceFields = false) ∨
  ∃ object content, contentOf request = .ok content ∧
    s.object? (content.identity.objectId X) = some object ∧
    (object.metadata.digest ≠ content.digest ∨ object.metadata.byteLength ≠ content.byteLength ∨
      object.metadata.mediaType ≠ content.mediaType)

/-- The Object that holds some content is committed. -/
def Held (X : Platform) (s : World) (content : Content) : Prop :=
  ∃ object, s.object? (content.identity.objectId X) = some object ∧
    object.metadata.objectRef = objectRefOf X content ∧ object.metadata.digest = content.digest ∧
    object.metadata.byteLength = content.byteLength ∧ object.metadata.mediaType = content.mediaType

theorem Held.later {content : Content} (held : Held X s content) (evolves : Evolves X s t) :
    Held X t content := by
  obtain ⟨object, found, rest⟩ := held
  exact ⟨object, evolves.objects _ _ found, rest⟩

section

variable {request : ArtifactRequest X} {content : Content}

theorem identity_of_contentOf (read : contentOf request = .ok content) :
    ResourceIdentity.create request.namespace request.kind request.name request.version =
      .ok content.identity := by
  obtain ⟨_, named, read⟩ := bind_ok.mp read
  obtain ⟨_, -, read⟩ := bind_ok.mp read
  obtain ⟨_, -, read⟩ := bind_ok.mp read
  cases read
  exact named

theorem IsCandidate.built {resource : StoredResourceV1 X} (planned : IsCandidate request resource) :
    resource.state = .published ∧ resource.profile = .artifact ∧ resource.recordVersion = none ∧
      ∃ content, contentOf request = .ok content ∧ resource.identity = content.identity ∧
        resource.digest = content.digest ∧ resource.byteLength = content.byteLength ∧
        resource.mediaType = content.mediaType ∧
        resource.objectRef = some (objectRefOf X content) := by
  obtain ⟨content, arguments, time, createdAt, read, planned, -, created⟩ := planned
  obtain ⟨annotations, -, same⟩ := bind_ok.mp planned
  cases same
  have built := StoredResourceV1.isBuilt_of_create created
  refine ⟨built.state, built.profile, (Except.ok.inj built.recordVersion).symm, content, read, ?_⟩
  have named := built.identity
  change ResourceIdentity.create (.str content.identity.namespace) (.str content.identity.kind)
    (.str content.identity.name) (.str content.identity.version) = _ at named
  rw [content.identity.create_self] at named
  have digested := (digest_ok built.digest).1
  have measured := built.byteLength
  change byteLength (natJson content.byteLength) _ = _ at measured
  rw [byteLength_natJson] at measured
  have typed := (mediaType_ok built.mediaType).1
  have contained := built.content
  obtain ⟨-, -, reference, given, same, -, -⟩ :=
    @StoredResourceV1.artifactContent_ok X (candidateArguments request content
      (objectRefOf X content) annotations createdAt) _ _ contained
  injection same with same _ _
  cases given
  exact ⟨(Except.ok.inj named).symm, (JsonValue.str.inj digested).symm, (Except.ok.inj measured).symm,
    (JsonValue.str.inj typed).symm, same⟩

theorem IsCandidate.backed {resource : StoredResourceV1 X} (planned : IsCandidate request resource)
    (read : contentOf request = .ok content) (held : Held X s content) : IsBacked s resource := by
  obtain ⟨-, -, -, other, again, identity, digest, length, media, reference⟩ := planned.built
  cases read.symm.trans again
  obtain ⟨object, found, named, hashed, measured, typed⟩ := held
  refine ⟨object, ?_, ?_, hashed.trans digest.symm, measured.trans length.symm, typed.trans media.symm⟩
  · change s.object? (objectIdOf (resource.identity.resourceId X)) = some object
    rw [identity]
    exact found
  · rw [reference, named]

theorem safe_candidate {A : Type} {objectRef : Option ObjectReference}
    {next : Except PyError (StoredResourceV1 X) → Program (runtime X) A}
    {post : Postcondition (runtime X) World A} (kept : (following P first).invariant s)
    (read : contentOf request = .ok content) (named : objectRef = some (objectRefOf X content))
    (rest : ∀ t, (following P first).invariant t → Changes P s t → ∀ more, Quiet more →
      ∀ result, (match result with
        | .ok resource => IsCandidate request resource
        | .error _ => faults ∨ ¬Builds request content) →
      (next result).Safe (following P first) (serving X faults) post (history ++ more) t) :
    ((candidate request content objectRef : PyM X _).run.bind next).Safe (following P first)
      (serving X faults) post history s := by
  unfold candidate
  rw [named]
  dsimp only
  rw [run_settle_bind]
  cases annotated : annotationsOf X request.annotations with
  | error error =>
    have := rest s kept .refl [] quiet_nil (.error error) (Or.inr fun ⟨_, planned, _⟩ => by
      obtain ⟨_, given, -⟩ := bind_ok.mp planned
      cases annotated.symm.trans given)
    rwa [List.append_nil] at this
  | ok annotations =>
    have planned : plan request content =
        .ok (candidateArguments request content (objectRefOf X content) annotations) :=
      bind_ok.mpr ⟨_, annotated, rfl⟩
    rw [andThen_ok, run_bind, Program.bind_assoc]
    refine safe_currentTimestamp fun t kept moved tick before after result timed => ?_
    have quiet : Quiet [tick] := quiet_nil.snoc (by rw [before, after])
    cases result with
    | error error => exact rest t kept moved [tick] quiet (.error error) (Or.inl timed)
    | ok createdAt =>
      obtain ⟨time, counted⟩ := timed
      refine rest t kept moved [tick] quiet _ ?_
      cases created : StoredResourceV1.create X (candidateArguments request content
          (objectRefOf X content) annotations createdAt) with
      | ok resource => exact ⟨content, _, time, createdAt, read, planned, counted, created⟩
      | error error =>
        refine Or.inr fun ⟨_, planned', builds⟩ => ?_
        cases planned.symm.trans planned'
        obtain ⟨resource, built⟩ := builds time createdAt counted
        cases created.symm.trans built

/-- How an artifact publication may end, when it does not promote. -/
def Ends (faults valid : Prop) (P : Policy X) (first : World) (request : ArtifactRequest X) :
    Postcondition (runtime X) World (Except PyError (PublicationReceipt X)) :=
  fun history t result => Unpromoted request.channel request.expectedPointerVersion →
    PublicationEnds faults valid P first sameArtifact (IsCandidate request) (Clashes request)
      history t result

/-- A publication over the row its lookup or its conflict has found. -/
theorem safe_existing {candidate existing : StoredResourceV1 X}
    (kept : (following P first).invariant s) (planned : IsCandidate request candidate)
    (seen : Seen P first s existing) (named : existing.resourceId = candidate.resourceId)
    (quiet : faults ∨ Quiet history) :
    (existingReceipt .artifact sameArtifact candidate existing request.channel
      request.expectedPointerVersion request.actor : PyM X _).run.Safe (following P first)
      (serving X faults) (Ends faults valid P first request) history s := by
  refine safe_existingReceipt kept seen.live ?_ ?_ fun given _ _ _ alone => absurd alone given
  · rintro - matching t receipt moved rfl idempotent -
    refine ⟨candidate, planned, named, matching, seen.later moved, ?_⟩
    exact quiet.imp id fun quiet => Or.inl ⟨idempotent, quiet⟩
  · intro different t error moved conflict _
    obtain ⟨earlier, began, since, stores⟩ := seen
    refine quiet.imp id fun quiet => Or.inr ⟨conflict, quiet, earlier, began, since.trans moved, ?_⟩
    exact Or.inr (Or.inl ⟨existing, candidate, stores, planned, named, different⟩)

/-- The row of an artifact names the Object of its own identity. -/
theorem objectRef_of_stored {existing : StoredResourceV1 X} (consistent : Consistent X s)
    (stores : Stores s existing) (artifact : existing.profile = .artifact)
    (named : existing.resourceId = content.identity.resourceId X)
    (hashed : existing.digest = content.digest) :
    existing.objectRef = some (objectRefOf X content) := by
  obtain ⟨object, found, backs⟩ := consistent.backed existing stores artifact
  rw [backs.reference, consistent.objects _ object found, backs.digest, hashed, named]
  rfl

theorem safe_publishExisting {existing : StoredResourceV1 X}
    (kept' : (following P first).invariant s) (read : contentOf request = .ok content)
    (sound : valid → Builds request content) (stores : Stores s existing)
    (named : existing.resourceId = content.identity.resourceId X) (quiet : Quiet history) :
    (publishExisting request content existing).run.Safe (following P first) (serving X faults)
      (Ends faults valid P first request) history s := by
  unfold publishExisting
  split
  · next different =>
    intro t moved _ _
    refine Or.inr (Or.inr ⟨rfl, quiet, s, kept'.2, moved, Or.inl ?_⟩)
    exact ⟨existing, content, stores, read, named, different⟩
  · next matching =>
    rw [not_or, not_or, not_or, not_not, not_not, not_not, not_not] at matching
    rw [run_bind]
    refine safe_candidate kept' read
      (objectRef_of_stored kept'.1 stores matching.1 named matching.2.1) ?_
    intro t kept moved more silent result planned
    have hushed := quiet.append silent
    cases result with
    | error error =>
      exact safe_stop fun _ _ => planned.imp id fun invalid => Or.inl fun holds => invalid (sound holds)
    | ok candidate =>
      have planned : IsCandidate request candidate := planned
      obtain ⟨-, -, -, other, again, identity, -⟩ := planned.built
      cases read.symm.trans again
      refine safe_existing kept planned ((seen_now kept'.2 stores).later moved) ?_ (Or.inr hushed)
      rw [named, ← identity]
      rfl

/-- What the Object phase tells. -/
def ObjectPhase (X : Platform) (faults valid : Prop) (content : Content) (s : World) :
    Except PyError (ObjectMetadata × Bool) → Prop
  | .ok (metadata, _) => metadata.objectRef = objectRefOf X content ∧ Held X s content
  | .error error => faults ∨ ¬valid ∨ error.hasType .identityConflict = true ∧ ∃ object,
      s.object? (content.identity.objectId X) = some object ∧
        (object.metadata.digest ≠ content.digest ∨
          object.metadata.byteLength ≠ content.byteLength ∨
          object.metadata.mediaType ≠ content.mediaType)

theorem safe_verified (valid : Prop) {A : Type} {object : StoredObject} {idempotent : Bool}
    {next : Except PyError (ObjectMetadata × Bool) → Program (runtime X) A}
    {post : Postcondition (runtime X) World A} (consistent : Consistent X s)
    (found : s.object? (content.identity.objectId X) = some object)
    (rest : ∀ result, ObjectPhase X faults valid content s result →
      (next result).Safe (following P first) (serving X faults) post history s) :
    ((settle (verifyObjectMetadata X object.metadata content) >>= fun _ =>
      pure (object.metadata, idempotent) : PyM X _).run.bind next).Safe (following P first)
      (serving X faults) post history s := by
  have reference := consistent.objects _ object found
  rw [run_settle_bind]
  unfold verifyObjectMetadata raiseIf
  split
  · next different =>
    refine rest (.error _) (Or.inr (Or.inr ⟨rfl, object, found, ?_⟩))
    rw [reference] at different
    rcases different with wrong | wrong | different
    · exact absurd rfl wrong
    · exact absurd rfl wrong
    · exact different
  · next matching =>
    rw [not_or, not_or, not_or, not_or, not_not, not_not, not_not, not_not, not_not] at matching
    obtain ⟨-, -, digest, length, media⟩ := matching
    have named : object.metadata.objectRef = objectRefOf X content := by
      rw [reference, digest]
      rfl
    exact rest (.ok _) ⟨named, object, found, named, digest, length, media⟩

theorem safe_putObject (valid : Prop) {A : Type} {payload : PayloadReference}
    {next : Except PyError (ObjectMetadata × Bool) → Program (runtime X) A}
    {post : Postcondition (runtime X) World A} (quiet : Quiet history)
    (accepted : valid → surface request content = .ok ())
    (sound : valid → ∀ t, Changes P s t →
      IsReplayable X t payload content.digest content.byteLength)
    (permitted : ∀ bytes, IsIntact X content.digest content.byteLength bytes →
      P.commits ((objectRequest request content payload).stored X bytes))
    (rest : ∀ t, (following P first).invariant t → Changes P s t → ∀ final, Quiet final →
      ∀ result, ObjectPhase X faults valid content t result →
      (next result).Safe (following P first) (serving X faults) post final t) :
    ((putObject request content payload).run.bind next).Safe (following P first) (serving X faults)
      post history s := by
  have named := ResourceIdentity.isResourceId_resourceId X content.identity
  unfold putObject
  rw [run_attempt_bind, Program.bind_assoc]
  refine ConfigArtifact.safe_putObject (objectRequest request content payload) rfl named
    permitted ?_
  intro t u _ kept moved event before after same result outcome
  have silent : Quiet (history ++ [event]) := quiet.snoc (by rw [before, after, same])
  cases result with
  | ok metadata =>
    obtain ⟨bytes, -, intact, absent, rfl, rfl⟩ := outcome
    exact safe_verified valid kept.1 (World.object?_setObject_self _ _ _)
      (rest _ kept moved _ silent)
  | error error =>
    -- A valid put is only refused by an Object that is there.
    have present : faults ∨ ¬valid ∨ u.object? (content.identity.objectId X) ≠ none ∧
        error.isObjectConflict = true := by
      rcases outcome with faulted | ⟨rfl, present | broken | refused⟩
      · exact Or.inl faulted
      · exact Or.inr (Or.inr present)
      · exact Or.inr (Or.inl fun holds => broken (sound holds u moved))
      · exact Or.inr (Or.inl fun holds => by cases refused.symm.trans (accepted holds))
    dsimp only
    split
    · have reference := X.objectReference_artifact named none (by simp)
      unfold statExisting
      rw [show X.objectReference X.objectResource (content.identity.objectId X) none =
        .ok ⟨X.objectResource, content.identity.objectId X, none⟩ from reference]
      change (((ObjectRepository.stat _ : PyM X _) >>= fun metadata => _).run.bind next).Safe _ _ _ _ _
      rw [run_bind, Program.bind_assoc]
      refine safe_stat fun v kept later stat before' after' result statted => ?_
      have hushed : Quiet (history ++ [event] ++ [stat]) := silent.snoc (by rw [before', after'])
      cases result with
      | ok metadata =>
        obtain ⟨object, found, rfl⟩ := statted
        exact safe_verified valid kept.1 (Option.filter_eq_some_iff.mp found).1
          (rest v kept (moved.trans later) _ hushed)
      | error error =>
        refine rest v kept (moved.trans later) _ hushed (.error error) ?_
        rcases present, statted with ⟨faulted | invalid | ⟨there, -⟩, faulted | ⟨missing, -⟩⟩
        · exact Or.inl faulted
        · exact Or.inl faulted
        · exact Or.inl faulted
        · exact Or.inr (Or.inl invalid)
        · exact Or.inl faulted
        -- Objects stay, so the one that has refused the put is found.
        · obtain ⟨object, found⟩ := Option.ne_none_iff_exists'.mp there
          unfold World.find? at missing
          rw [later.evolves.objects _ object found] at missing
          cases missing
    · next other =>
      refine rest u kept moved _ silent (.error error) ?_
      rcases present with faulted | invalid | ⟨-, conflict⟩
      · exact Or.inl faulted
      · exact Or.inr (Or.inl invalid)
      · exact absurd conflict other

/-- Reporting an orphan changes nothing but the candidates. -/
theorem safe_incomplete {candidate : StoredResourceV1 X} {error : PyError}
    {post : Postcondition (runtime X) World (Except PyError (PublicationReceipt X))}
    (ends : ∀ final t error, post final t (.error error)) :
    (incomplete candidate error).run.Safe (following P first) (serving X faults) post history s := by
  unfold incomplete recordOrphan
  rw [run_bind]
  split
  · exact fun t _ _ => ends _ _ _
  · next objectRef _ =>
    rw [run_bind, Program.bind_assoc]
    refine safe_currentTimestamp fun t kept _ tick _ _ result _ => ?_
    cases result with
    | error error => exact fun t _ _ => ends _ _ _
    | ok discoveredAt =>
      rw [andThen_ok, run_settle_bind]
      generalize OrphanCandidateV1.create X _ = created
      cases created with
      | error error => exact fun t _ _ => ends _ _ _
      | ok orphan =>
        rw [andThen_ok, run_attempt_bind, Program.bind_assoc]
        refine safe_putOrphan fun u _ _ final result _ => ?_
        cases result <;> exact fun t _ _ => ends _ _ _

theorem safe_publishMetadata {candidate : StoredResourceV1 X} {objectIdempotent : Bool}
    (read : contentOf request = .ok content) (planned : IsCandidate request candidate)
    (permitted : P.publishes candidate) (held : Held X s content) (quiet : Quiet history) :
    (publishMetadata request candidate objectIdempotent).run.Safe (following P first)
      (serving X faults) (Ends faults valid P first request) history s := by
  unfold publishMetadata
  rw [run_attempt_bind]
  refine safe_publication sameArtifact_ignoresVersion planned.built.1
    (fun t moved _ => planned.backed read (held.later moved.evolves)) permitted ?_
  intro t u _ kept _ commit before after result outcome
  cases result with
  | ok stored =>
    obtain ⟨version, stamp, absent, rfl, rfl⟩ := outcome
    have once : Once (CommitsAs candidate (candidate.withVersion (some version)))
        (history ++ [commit]) := by
      refine quiet.once ?_
      rw [before, after]
      exact ⟨version, stamp, absent, rfl, rfl⟩
    have stores := stores_publish (t := t) candidate version stamp
    dsimp only
    rw [run_bind]
    refine safe_promotePublished kept stores.live ?_ ?_
    · rintro - v later - -
      exact ⟨candidate, planned, rfl, sameArtifact_ignoresVersion candidate _,
        (seen_now kept.2 stores).later later, Or.inr (Or.inr once)⟩
    · intro given result final v _
      cases result <;> exact fun _ _ _ alone => absurd alone given
  | error error =>
    have silent : faults ∨ Quiet (history ++ [commit]) :=
      outcome.imp id fun ⟨same, _⟩ => quiet.snoc (by rw [before, after, same])
    -- Only a fault leads to an incomplete publication.
    have stopped : faults → ∀ final t error, Ends faults valid P first request final t
        (.error error) := fun faulted _ _ _ _ => Or.inl faulted
    dsimp only
    split
    · next wrong =>
      refine safe_stop fun v => ?_
      rcases outcome with faulted | ⟨-, -, -, other⟩
      · exact stopped faulted _ _ _
      · rw [wrong] at other
        cases other
    · split
      · rw [run_bind]
        refine safe_getResource fun v kept further reread before' after' result looked => ?_
        have hushed : faults ∨ Quiet (history ++ [commit] ++ [reread]) :=
          silent.imp id fun quiet => quiet.snoc (by rw [before', after'])
        match result, looked with
        | .error error, faulted =>
          refine safe_stop fun w => stopped (faulted.resolve_right ?_) _ _ _
          rintro ⟨⟨⟩, -⟩
        | .ok (some winner), looked =>
          exact safe_existing kept planned (seen_now kept.2 looked.1) looked.2 hushed
        | .ok none, ⟨_, gone⟩ =>
          refine safe_incomplete (stopped ?_)
          rcases gone with faulted | absent
          · exact faulted
          · refine outcome.resolve_right fun ⟨same, present, _⟩ => ?_
            exact further.evolves.metadata _ (same ▸ present) absent
      · next other =>
        exact safe_incomplete
          (stopped (outcome.resolve_right fun ⟨_, _, conflict, _⟩ => other conflict))

theorem safe_publishRegistered (valid : Prop) {payload : PayloadReference} (quiet : Quiet history)
    (read : contentOf request = .ok content) (accepted : valid → surface request content = .ok ())
    (builds : valid → Builds request content)
    (replayable : valid → IsReplayable X s payload content.digest content.byteLength)
    (publishes : ∀ candidate, IsCandidate request candidate → P.publishes candidate)
    (commits : ∀ bytes, IsIntact X content.digest content.byteLength bytes →
      P.commits ((objectRequest request content payload).stored X bytes)) :
    (publishRegistered request content payload).run.Safe (following P first) (serving X faults)
      (Ends faults valid P first request) history s := by
  unfold publishRegistered
  rw [run_bind]
  refine safe_getResource fun t kept moved lookup before after result looked => ?_
  have looking : Quiet (history ++ [lookup]) := quiet.snoc (by rw [before, after])
  match result, looked with
  | .error error, faulted =>
    refine safe_stop fun _ _ => Or.inl (faulted.resolve_right ?_)
    rintro ⟨⟨⟩, -⟩
  | .ok (some existing), looked =>
    exact safe_publishExisting kept read builds looked.1 looked.2 looking
  | .ok none, _ =>
    rw [andThen_ok]
    dsimp only
    rw [run_bind]
    refine safe_putObject valid looking accepted (fun holds u later =>
      (replayable holds).later (Changes.evolves (moved.trans later))) commits ?_
    intro u kept _ more quiet result phase
    cases result with
    | error error =>
      intro v later _ _
      refine phase.imp id fun phase => phase.imp id fun ⟨conflict, object, found, different⟩ => ?_
      exact ⟨conflict, quiet, u, kept.2, later,
        Or.inr (Or.inr ⟨object, content, read, found, different⟩)⟩
    | ok pair =>
      obtain ⟨metadata, objectIdempotent⟩ := pair
      obtain ⟨named, held⟩ := phase
      rw [andThen_ok]
      dsimp only
      rw [run_bind]
      refine safe_candidate kept read (congrArg some named) ?_
      intro v kept later extra silent result planned
      have hushed := quiet.append silent
      cases result with
      | error error =>
        exact safe_stop fun _ _ => planned.imp id fun invalid =>
          Or.inl fun holds => invalid (builds holds)
      | ok candidate =>
        have planned : IsCandidate request candidate := planned
        exact safe_publishMetadata read planned (publishes candidate planned)
          (held.later later.evolves) hushed

/-- What registering the payload of a request tells; `s` is the state it started in. -/
def PayloadPhase (X : Platform) (faults : Prop) (payload : ArtifactPayload)
    (expectedDigest expectedLength : JsonValue) (s t : World) :
    Except PyError RegisteredPayload → Prop
  | .ok registered =>
    declared X payload expectedDigest expectedLength =
      .ok (registered.digest, registered.byteLength) ∧
    (Yields X s registered.digest registered.byteLength payload →
      IsReplayable X t registered.reference registered.digest registered.byteLength)
  | .error _ => faults ∨ ∀ identified, declared X payload expectedDigest expectedLength ≠
      .ok identified

theorem isReplayable_of_registered {source : PayloadSource} {reference : PayloadReference}
    {digest : String} {length : Nat} (registered : s.payload? reference.token = some source)
    (yields : (∃ content, source.yields content) ∧
      ∀ content, source.yields content → IsIntact X digest length content) :
    IsReplayable X s reference digest length := by
  obtain ⟨⟨content, delivered⟩, intact⟩ := yields
  refine ⟨⟨content, source, registered, delivered⟩, ?_⟩
  rintro other ⟨again, found, delivered⟩
  rw [registered] at found
  cases found
  exact intact other delivered

theorem safe_registerDeclared {A : Type} {source : PayloadSource}
    {expectedDigest expectedLength : JsonValue}
    {next : Except PyError RegisteredPayload → Program (runtime X) A}
    {post : Postcondition (runtime X) World A} (kept : (following P first).invariant s)
    (rest : ∀ t, (following P first).invariant t → Changes P s t → ∀ more, Quiet more →
      ∀ result, PayloadPhase X faults (.source source) expectedDigest expectedLength s t result →
      (next result).Safe (following P first) (serving X faults) post (history ++ more) t) :
    ((registerDeclared source expectedDigest expectedLength : PyM X _).run.bind next).Safe
      (following P first) (serving X faults) post history s := by
  unfold registerDeclared
  rw [run_settle_bind]
  cases digested : requiredDigest expectedDigest with
  | error error =>
    have := rest s kept .refl [] quiet_nil (.error error) (Or.inr fun identified given => by
      obtain ⟨_, accepted, -⟩ := bind_ok.mp given
      cases digested.symm.trans accepted)
    rwa [List.append_nil] at this
  | ok digest =>
    rw [andThen_ok, run_settle_bind]
    cases measured : requiredLength expectedLength with
    | error error =>
      have := rest s kept .refl [] quiet_nil (.error error) (Or.inr fun identified given => by
        obtain ⟨_, _, given⟩ := bind_ok.mp given
        obtain ⟨_, accepted, -⟩ := bind_ok.mp given
        cases measured.symm.trans accepted)
      rwa [List.append_nil] at this
    | ok length =>
      rw [andThen_ok, run_bind, Program.bind_assoc]
      refine safe_registerSource fun t u kept moved event before after same result registered => ?_
      have quiet : Quiet [event] := quiet_nil.snoc (by rw [before, after, same])
      cases result with
      | error error => exact rest u kept moved [event] quiet (.error error) (Or.inl registered)
      | ok reference =>
        refine rest u kept moved [event] quiet (.ok _) ⟨?_, isReplayable_of_registered registered⟩
        exact bind_ok.mpr ⟨_, digested, bind_ok.mpr ⟨_, measured, rfl⟩⟩

theorem safe_registerPayload {A : Type} {payload : ArtifactPayload}
    {expectedDigest expectedLength : JsonValue}
    {next : Except PyError RegisteredPayload → Program (runtime X) A}
    {post : Postcondition (runtime X) World A} (kept : (following P first).invariant s)
    (rest : ∀ t, (following P first).invariant t → Changes P s t → ∀ more, Quiet more →
      ∀ result, PayloadPhase X faults payload expectedDigest expectedLength s t result →
      (next result).Safe (following P first) (serving X faults) post (history ++ more) t) :
    ((registerPayload payload expectedDigest expectedLength : PyM X _).run.bind next).Safe
      (following P first) (serving X faults) post history s := by
  have still : ∀ result, PayloadPhase X faults payload expectedDigest expectedLength s s result →
      (next result).Safe (following P first) (serving X faults) post history s := by
    intro result phase
    have := rest s kept .refl [] quiet_nil result phase
    rwa [List.append_nil] at this
  unfold registerPayload
  cases payload with
  | bytes raw =>
    dsimp only
    rw [run_settle_bind]
    cases matching : matchDeclared (X.digestOf raw) raw.length expectedDigest expectedLength with
    | error error =>
      refine still (.error error) (Or.inr fun identified given => ?_)
      obtain ⟨_, accepted, -⟩ := bind_ok.mp given
      cases matching.symm.trans accepted
    | ok _ =>
      rw [andThen_ok, run_bind, Program.bind_assoc]
      refine safe_registerSource fun t u kept moved event before after same result registered => ?_
      have quiet : Quiet [event] := quiet_nil.snoc (by rw [before, after, same])
      cases result with
      | error error => exact rest u kept moved [event] quiet (.error error) (Or.inl registered)
      | ok reference =>
        refine rest u kept moved [event] quiet (.ok _) ⟨bind_ok.mpr ⟨_, matching, rfl⟩, fun _ => ?_⟩
        refine isReplayable_of_registered registered ⟨⟨raw, rfl⟩, ?_⟩
        rintro other rfl
        exact ⟨rfl, rfl⟩
  | reference reference =>
    dsimp only
    rw [run_settle_bind]
    cases digested : requiredDigest (if expectedDigest.truthy = true then expectedDigest
        else optionalJson .str reference.expectedDigest) with
    | error error =>
      refine still (.error error) (Or.inr fun identified given => ?_)
      obtain ⟨_, accepted, -⟩ := bind_ok.mp given
      cases digested.symm.trans accepted
    | ok digest =>
      rw [andThen_ok, run_settle_bind]
      cases measured : requiredLength (if expectedLength ≠ .null then expectedLength
          else optionalJson .int reference.expectedLength) with
      | error error =>
        refine still (.error error) (Or.inr fun identified given => ?_)
        obtain ⟨_, _, given⟩ := bind_ok.mp given
        obtain ⟨_, accepted, -⟩ := bind_ok.mp given
        cases measured.symm.trans accepted
      | ok length =>
        refine still (.ok _) ⟨bind_ok.mpr ⟨_, digested, bind_ok.mpr ⟨_, measured, rfl⟩⟩, id⟩
  | source source => exact safe_registerDeclared kept rest
  | factory source => exact safe_registerDeclared kept rest
  | stream source => exact safe_registerDeclared kept rest
  | unsupported =>
    dsimp only
    rw [run_settle_bind]
    cases requiredDigest expectedDigest with
    | error error => exact still (.error error) (Or.inr fun _ given => by cases given)
    | ok digest =>
      rw [andThen_ok, run_settle_bind]
      cases requiredLength expectedLength with
      | error error => exact still (.error error) (Or.inr fun _ given => by cases given)
      | ok length => exact still (.error _) (Or.inr fun _ given => by cases given)

theorem safe_publish (kept : (following P first).invariant s) (sound : valid → IsValid s request)
    (publishes : ∀ candidate, IsCandidate request candidate → P.publishes candidate)
    (commits : ∀ content payload bytes, contentOf request = .ok content →
      IsIntact X content.digest content.byteLength bytes →
        P.commits ((objectRequest request content payload).stored X bytes)) :
    (publish request).run.Safe (following P first) (serving X faults)
      (Ends faults valid P first request) [] s := by
  -- Arguments that name no content are not valid, wherever they are refused.
  have invalid : ∀ {final t error}, (∀ content, contentOf request ≠ .ok content) →
      Ends faults valid P first request final t (.error error) := by
    intro final t error none _
    refine Or.inr (Or.inl fun holds => ?_)
    obtain ⟨content, read, -⟩ := sound holds
    exact none content read
  unfold publish
  rw [run_settle_bind]
  cases named : ResourceIdentity.create request.namespace request.kind request.name
      request.version with
  | error error =>
    refine safe_stop fun _ => invalid fun content read => ?_
    obtain ⟨_, accepted, -⟩ := bind_ok.mp read
    cases named.symm.trans accepted
  | ok identity =>
    rw [andThen_ok, run_settle_bind]
    cases typed : mediaType request.mediaTypeValue with
    | error error =>
      refine safe_stop fun _ => invalid fun content read => ?_
      obtain ⟨_, _, read⟩ := bind_ok.mp read
      obtain ⟨_, accepted, -⟩ := bind_ok.mp read
      cases typed.symm.trans accepted
    | ok media =>
      rw [andThen_ok, run_bind]
      refine safe_registerPayload kept fun t kept moved more quiet result phase => ?_
      rw [List.nil_append]
      cases result with
      | error error =>
        refine safe_stop fun _ alone => ?_
        rcases phase with faulted | undeclared
        · exact Or.inl faulted
        · refine invalid (fun content read => ?_) alone
          obtain ⟨_, _, read⟩ := bind_ok.mp read
          obtain ⟨_, _, read⟩ := bind_ok.mp read
          obtain ⟨identified, accepted, -⟩ := bind_ok.mp read
          exact undeclared identified accepted
      | ok registered =>
        obtain ⟨identified, replayable⟩ := phase
        have read : contentOf request =
            .ok ⟨identity, registered.digest, registered.byteLength, media⟩ :=
          bind_ok.mpr ⟨_, named, bind_ok.mpr ⟨_, typed, bind_ok.mpr ⟨_, identified, rfl⟩⟩⟩
        rw [andThen_ok, run_ensuring, Program.safe_bind kept]
        refine (safe_publishRegistered valid quiet read ?_ ?_ ?_ publishes
          fun bytes intact => commits _ _ bytes read intact).weaken ?_
        · intro holds
          obtain ⟨content, again, accepted, -⟩ := sound holds
          cases read.symm.trans again
          exact accepted
        · intro holds
          obtain ⟨content, again, -, builds, -⟩ := sound holds
          cases read.symm.trans again
          exact builds
        · intro holds
          obtain ⟨content, again, -, -, yields⟩ := sound holds
          cases read.symm.trans again
          exact replayable yields
        · intro final u result kept ends
          -- The release runs last and writes nothing.
          refine safe_releaseOwned kept fun v _ later extra silent released outcome => ?_
          cases released with
          | ok _ =>
            intro w since _ alone
            exact (ends alone).later silent (later.trans since)
          | error error =>
            refine safe_stop fun _ _ => Or.inl (outcome.resolve_right ?_)
            rintro ⟨⟩

end

end ArtifactPublisher

end ConfigArtifact
