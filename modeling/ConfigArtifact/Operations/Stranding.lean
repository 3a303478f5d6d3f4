import ConfigArtifact.Interaction.Verdict
import ConfigArtifact.Operations.Alone.Artifact
import ConfigArtifact.Operations.Recording

/-! How a publication ends that leaves its Object without metadata.

Only some of what may fail after the Object put is answered by recording an orphan.
Told that the Object is there and that no row is, a publication records its orphan
and fails as incomplete if its arguments build a candidate and no other failure has
come in between; otherwise it raises something else.
-/

set_option autoImplicit false

namespace ConfigArtifact

open Interaction Fallible MetadataRepository
open StoredResourceFields (sameArtifact)

namespace ArtifactPublisher

variable {X : Platform} {T : World} {kind : PyError → Bool} {told : Truth (runtime X)}
  {request : ArtifactRequest X} {content : Content}

/-- A value, or an error that is let pass. -/
def isLetPass {A : Type} (passes : PyError → Bool) : Except PyError A → Bool
  | .ok _ => true
  | .error error => passes error

/-- Replies that let a publication go on to record its orphan. -/
def isForgiven : (call : Call X) → Except PyError call.Result → Bool
  | .structured (.get .metadata filter), reply =>
    match filter with
    | [(_, .str key)] =>
      (readRecord (parseResource X) "structured resource result" key false reply).isOk
    | _ => true
  | .object (.put ..), reply => isLetPass PyError.isObjectConflict
    (reply >>= fun result => ObjectRepository.metadataOf X result "Object put result")
  | .object (.stat _), reply =>
    (reply >>= fun result => ObjectRepository.metadataOf X result "Object stat result").isOk
  | .transaction _, reply => isLetPass (fun error => !error.hasType .identityConflict) reply
  | .clock, reply => (reply >>= utcTimestampOfDatetime).isOk
  | .registerPayload .., reply => reply.isOk
  | .releasePayload _, reply => reply.isOk
  | _, _ => true

/-- The replies that are forgiven. -/
abbrev Forgiven (X : Platform) : Truth (runtime X) := fun call reply => isForgiven call reply = true

/-- The candidate could not be recorded: its put was refused, and not for the same orphan. -/
def FailsToRecord (told : Truth (runtime X)) (orphan : OrphanCandidateV1 X) : Prop :=
  ∃ error, told (.structured (.put .orphanCandidates (orphan.toRecord X))) (.error error) ∧
    (error.hasCategory .conflict = true → ∃ reread,
      told (.structured (.get .orphanCandidates [("candidateId", .str (orphan.candidateId X))])) reread ∧
      ∀ existing, readRecord (parseOrphan X) "structured orphan result" (orphan.candidateId X) false
        reread = .ok (some existing) → sameOrphanIdentity existing orphan = false)

/-- An orphan of the resource is recorded, unless recording it has failed. -/
def ReportsOrphan (T : World) (told : Truth (runtime X)) (resourceId : String) : Prop :=
  ∃ orphan : OrphanCandidateV1 X, orphan.resourceId = resourceId ∧ Describes T orphan ∧
    ((∃ stored, Records T stored ∧ sameOrphanIdentity stored orphan = true) ∨
      FailsToRecord told orphan)

/-- The publication has failed as incomplete. -/
def IsIncomplete (result : Except PyError (PublicationReceipt X)) : Prop :=
  ∃ error, result = .error error ∧ error.hasType .incompletePublication = true

/-- A publication whose replies are forgiven reports its orphan, if its arguments build a candidate. -/
def Strandeds (T : World) (kind : PyError → Bool) (told : Truth (runtime X))
    (request : ArtifactRequest X) (content : Content)
    (result : Except PyError (PublicationReceipt X)) : Prop :=
  Builds request content ∧ IsIncomplete result ∧
      ReportsOrphan T told (content.identity.resourceId X) ∨
    ¬Builds request content ∧ Aborts kind result

theorem isBounded_failed : isBounded "metadata-publication-failed" 512 = true := by decide

/-- The Object that is held passes the check of its publisher. -/
theorem Held.verified {metadata : ObjectMetadata} (held : Held X T content)
    (stored : IsObject T (content.identity.objectId X) metadata) :
    metadata.objectRef = objectRefOf X content ∧ verifyObjectMetadata X metadata content = .ok () := by
  obtain ⟨object, found, rfl⟩ := stored
  obtain ⟨other, again, named, digest, length, media⟩ := held
  rw [found] at again
  cases again
  refine ⟨named, raiseIf_ok.mpr ?_⟩
  rw [named]
  simp [objectRefOf, digest, length, media]

/-- A call whose reply is forgiven when what it is read as is let pass. -/
theorem decides_call {A : Type} {call : Call X} {read : Except PyError call.Result → Except PyError A}
    {passes : PyError → Bool} {well badly : Except PyError A → Prop}
    (forgives : ∀ reply, isForgiven call reply = isLetPass passes (read reply))
    (returns : ∀ reply value, told call reply → read reply = .ok value → well (.ok value))
    (passed : ∀ reply error, told call reply → read reply = .error error → passes error = true →
      well (.error error))
    (stopped : ∀ reply error, told call reply → read reply = .error error → passes error = false →
      badly (.error error)) :
    Program.Decides told (Forgiven X) well badly (.call call fun reply => .done (read reply)) := by
  intro reply truth
  change (isForgiven call reply = true → well (read reply)) ∧
    (¬isForgiven call reply = true → badly (read reply))
  rw [forgives]
  cases same : read reply with
  | ok value => exact ⟨fun _ => returns reply value truth same, fun other => absurd rfl other⟩
  | error error =>
    refine ⟨fun passing => passed reply error truth same passing, fun other => ?_⟩
    exact stopped reply error truth same (Bool.eq_false_iff.mpr other)

/-- A call whose reply is forgiven when it can be read. -/
theorem decides_read {A : Type} {call : Call X} {read : Except PyError call.Result → Except PyError A}
    {well : Except PyError A → Prop} (forgives : ∀ reply, isForgiven call reply = (read reply).isOk)
    (raises : ∀ reply, told call reply → RaisesOnly kind (read reply))
    (returns : ∀ reply value, told call reply → read reply = .ok value → well (.ok value)) :
    Program.Decides told (Forgiven X) well (Aborts kind)
      (.call call fun reply => .done (read reply)) := by
  have nothing : ∀ reply, isForgiven call reply = isLetPass (fun _ => false) (read reply) := by
    intro reply
    rw [forgives]
    cases read reply <;> rfl
  refine decides_call nothing returns (fun _ _ _ _ impossible => Bool.noConfusion impossible) ?_
  exact fun reply error truth same _ => ⟨error, rfl, raises reply truth error same⟩

section

variable (tolerates : Tolerates kind)
  (covers : ∀ call reply, told call reply → Told X T True kind call reply)

include covers

theorem decides_getResource {resourceId : String} (absent : T.row? .metadata resourceId = none) :
    (StructuredM.lift (getResource X resourceId false) : PyM X _).run.Decides told (Forgiven X)
      (fun result => result = .ok none) (Aborts kind) := by
  refine @decides_read X kind told _ (.structured (.get .metadata [("resourceId", .str resourceId)]))
    (readRecord (parseResource X) "structured resource result" resourceId false) _ (fun _ => rfl)
    (fun reply truth => (covers _ reply truth resourceId rfl).1 trivial) fun reply found truth read => ?_
  cases found with
  | none => rfl
  | some existing => exact absurd absent ((covers _ reply truth resourceId rfl).2 existing read)

theorem decides_stat (reference : ObjectReference) :
    (ObjectRepository.stat reference : PyM X _).run.Decides told (Forgiven X)
      (fun result => ∃ metadata, result = .ok metadata ∧ IsObject T reference.objectId metadata)
      (Aborts kind) := by
  rw [run_stat]
  refine decides_read (fun _ => rfl) (fun reply truth => (covers _ reply truth).2 trivial) ?_
  exact fun reply metadata truth read => ⟨metadata, rfl, (covers _ reply truth).1 metadata read⟩

theorem decides_registering {source : PayloadSource} {digest : String} {length : Nat}
    {well : Except PyError RegisteredPayload → Prop}
    (holds : ∀ reference, well (.ok ⟨reference, digest, length, true⟩)) :
    (do let reference ← invoke (Call.registerPayload source digest length : Call X)
        return ⟨reference, digest, length, true⟩ : PyM X RegisteredPayload).run.Decides told
      (Forgiven X) well (Aborts kind) := by
  let read (reply : Except PyError PayloadReference) : Except PyError RegisteredPayload :=
    reply >>= fun reference => .ok ⟨reference, digest, length, true⟩
  have same : (do let reference ← invoke (Call.registerPayload source digest length : Call X)
                  return ⟨reference, digest, length, true⟩ : PyM X RegisteredPayload).run =
      .call (.registerPayload source digest length : Call X) fun reply => .done (read reply) := by
    apply congrArg (Program.call _)
    funext reply
    cases reply <;> rfl
  rw [same]
  refine decides_read (fun reply => ?_) (fun reply truth => ?_) fun reply registered _ made => ?_
  · cases reply <;> rfl
  · exact ((covers _ reply truth) trivial).bind fun _ => .ok _
  · obtain ⟨reference, -, made⟩ := bind_ok.mp made
    cases made
    exact holds reference

theorem decides_releaseOwned (registered : RegisteredPayload) :
    (releaseOwned registered : PyM X Unit).run.Decides told (Forgiven X)
      (fun result => result = .ok ()) (Aborts kind) := by
  unfold releaseOwned
  split
  · exact @decides_read X kind told Unit (.releasePayload registered.reference) id _ (fun _ => rfl)
      (fun reply truth => covers _ reply truth trivial) fun _ _ _ _ => rfl
  · exact rfl

theorem raises_releaseOwned (registered : RegisteredPayload) :
    (releaseOwned registered : PyM X Unit).run.Concludes told (fun _ => True) fun result =>
      result = .ok () ∨ Aborts kind result := by
  unfold releaseOwned
  split
  · refine ⟨trivial, fun reply truth => ?_⟩
    cases reply with
    | ok value => exact .inl rfl
    | error error => exact .inr ⟨error, rfl, covers _ _ truth trivial error rfl⟩
  · exact .inl rfl

include tolerates covers

theorem decides_currentTimestamp :
    (currentTimestamp : PyM X String).run.Decides told (Forgiven X)
      (fun result => ∃ text time, result = .ok text ∧ utcTimestampOfDatetime time = .ok text)
      (Aborts kind) := by
  rw [run_currentTimestamp]
  refine decides_read (fun _ => rfl) (fun reply truth => ?_) fun reply text truth read => ?_
  · exact ((covers _ reply truth) trivial).bind fun time =>
      (utcTimestampOfDatetime_fails time).mono tolerates
  · obtain ⟨time, -, counted⟩ := bind_ok.mp read
    exact ⟨text, time, rfl, counted⟩

omit tolerates

/-- Recording an orphan goes on whatever it is answered. -/
theorem decides_putOrphan {orphan : OrphanCandidateV1 X} {badly : Except PyError _ → Prop} :
    (StructuredM.lift (putOrphan orphan) : PyM X _).run.Decides told (Forgiven X)
      (fun _ => (∃ stored, Records T stored ∧ sameOrphanIdentity stored orphan = true) ∨
        FailsToRecord told orphan) badly := by
  rw [run_putOrphan]
  intro reply truth
  refine ⟨fun _ => ?_, fun unforgiven => absurd rfl unforgiven⟩
  unfold storedOrphan
  cases reply with
  | ok result =>
    obtain ⟨stored, -, records, same⟩ := (covers _ _ truth).2 orphan rfl result rfl
    exact .inl ⟨stored, records, same⟩
  | error error =>
    dsimp only
    split
    · next conflict =>
      rw [lift_bind]
      intro reread heard
      refine ⟨fun _ => ?_, fun unforgiven => absurd rfl unforgiven⟩
      change Program.Decides _ _ _ _ (andThen _ (readRecord (parseOrphan X) _ _ _ reread))
      have looked := (covers _ reread heard) (orphan.candidateId X) rfl
      -- Only the same orphan takes the place of the refused put.
      have failed : (∀ existing, readRecord (parseOrphan X) "structured orphan result"
          (orphan.candidateId X) false reread = .ok (some existing) →
            sameOrphanIdentity existing orphan = false) → FailsToRecord told orphan :=
        fun other => ⟨error, truth, fun _ => ⟨reread, heard, other⟩⟩
      cases found : readRecord (parseOrphan X) "structured orphan result" (orphan.candidateId X)
          false reread with
      | error other =>
        refine .inr (failed fun existing same => ?_)
        rw [found] at same
        cases same
      | ok existing =>
        cases existing with
        | none =>
          refine .inr (failed fun existing same => ?_)
          rw [found] at same
          cases same
        | some existing =>
          rw [andThen_ok]
          dsimp only
          split
          · next matching => exact .inl ⟨existing, (looked.2 existing found).1, matching⟩
          · next other =>
            refine .inr (failed fun existing' same => ?_)
            rw [found] at same
            cases same
            exact Bool.eq_false_iff.mpr other
    · next plain => exact .inr ⟨error, truth, fun conflict => absurd conflict plain⟩

include tolerates

/-- A candidate for the Object that is held is reported. -/
theorem decides_incomplete {resource : StoredResourceV1 X} {error : PyError}
    (planned : IsCandidate request resource) (read : contentOf request = .ok content)
    (held : Held X T content) (consistent : Consistent X T) :
    (incomplete resource error).run.Decides told (Forgiven X)
      (fun result => IsIncomplete result ∧ ReportsOrphan T told (content.identity.resourceId X))
      (Aborts kind) := by
  obtain ⟨-, -, -, other, again, identity, digest, length, -, reference⟩ := planned.built
  cases read.symm.trans again
  obtain ⟨object, found, named, hash, count, -⟩ := held
  have owner : resource.resourceId = content.identity.resourceId X := by rw [← identity]; rfl
  have valid := ResourceIdentity.isResourceId_resourceId X content.identity
  have hex : isDigest content.digest = true := by
    rw [← hash, ← (consistent.intact _ object found).1]
    exact X.isDigest_digestOf _
  have recorded : (recordOrphan resource "metadata-publication-failed").run.Decides told (Forgiven X)
      (fun result => (∃ orphan, result = .ok orphan) ∧
        ReportsOrphan T told (content.identity.resourceId X)) (Aborts kind) := by
    unfold recordOrphan
    rw [reference]
    dsimp only
    apply decides_bind (decides_currentTimestamp tolerates covers)
    · rintro error ⟨_, _, same, -⟩
      cases same
    · rintro discoveredAt ⟨_, time, same, counted⟩
      cases same
      have sound : IsOrphanCandidate X ⟨resource.resourceId, objectRefOf X content, resource.digest,
          resource.byteLength, "metadata-publication-failed", discoveredAt, .recorded, none⟩ := {
        resourceId := owner ▸ valid
        objectRef := X.check_artifact valid hex
        digest := digest ▸ hex
        matching := congrArg some digest.symm
        reason := isBounded_failed
        discoveredAt := utcTimestampOfDatetime_ok counted }
      let orphan : OrphanCandidateV1 X := ⟨_, sound⟩
      have describes : Describes T orphan := by
        refine ⟨object, ?_, named.symm, digest.trans hash.symm, length.trans count.symm⟩
        change T.object? (objectIdOf resource.resourceId) = some object
        rw [owner]
        exact found
      apply decides_settle_bind
      · intro error refused
        cases (show Except.ok orphan = .error error from orphan.create_self.symm.trans refused)
      · intro created making
        cases (show Except.ok orphan = .ok created from orphan.create_self.symm.trans making)
        refine decides_attempt_bind (decides_putOrphan covers) (fun result reports => ?_)
          fun _ (impossible : False) => impossible.elim
        cases result <;> exact ⟨⟨_, rfl⟩, orphan, owner, describes, reports⟩
  unfold incomplete
  apply decides_bind recorded
  · rintro error ⟨⟨_, same⟩, -⟩
    cases same
  · rintro orphan ⟨-, reports⟩
    exact ⟨⟨_, rfl, rfl⟩, reports⟩

omit tolerates

omit covers in
theorem decides_verified {metadata : ObjectMetadata} (held : Held X T content)
    (stored : IsObject T (content.identity.objectId X) metadata) (idempotent : Bool) :
    (settle (verifyObjectMetadata X metadata content) >>= fun _ =>
      pure (metadata, idempotent) : PyM X (ObjectMetadata × Bool)).run.Decides told (Forgiven X)
      (fun result => ∃ metadata idempotent, result = .ok (metadata, idempotent) ∧
        metadata.objectRef = objectRefOf X content) (Aborts kind) := by
  obtain ⟨named, verified⟩ := held.verified stored
  rw [verified]
  exact ⟨metadata, idempotent, rfl, named⟩

/-- A put is forgiven if it is accepted, or refused because the Object is there. -/
theorem decides_put (asked : ObjectRequest) :
    (ObjectRepository.put asked.objectId asked.payload asked.mediaType asked.digest asked.byteLength
      asked.userMetadata asked.creationContext asked.provenance : PyM X _).run.Decides told (Forgiven X)
      (fun result => (∀ metadata, result = .ok metadata → IsObject T asked.objectId metadata) ∧
        ∀ error, result = .error error → error.isObjectConflict = true)
      (fun result => ∃ error, result = .error error ∧ kind error = true ∧
        error.isObjectConflict = false) := by
  rw [run_putObject]
  refine decides_call (fun _ => rfl) (fun reply metadata truth read => ?_)
    (fun reply error truth read conflict => ?_) fun reply error truth read other => ?_
  · refine ⟨?_, fun _ same => by cases same⟩
    rintro _ ⟨⟩
    exact (covers _ reply truth).1 metadata read
  · refine ⟨fun _ same => (by cases same), ?_⟩
    rintro _ ⟨⟩
    exact conflict
  · exact ⟨error, rfl, (covers _ reply truth).2 trivial error read, other⟩

/-- The Object phase ends with the Object that is there, unless it is not told of it. -/
theorem decides_putObject (held : Held X T content) (payload : PayloadReference) :
    (putObject request content payload).run.Decides told (Forgiven X)
      (fun result => ∃ metadata idempotent, result = .ok (metadata, idempotent) ∧
        metadata.objectRef = objectRefOf X content) (Aborts kind) := by
  have named := ResourceIdentity.isResourceId_resourceId X content.identity
  unfold putObject
  apply decides_attempt_bind (decides_put covers (objectRequest request content payload))
  · rintro result ⟨stored, conflicts⟩
    cases result with
    | ok metadata => exact decides_verified held (stored metadata rfl) false
    | error error =>
      have reference := X.objectReference_artifact named none (by simp)
      dsimp only
      rw [if_pos (conflicts error rfl)]
      unfold statExisting
      rw [show X.objectReference X.objectResource (content.identity.objectId X) none =
        .ok ⟨X.objectResource, content.identity.objectId X, none⟩ from reference]
      apply decides_bind (decides_stat covers _)
      · rintro error ⟨_, same, -⟩
        cases same
      · rintro metadata ⟨_, same, stored⟩
        cases same
        exact decides_verified held stored true
  · rintro _ ⟨error, rfl, known, other⟩
    dsimp only
    rw [if_neg (by rw [other]; exact Bool.false_ne_true)]
    exact ⟨error, rfl, known⟩

include tolerates

/-- The candidate is built in time, or its arguments build none at any time. -/
theorem decides_candidate (external : FailsWithData X) (read : contentOf request = .ok content) :
    (candidate request content (some (objectRefOf X content))).run.Decides told (Forgiven X)
      (fun result => (∃ resource, result = .ok resource ∧ IsCandidate request resource) ∨
        ¬Builds request content ∧ Aborts kind result) (Aborts kind) := by
  unfold candidate
  dsimp only
  apply decides_settle_bind
  · intro error refused
    refine .inr ⟨?_, error, rfl, tolerates _ (annotationsOf_fails external error refused)⟩
    rintro ⟨arguments, planned, -⟩
    obtain ⟨_, annotated, -⟩ := bind_ok.mp planned
    rw [refused] at annotated
    cases annotated
  · intro annotations annotated
    have planned : plan request content =
        .ok (candidateArguments request content (objectRefOf X content) annotations) :=
      bind_ok.mpr ⟨_, annotated, rfl⟩
    apply decides_bind (decides_currentTimestamp tolerates covers)
    · rintro error ⟨_, _, same, -⟩
      cases same
    · rintro createdAt ⟨_, time, same, counted⟩
      cases same
      change _ ∨ _
      cases created : StoredResourceV1.create X
          (candidateArguments request content (objectRefOf X content) annotations createdAt) with
      | ok resource => exact .inl ⟨resource, rfl, content, _, time, _, read, planned, counted, created⟩
      | error error =>
        refine .inr ⟨?_, error, rfl, ?_⟩
        · rintro ⟨arguments, again, builds⟩
          cases planned.symm.trans again
          obtain ⟨resource, made⟩ := builds time _ counted
          rw [created] at made
          cases made
        · exact ((StoredResourceV1.postInit_fails external).witness.bind fun _ =>
            RaisesOnly.ok _).plain.mono tolerates error created

/-- Over an Object without a row, the metadata phase fails as incomplete. -/
theorem decides_publishMetadata {resource : StoredResourceV1 X}
    (planned : IsCandidate request resource) (read : contentOf request = .ok content)
    (held : Held X T content) (consistent : Consistent X T)
    (absent : T.row? .metadata (content.identity.resourceId X) = none) (idempotent : Bool) :
    (publishMetadata request resource idempotent).run.Decides told (Forgiven X)
      (fun result => IsIncomplete result ∧ ReportsOrphan T told (content.identity.resourceId X))
      (Aborts kind) := by
  have missing : T.row? .metadata resource.resourceId = none := by
    obtain ⟨-, -, -, other, again, identity, -⟩ := planned.built
    cases read.symm.trans again
    rwa [← identity] at absent
  have incomplete : ∀ error, (incomplete resource error).run.Decides told (Forgiven X)
      (fun result => IsIncomplete result ∧ ReportsOrphan T told (content.identity.resourceId X))
      (Aborts kind) := fun error =>
    decides_incomplete tolerates covers planned read held consistent
  have commits : (inTransaction (publication sameArtifact resource) : PyM X _).run.Decides told
      (Forgiven X) (fun result => ∃ error, result = .error error ∧
        error.hasType .identityConflict = false) (fun result => ∃ error, result = .error error ∧
        kind error = true ∧ error.hasType .identityConflict = true) := by
    refine @decides_call X told _ (.transaction (publication sameArtifact resource).run) id
      (fun error => !error.hasType .identityConflict) _ _ (fun _ => rfl) ?_ ?_ ?_
    · intro reply stored truth (same : reply = .ok stored)
      exact absurd missing ((covers _ reply truth).2 resource rfl stored same)
    · intro reply error _ _ other
      exact ⟨error, rfl, by simpa using other⟩
    · intro reply error truth (same : reply = .error error) conflict
      exact ⟨error, rfl, (covers _ reply truth).1 trivial error same, by simpa using conflict⟩
  unfold publishMetadata
  apply decides_attempt_bind commits
  · rintro _ ⟨error, rfl, other⟩
    dsimp only
    rw [if_neg (by rw [other]; exact Bool.false_ne_true)]
    split
    · -- The row that has caused the conflict is not there any more, or never was.
      apply decides_bind (decides_getResource covers missing)
      · rintro _ ⟨⟩
      · rintro _ ⟨⟩
        exact incomplete error
    · exact incomplete error
  · rintro _ ⟨error, rfl, known, conflict⟩
    dsimp only
    rw [if_pos conflict]
    exact ⟨error, rfl, known⟩

theorem decides_publishRegistered (external : FailsWithData X) (consistent : Consistent X T)
    (read : contentOf request = .ok content) (held : Held X T content)
    (absent : T.row? .metadata (content.identity.resourceId X) = none) (payload : PayloadReference) :
    (publishRegistered request content payload).run.Decides told (Forgiven X)
      (Strandeds T kind told request content) (Aborts kind) := by
  unfold publishRegistered
  apply decides_bind (decides_getResource covers absent)
  · rintro _ ⟨⟩
  · rintro _ ⟨⟩
    apply decides_bind (decides_putObject covers held payload)
    · rintro error ⟨_, _, same, -⟩
      cases same
    · rintro ⟨metadata, idempotent⟩ ⟨_, _, same, named⟩
      cases same
      dsimp only
      rw [named]
      apply decides_bind (decides_candidate tolerates covers external read)
      · rintro error (⟨_, same, -⟩ | ⟨unbuilt, _, same, known⟩)
        · cases same
        · cases same
          exact .inr ⟨unbuilt, error, rfl, known⟩
      · rintro resource (⟨_, same, planned⟩ | ⟨-, _, same, -⟩)
        · cases same
          refine (decides_publishMetadata tolerates covers planned read held consistent absent
            idempotent).mono fun result ended => ?_
          exact .inl ⟨planned.builds read, ended⟩
        · cases same

omit tolerates

/-- A payload is registered with what is declared of it. -/
theorem decides_registerPayload {payload : ArtifactPayload} {expectedDigest expectedLength : JsonValue}
    {digest : String} {length : Nat}
    (settled : declared X payload expectedDigest expectedLength = .ok (digest, length)) :
    (registerPayload payload expectedDigest expectedLength : PyM X _).run.Decides told (Forgiven X)
      (fun result => ∃ registered, result = .ok registered ∧ registered.digest = digest ∧
        registered.byteLength = length) (Aborts kind) := by
  have declares : ∀ source : PayloadSource, (do
        let digest ← requiredDigest expectedDigest
        let length ← requiredLength expectedLength
        .ok (digest, length) : Except PyError (String × Nat)) = .ok (digest, length) →
      (registerDeclared source expectedDigest expectedLength : PyM X _).run.Decides told (Forgiven X)
        (fun result => ∃ registered, result = .ok registered ∧ registered.digest = digest ∧
          registered.byteLength = length) (Aborts kind) := by
    intro source settled
    obtain ⟨_, digested, settled⟩ := bind_ok.mp settled
    obtain ⟨_, measured, same⟩ := bind_ok.mp settled
    cases same
    unfold registerDeclared
    rw [digested, measured]
    exact decides_registering covers fun reference => ⟨_, rfl, rfl, rfl⟩
  cases payload with
  | bytes raw =>
    obtain ⟨_, matching, same⟩ := bind_ok.mp settled
    cases same
    unfold registerPayload
    dsimp only
    rw [matching]
    exact decides_registering covers fun reference => ⟨_, rfl, rfl, rfl⟩
  | reference reference =>
    obtain ⟨_, digested, settled⟩ := bind_ok.mp settled
    obtain ⟨_, measured, same⟩ := bind_ok.mp settled
    cases same
    unfold registerPayload
    dsimp only
    rw [digested, measured]
    exact ⟨_, rfl, rfl, rfl⟩
  | source source => exact declares source settled
  | factory source => exact declares source settled
  | stream source => exact declares source settled
  | unsupported => cases settled

include tolerates

/-- Told that its Object is there and that no row is, a publication whose replies are all forgiven
reports its orphan if its arguments build a candidate, and any other raises something else. -/
theorem decides_publish (external : FailsWithData X) (consistent : Consistent X T)
    (read : contentOf request = .ok content) (held : Held X T content)
    (absent : T.row? .metadata (content.identity.resourceId X) = none) :
    (publish request).run.Decides told (Forgiven X) (Strandeds T kind told request content)
      (Aborts kind) := by
  obtain ⟨identity, identified, rest⟩ := bind_ok.mp read
  obtain ⟨media, typed, last⟩ := bind_ok.mp rest
  obtain ⟨⟨digest, length⟩, settled, same⟩ := bind_ok.mp last
  cases same
  unfold publish
  rw [identified, typed, settle_ok, settle_ok, pure_bind, pure_bind]
  refine decides_bind (decides_registerPayload covers settled) ?_ ?_
  · rintro error ⟨_, same, -⟩
    cases same
  · rintro registered ⟨_, same, rfl, rfl⟩
    cases same
    exact decides_ensuring
      (decides_publishRegistered tolerates covers external consistent read held absent _)
      (decides_releaseOwned covers registered) (raises_releaseOwned covers registered)

end

end ArtifactPublisher

end ConfigArtifact
