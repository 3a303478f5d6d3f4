import ConfigArtifact.Interaction.Conclusion
import ConfigArtifact.Models.Failures
import ConfigArtifact.Operations.Footprint

/-! What the recorders of orphans conclude from what they are told.

A publication whose metadata fails and a scan build a candidate from different
data: the candidate resource of a request, and the listed metadata of an Object.
Told the truth about the Objects, both describe a committed Object as the store
holds it, and told the truth about the rows too, neither finds another candidate
in the place of its own.
-/

set_option autoImplicit false

namespace ConfigArtifact

open Interaction Fallible MetadataRepository
open StoredResourceFields (sameArtifact)

variable {X : Platform} {T : World} {calm : Prop} {kind : PyError → Bool}

/-- The candidate says of a committed Object what the store holds. -/
def Describes (s : World) (orphan : OrphanCandidateV1 X) : Prop :=
  ∃ object, s.object? (objectIdOf orphan.resourceId) = some object ∧
    orphan.objectRef = object.metadata.objectRef ∧ orphan.digest = object.metadata.digest ∧
    orphan.byteLength = object.metadata.byteLength

theorem Describes.later {s : World} {orphan : OrphanCandidateV1 X} (describes : Describes s orphan)
    (evolves : Evolves X s T) : Describes T orphan := by
  obtain ⟨object, found, rest⟩ := describes
  exact ⟨object, evolves.objects _ _ found, rest⟩

/-- Two candidates for one Object are the same orphan, whatever their reasons, times and states. -/
theorem Describes.same {orphan other : OrphanCandidateV1 X} (describes : Describes T orphan)
    (also : Describes T other) (resource : orphan.resourceId = other.resourceId) :
    sameOrphanIdentity orphan other = true := by
  obtain ⟨object, found, reference, digest, length⟩ := describes
  obtain ⟨object', found', reference', digest', length'⟩ := also
  rw [resource, found'] at found
  cases found
  have named : orphan.candidateId X = other.candidateId X := by
    unfold OrphanCandidateFields.candidateId
    rw [resource, reference, reference', digest, digest']
  simp only [sameOrphanIdentity, Bool.and_eq_true, decide_eq_true_eq]
  exact ⟨⟨⟨⟨named, resource⟩, reference.trans reference'.symm⟩, digest.trans digest'.symm⟩,
    length.trans length'.symm⟩

theorem Describes.congr {orphan stored : OrphanCandidateV1 X} (describes : Describes T orphan)
    (same : sameOrphanIdentity stored orphan = true) : Describes T stored := by
  simp only [sameOrphanIdentity, Bool.and_eq_true, decide_eq_true_eq] at same
  obtain ⟨⟨⟨⟨-, resource⟩, reference⟩, digest⟩, length⟩ := same
  obtain ⟨object, found, reference', digest', length'⟩ := describes
  exact ⟨object, resource ▸ found, reference.trans reference', digest.trans digest',
    length.trans length'⟩

/-- An error of neither class that a publication raises on its own account. -/
def isPlain (error : PyError) : Bool :=
  !error.hasType .identityConflict && !error.hasType .incompletePublication

/-- A kind of errors that no plain error is kept out of. -/
abbrev Tolerates (kind : PyError → Bool) : Prop := ∀ error, isPlain error = true → kind error = true

theorem RaisesOnly.plain {A : Type} {result : Except PyError A} (raises : RaisesData result) :
    RaisesOnly isPlain result := by
  apply raises.mono
  intro error known
  cases error with
  | meridian error => cases known
  | _ => rfl

theorem utcTimestampOfDatetime_fails (time : DateTime) :
    RaisesOnly isPlain (utcTimestampOfDatetime time) := by
  unfold utcTimestampOfDatetime
  split
  · exact .error rfl
  · split
    · exact .ok _
    · exact .error rfl

theorem annotationsOf_fails (external : FailsWithData X) {annotations : JsonValue} :
    RaisesOnly isPlain (annotationsOf X annotations) := by
  unfold annotationsOf
  exact (canonicalMapping_fails external).plain

/-- The Object under an id has this metadata. -/
def IsObject (s : World) (objectId : String) (metadata : ObjectMetadata) : Prop :=
  ∃ object, s.object? objectId = some object ∧ object.metadata = metadata

/-- Replies that are true of a state. In a calm run calls only raise errors of a kind. -/
def Told (X : Platform) (T : World) (calm : Prop) (kind : PyError → Bool) : Truth (runtime X)
  | .object (.list _ _ _), reply =>
    (∀ page, (reply >>= ObjectRepository.pageOf X) = .ok page →
      ArtifactConsumer.AreCommitted T page.items) ∧
    (calm → RaisesOnly kind (reply >>= ObjectRepository.pageOf X))
  | .object (.put objectId _ _ _ _ _ _ _), reply =>
    let read := reply >>= fun result => ObjectRepository.metadataOf X result "Object put result"
    (∀ metadata, read = .ok metadata → IsObject T objectId metadata) ∧ (calm → RaisesOnly kind read)
  | .object (.stat reference), reply =>
    let read := reply >>= fun result => ObjectRepository.metadataOf X result "Object stat result"
    (∀ metadata, read = .ok metadata → IsObject T reference.objectId metadata) ∧
    (calm → RaisesOnly kind read)
  | .structured (.get .metadata filter), reply => ∀ key, filter = [("resourceId", .str key)] →
    let read := readRecord (parseResource X) "structured resource result" key false reply
    (calm → RaisesOnly kind read) ∧
      ∀ existing, read = .ok (some existing) → T.row? .metadata key ≠ none
  | .structured (.get .orphanCandidates filter), reply => ∀ key,
    filter = [("candidateId", .str key)] →
      let read := readRecord (parseOrphan X) "structured orphan result" key false reply
      (calm → RaisesOnly kind read) ∧ ∀ existing, read = .ok (some existing) →
        Records T existing ∧ existing.candidateId X = key
  | .structured (.put .orphanCandidates data), reply => (calm → RaisesOnly kind reply) ∧
    ∀ orphan : OrphanCandidateV1 X, data = orphan.toRecord X → ∀ result, reply = .ok result →
      ∃ stored, (recordOf result "structured orphan put result" >>= parseOrphan X) = .ok stored ∧
        Records T stored ∧ sameOrphanIdentity stored orphan = true
  | .transaction body, reply => (calm → RaisesOnly kind reply) ∧
    ∀ candidate : StoredResourceV1 X, body = (publication sameArtifact candidate).run →
      ∀ stored, reply = .ok stored → T.row? .metadata candidate.resourceId ≠ none
  | .structured _, _ => True
  | _, reply => calm → RaisesOnly kind reply

/-- The data of a candidate for a committed Object. -/
def IsReport (X : Platform) (T : World) (data : Mapping) : Prop :=
  ∃ orphan : OrphanCandidateV1 X, data = orphan.toRecord X ∧ Describes T orphan

/-- The calls of the package, where orphans are only recorded of committed Objects. -/
abbrev Reporting (X : Platform) (T : World) : Call X → Prop :=
  Call.IsIssued (fun _ => True) (IsReport X T)

section

variable {A : Type} {told : Truth (runtime X)} {program : Program (runtime X) A}

/-- A program that records no orphan only issues calls of the package. -/
theorem concludes_of_blind (blind : program.Blind (Call.IsUniform (fun _ => True) (IsReport X T))
    Call.Alike) : program.Concludes told (Reporting X T) fun _ => True :=
  (blind.uses.mono fun _ => Call.IsUniform.issued).concludes

end

theorem concludes_currentTimestamp (tolerates : Tolerates kind) :
    (currentTimestamp : PyM X String).run.Concludes (Told X T calm kind) (Reporting X T)
      fun result => (∀ text, result = .ok text → ∃ time, utcTimestampOfDatetime time = .ok text) ∧
        (calm → RaisesOnly kind result) := by
  rw [run_currentTimestamp]
  refine ⟨trivial, fun reply told => ⟨fun text read => ?_, fun given => ?_⟩⟩
  · obtain ⟨time, -, read⟩ := bind_ok.mp read
    exact ⟨time, read⟩
  · exact (told given).bind fun time => (utcTimestampOfDatetime_fails time).mono tolerates

theorem concludes_getResource (resourceId : String) :
    (StructuredM.lift (getResource X resourceId false) : PyM X _).run.Concludes (Told X T calm kind)
      (Reporting X T) fun result => (calm → RaisesOnly kind result) ∧
        ∀ existing, result = .ok (some existing) → T.row? .metadata resourceId ≠ none :=
  ⟨⟨resourceId, rfl⟩, fun _ told => told resourceId rfl⟩

/-- Nothing but the same orphan is recorded under the id of a committed Object's candidate. -/
def Unmistaken (X : Platform) (T : World) : Prop :=
  ∀ orphan existing : OrphanCandidateV1 X, Describes T orphan → Records T existing →
    existing.candidateId X = orphan.candidateId X → sameOrphanIdentity existing orphan = true

/-- What recording a candidate tells: the row that is there now is of the same orphan. -/
def Recorded (T : World) (calm : Prop) (kind : PyError → Bool) (orphan : OrphanCandidateV1 X)
    (result : Except PyError (OrphanCandidateV1 X)) : Prop :=
  (∀ stored, result = .ok stored → Records T stored ∧ sameOrphanIdentity stored orphan = true) ∧
    (calm → RaisesOnly kind result)

theorem concludes_putOrphan {orphan : OrphanCandidateV1 X} (describes : Describes T orphan)
    (unmistaken : calm → Unmistaken X T) :
    (StructuredM.lift (putOrphan orphan) : PyM X _).run.Concludes (Told X T calm kind) (Reporting X T)
      (Recorded T calm kind orphan) := by
  rw [run_putOrphan]
  refine ⟨⟨⟨_, keyOf_orphan orphan⟩, by simp, fun _ => ⟨orphan, rfl, describes⟩⟩, ?_⟩
  intro reply told
  unfold storedOrphan
  cases reply with
  | ok result =>
    obtain ⟨stored, read, records, same⟩ := told.2 orphan rfl result rfl
    change Recorded T calm kind orphan (recordOf _ _ >>= parseOrphan X)
    rw [read]
    refine ⟨?_, fun _ => .ok stored⟩
    rintro _ ⟨⟩
    exact ⟨records, same⟩
  | error error =>
    have failed : Recorded T calm kind orphan (.error error) :=
      ⟨nofun, fun given => .error (told.1 given error rfl)⟩
    dsimp only
    split
    · rw [lift_bind]
      refine ⟨⟨_, rfl⟩, fun reread looked => ?_⟩
      have looked := looked (orphan.candidateId X) rfl
      change Program.Concludes _ _ _ (andThen _ (readRecord (parseOrphan X) _ _ _ reread))
      cases found : readRecord (parseOrphan X) "structured orphan result" (orphan.candidateId X)
          false reread with
      | error other =>
        rw [found] at looked
        exact ⟨nofun, fun given => .error (looked.1 given other rfl)⟩
      | ok existing =>
        cases existing with
        | none => exact failed
        | some existing =>
          rw [found] at looked
          obtain ⟨records, named⟩ := looked.2 existing rfl
          rw [andThen_ok]
          dsimp only
          split
          · next matching =>
            refine ⟨?_, fun _ => .ok existing⟩
            rintro _ ⟨⟩
            exact ⟨records, matching⟩
          · next other =>
            refine ⟨nofun, fun given => ?_⟩
            exact absurd (unmistaken given orphan existing describes records named) other
    · exact failed

/-- A call that is answered with the metadata of the Object under an id. -/
def Shows (T : World) (calm : Prop) (kind : PyError → Bool) (objectId : String)
    (result : Except PyError ObjectMetadata) : Prop :=
  (∀ metadata, result = .ok metadata → IsObject T objectId metadata) ∧ (calm → RaisesOnly kind result)

theorem concludes_put (asked : ObjectRequest) :
    (ObjectRepository.put asked.objectId asked.payload asked.mediaType asked.digest asked.byteLength
      asked.userMetadata asked.creationContext asked.provenance : PyM X _).run.Concludes
      (Told X T calm kind) (Reporting X T) (Shows T calm kind asked.objectId) := by
  rw [run_putObject]
  exact ⟨trivial, fun reply told => told⟩

theorem concludes_stat (reference : ObjectReference) :
    (ObjectRepository.stat reference : PyM X _).run.Concludes (Told X T calm kind) (Reporting X T)
      (Shows T calm kind reference.objectId) := by
  rw [run_stat]
  exact ⟨trivial, fun reply told => told⟩

/-- What the constructor takes over from its arguments. -/
theorem OrphanCandidateV1.takes_over {arguments : OrphanCandidateArguments}
    {orphan : OrphanCandidateV1 X} {resourceId hash : String} {length : Nat}
    (created : OrphanCandidateV1.create X arguments = .ok orphan)
    (owner : arguments.resourceId = .str resourceId) (hashed : arguments.digest = .str hash)
    (measured : arguments.byteLength = natJson length) :
    orphan.resourceId = resourceId ∧ orphan.objectRef = arguments.objectRef ∧
      orphan.digest = hash ∧ orphan.byteLength = length := by
  have accepted := OrphanCandidateV1.create_iff.mp created
  obtain ⟨_, identified, accepted⟩ := bind_ok.mp accepted
  obtain ⟨_, checked, accepted⟩ := bind_ok.mp accepted
  obtain ⟨_, digested, accepted⟩ := bind_ok.mp accepted
  obtain ⟨_, _, accepted⟩ := bind_ok.mp accepted
  obtain ⟨_, _, accepted⟩ := bind_ok.mp accepted
  obtain ⟨_, counted, accepted⟩ := bind_ok.mp accepted
  obtain ⟨_, _, accepted⟩ := bind_ok.mp accepted
  obtain ⟨_, _, accepted⟩ := bind_ok.mp accepted
  obtain ⟨_, _, accepted⟩ := bind_ok.mp accepted
  obtain ⟨_, _, same⟩ := bind_ok.mp accepted
  have identified := (validateResourceId_ok identified).1
  have digested := (digest_ok digested).1
  rw [owner] at identified
  rw [hashed] at digested
  rw [measured, byteLength_natJson] at counted
  cases identified
  cases digested
  cases counted
  rw [← Except.ok.inj same]
  exact ⟨rfl, (X.check_ok checked).1, rfl, rfl⟩

namespace ArtifactPublisher

variable {request : ArtifactRequest X} {content : Content}

/-- No metadata row has the identity, and the Object is the one to publish. -/
def Strands (T : World) (request : ArtifactRequest X) : Prop :=
  ∀ content, contentOf request = .ok content →
    T.row? .metadata (content.identity.resourceId X) = none ∧ Held X T content

/-- What the Object phase tells: the Object of the content is there, whoever has committed it. -/
def Puts (T : World) (calm : Prop) (kind : PyError → Bool) (content : Content)
    (result : Except PyError (ObjectMetadata × Bool)) : Prop :=
  (∀ metadata idempotent, result = .ok (metadata, idempotent) →
    metadata.objectRef = objectRefOf X content ∧ Held X T content) ∧
  (calm → Held X T content → RaisesOnly kind result)

theorem Puts.failed {error : PyError} {objectId : String}
    (shows : Shows T calm kind objectId (.error error)) : Puts (X := X) T calm kind content (.error error) :=
  ⟨nofun, fun given _ => RaisesOnly.error (shows.2 given error rfl)⟩

theorem concludes_verified (consistent : Consistent X T) {metadata : ObjectMetadata}
    (stored : IsObject T (content.identity.objectId X) metadata) (idempotent : Bool) :
    (settle (verifyObjectMetadata X metadata content) >>= fun _ =>
      pure (metadata, idempotent) : PyM X _).run.Concludes (Told X T calm kind) (Reporting X T)
      (Puts (X := X) T calm kind content) := by
  obtain ⟨object, found, rfl⟩ := stored
  have reference := consistent.objects _ object found
  apply concludes_settle_bind
  · intro error refused
    refine ⟨nofun, fun _ held => ?_⟩
    -- The Object that is held passes the check.
    obtain ⟨other, again, named, digest, length, media⟩ := held
    rw [found] at again
    cases again
    unfold verifyObjectMetadata raiseIf at refused
    rw [if_neg] at refused
    · cases refused
    · rw [named]
      simp [objectRefOf, digest, length, media]
  · intro _ verified
    have matching := raiseIf_ok.mp verified
    rw [not_or, not_or, not_or, not_or, not_not, not_not, not_not, not_not, not_not] at matching
    obtain ⟨-, -, digest, length, media⟩ := matching
    have named : object.metadata.objectRef = objectRefOf X content := by
      rw [reference, digest]
      rfl
    refine ⟨?_, fun _ _ => RaisesOnly.ok _⟩
    rintro _ _ ⟨⟩
    exact ⟨named, object, found, named, digest, length, media⟩

theorem concludes_putObject (consistent : Consistent X T) (payload : PayloadReference) :
    (putObject request content payload).run.Concludes (Told X T calm kind) (Reporting X T)
      (Puts (X := X) T calm kind content) := by
  have named := ResourceIdentity.isResourceId_resourceId X content.identity
  unfold putObject
  apply concludes_attempt_bind (concludes_put (objectRequest request content payload))
  intro result shows
  cases result with
  | ok metadata => exact concludes_verified consistent (shows.1 metadata rfl) false
  | error error =>
    dsimp only
    split
    · have reference := X.objectReference_artifact named none (by simp)
      unfold statExisting
      rw [show X.objectReference X.objectResource (content.identity.objectId X) none =
        .ok ⟨X.objectResource, content.identity.objectId X, none⟩ from reference]
      apply concludes_bind (concludes_stat _)
      · exact fun error shows => Puts.failed shows
      · exact fun metadata shows => concludes_verified consistent (shows.1 metadata rfl) true
    · exact Puts.failed shows

theorem concludes_candidate (external : FailsWithData X) (tolerates : Tolerates kind)
    (read : contentOf request = .ok content) :
    (candidate request content (some (objectRefOf X content))).run.Concludes (Told X T calm kind)
      (Reporting X T) fun result => (∀ resource, result = .ok resource →
        IsCandidate request resource) ∧ (calm → RaisesOnly kind result) := by
  unfold candidate
  dsimp only
  apply concludes_settle_bind
  · intro error refused
    refine ⟨fun _ same => ?_, fun _ => ?_⟩
    · cases same
    · exact RaisesOnly.error (tolerates _ (annotationsOf_fails external error refused))
  · intro annotations annotated
    have planned : plan request content =
        .ok (candidateArguments request content (objectRefOf X content) annotations) :=
      bind_ok.mpr ⟨_, annotated, rfl⟩
    apply concludes_bind (concludes_currentTimestamp tolerates)
    · intro error timed
      refine ⟨fun _ same => ?_, fun given => RaisesOnly.error (timed.2 given error rfl)⟩
      cases same
    · intro createdAt timed
      obtain ⟨time, counted⟩ := timed.1 createdAt rfl
      refine ⟨fun resource created => ⟨content, _, time, createdAt, read, planned, counted, created⟩,
        fun _ => ?_⟩
      exact ((StoredResourceV1.postInit_fails external).witness.bind fun _ =>
        RaisesOnly.ok _).plain.mono tolerates

section

variable {told : Truth (runtime X)}

/-- A candidate for the Object of a resource was put, and the put was answered like this. -/
def Filed (T : World) (told : Truth (runtime X)) (resourceId : String) : Prop :=
  ∃ (orphan : OrphanCandidateV1 X) (reply : Except PyError OperationResult),
    orphan.resourceId = resourceId ∧ Describes T orphan ∧
    told (.structured (.put .orphanCandidates (orphan.toRecord X))) reply

/-- Errors are of the kind, but for that of an incomplete publication, which has filed its
candidate. -/
def Leaves (T : World) (told : Truth (runtime X)) (kind : PyError → Bool) (resourceId : String)
    (result : Except PyError (PublicationReceipt X)) : Prop :=
  ∀ error, result = .error error →
    kind error = true ∨ error.hasType .incompletePublication = true ∧ Filed T told resourceId

theorem Leaves.error {resourceId : String} {error : PyError} (known : kind error = true) :
    Leaves (X := X) T told kind resourceId (.error error) := by
  rintro _ ⟨⟩
  exact .inl known

variable (external : FailsWithData X) (tolerates : Tolerates kind)
  (covers : ∀ request reply, told request reply → Told X T calm kind request reply)
  (unmistaken : calm → Unmistaken X T)

include external tolerates covers unmistaken

theorem concludes_incomplete {resource : StoredResourceV1 X} {error : PyError}
    (planned : IsCandidate request resource) (read : contentOf request = .ok content)
    (held : Held X T content) :
    (incomplete resource error).run.Concludes told (Reporting X T)
      fun result => calm → Leaves T told kind (content.identity.resourceId X) result := by
  obtain ⟨-, -, -, other, again, identity, digest, length, -, reference⟩ := planned.built
  cases read.symm.trans again
  unfold incomplete recordOrphan
  rw [reference]
  dsimp only
  let ends (result : Except PyError (OrphanCandidateV1 X)) : Prop := calm →
    RaisesOnly kind result ∧
      ∀ orphan, result = .ok orphan → Filed T told (content.identity.resourceId X)
  rw [run_bind]
  refine @Program.Concludes.bind _ _ _ told _ ends _ _ _ ?_ ?_
  · apply concludes_bind ((concludes_currentTimestamp tolerates).narrow covers)
    · intro error timed given
      exact ⟨.error (timed.2 given error rfl), fun _ same => by cases same⟩
    · intro discoveredAt _
      apply concludes_settle_bind
      · intro error refused _
        refine ⟨.error (tolerates _ ?_), fun _ same => by cases same⟩
        exact ((OrphanCandidateV1.postInit_fails external).witness.bind fun _ =>
          RaisesOnly.ok _).plain error refused
      · intro orphan created
        obtain ⟨owner, named, hashed, measured⟩ := OrphanCandidateV1.takes_over created rfl rfl rfl
        have owner : orphan.resourceId = content.identity.resourceId X := by
          rw [owner, ← identity]
          rfl
        have describes : Describes T orphan := by
          obtain ⟨object, found, reference, hash, count, -⟩ := held
          refine ⟨object, ?_, named.trans reference.symm, ?_, ?_⟩
          · rw [owner]
            exact found
          · rw [hashed, digest, hash]
          · rw [measured, length, count]
        have puts := (concludes_putOrphan describes unmistaken).narrow covers
        rw [run_putOrphan] at puts
        rw [run_attempt_bind, run_putOrphan]
        -- The put is answered, and whatever follows is swallowed.
        refine ⟨puts.1, fun reply answered => (puts.2 reply answered).bind fun result _ => ?_⟩
        have filed : Filed T told (content.identity.resourceId X) :=
          ⟨orphan, reply, owner, describes, answered⟩
        cases result <;> exact fun _ => ⟨RaisesOnly.ok _, fun _ _ => filed⟩
  · intro result told
    cases result with
    | error error => exact fun given => .error ((told given).1 error rfl)
    | ok orphan =>
      rintro given _ ⟨⟩
      exact .inr ⟨rfl, (told given).2 orphan rfl⟩

theorem concludes_publishMetadata {resource : StoredResourceV1 X}
    (planned : IsCandidate request resource) (read : contentOf request = .ok content)
    (held : Held X T content) (idempotent : Bool) :
    (publishMetadata request resource idempotent).run.Concludes told (Reporting X T)
      fun result => calm → Strands T request →
        Leaves T told kind (content.identity.resourceId X) result := by
  have strands : Strands T request → T.row? .metadata resource.resourceId = none := by
    intro strands
    obtain ⟨-, -, -, other, again, identity, -⟩ := planned.built
    have absent := (strands other again).1
    rwa [← identity] at absent
  have incomplete : ∀ error, (incomplete resource error).run.Concludes told (Reporting X T)
      fun result => calm → Strands T request →
        Leaves T told kind (content.identity.resourceId X) result := fun error =>
    (concludes_incomplete external tolerates covers unmistaken planned read held).mono
      fun _ told given _ => told given
  unfold publishMetadata
  rw [run_attempt_bind]
  refine ⟨(blind_publication planned.built.1).uses, fun reply answered => ?_⟩
  have heard := covers _ reply answered
  change Program.Concludes _ _ _ (Program.bind (.done reply) _)
  rw [Program.done_bind]
  cases reply with
  | ok stored =>
    -- A row that has been committed is still there.
    dsimp only
    refine Program.Concludes.mono (concludes_of_blind ?_) fun _ _ _ stranded =>
      absurd (strands stranded) (heard.2 resource rfl stored rfl)
    exact blind_bind (blind_promotePublished _ _ _ _ _) fun _ => trivial
  | error error =>
    dsimp only
    split
    · exact fun given _ => .error (heard.1 given error rfl)
    · split
      · apply concludes_bind ((concludes_getResource resource.resourceId).narrow covers)
        · exact fun error looked given _ => .error (looked.1 given error rfl)
        · intro found looked
          cases found with
          | none => exact incomplete error
          | some winner =>
            refine (concludes_of_blind (blind_existingReceipt _ _ _ _ _ _ _)).mono ?_
            exact fun _ _ _ stranded => absurd (strands stranded) (looked.2 winner rfl)
      · exact incomplete error

theorem concludes_publishRegistered (consistent : Consistent X T)
    (read : contentOf request = .ok content) (payload : PayloadReference) :
    (publishRegistered request content payload).run.Concludes told (Reporting X T)
      fun result => calm → Strands T request →
        Leaves T told kind (content.identity.resourceId X) result := by
  unfold publishRegistered
  apply concludes_bind ((concludes_getResource (content.identity.resourceId X)).narrow covers)
  · exact fun error looked given _ => .error (looked.1 given error rfl)
  · intro found looked
    cases found with
    | some existing =>
      refine (concludes_of_blind (blind_publishExisting _ _ _)).mono ?_
      exact fun _ _ _ stranded => absurd (stranded content read).1 (looked.2 existing rfl)
    | none =>
      apply concludes_bind ((concludes_putObject consistent payload).narrow covers)
      · exact fun error puts given stranded =>
          .error (puts.2 given (stranded content read).2 error rfl)
      · rintro ⟨metadata, idempotent⟩ puts
        obtain ⟨named, held⟩ := puts.1 metadata idempotent rfl
        dsimp only
        rw [named]
        apply concludes_bind ((concludes_candidate external tolerates read).narrow covers)
        · exact fun error built given _ => .error (built.2 given error rfl)
        · exact fun resource built => concludes_publishMetadata external tolerates covers unmistaken
            (built.1 resource rfl) read held idempotent

end

theorem requiredDigest_fails {value : JsonValue} : RaisesOnly isPlain (requiredDigest value) := by
  unfold requiredDigest
  split
  · exact .error rfl
  · split
    · exact .ok _
    · exact .error rfl

theorem requiredLength_fails {value : JsonValue} : RaisesOnly isPlain (requiredLength value) := by
  unfold requiredLength
  split
  · exact .error rfl
  · split
    · exact .error rfl
    · exact .ok _
  · exact .error rfl

theorem matchDeclared_fails {observedDigest : String} {observedLength : Nat}
    {expectedDigest expectedLength : JsonValue} :
    RaisesOnly isPlain (matchDeclared observedDigest observedLength expectedDigest expectedLength) := by
  have measured : RaisesOnly isPlain (if expectedLength ≠ .null then do
      let declared ← requiredLength expectedLength
      raiseIf (declared ≠ observedLength)
        (invalidPayload "artifact bytes do not match expected_length" none none)
      else pure ()) := by
    split
    · apply requiredLength_fails.bind
      intro _
      exact .raising rfl
    · exact .ok ()
  unfold matchDeclared
  dsimp only
  split
  · apply requiredDigest_fails.bind
    intro _
    apply RaisesOnly.bind (.raising rfl)
    intro _
    exact measured
  · exact measured

/-- What registering a payload settles on. -/
def Settles (X : Platform) (calm : Prop) (kind : PyError → Bool) (payload : ArtifactPayload)
    (expectedDigest expectedLength : JsonValue) (result : Except PyError RegisteredPayload) : Prop :=
  (∀ registered, result = .ok registered → declared X payload expectedDigest expectedLength =
    .ok (registered.digest, registered.byteLength)) ∧ (calm → RaisesOnly kind result)

theorem Settles.refused {payload : ArtifactPayload} {expectedDigest expectedLength : JsonValue}
    {error : PyError} (known : calm → RaisesOnly kind (.error error : Except PyError Unit)) :
    Settles X calm kind payload expectedDigest expectedLength (.error error) :=
  ⟨nofun, fun given => RaisesOnly.error (known given error rfl)⟩

theorem concludes_registerDeclared (tolerates : Tolerates kind) (source : PayloadSource)
    (expectedDigest expectedLength : JsonValue) :
    (registerDeclared source expectedDigest expectedLength : PyM X _).run.Concludes (Told X T calm kind)
      (Reporting X T) (Settles X calm kind (.source source) expectedDigest expectedLength) := by
  unfold registerDeclared
  apply concludes_settle_bind
  · exact fun error refused => .refused fun _ => .error (tolerates _ (requiredDigest_fails error refused))
  · intro digest digested
    apply concludes_settle_bind
    · exact fun error refused => .refused fun _ => .error (tolerates _ (requiredLength_fails error refused))
    · intro length measured
      refine ⟨trivial, fun reply told => ?_⟩
      cases reply with
      | error error => exact .refused fun given => .error (told given error rfl)
      | ok reference =>
        refine ⟨?_, fun _ => .ok _⟩
        rintro _ ⟨⟩
        exact bind_ok.mpr ⟨_, digested, bind_ok.mpr ⟨_, measured, rfl⟩⟩

theorem concludes_registerPayload (tolerates : Tolerates kind) (payload : ArtifactPayload)
    (expectedDigest expectedLength : JsonValue) :
    (registerPayload payload expectedDigest expectedLength : PyM X _).run.Concludes (Told X T calm kind)
      (Reporting X T) (Settles X calm kind payload expectedDigest expectedLength) := by
  unfold registerPayload
  cases payload with
  | bytes raw =>
    apply concludes_settle_bind
    · exact fun error refused => .refused fun _ => .error (tolerates _ (matchDeclared_fails error refused))
    · intro _ matching
      refine ⟨trivial, fun reply told => ?_⟩
      cases reply with
      | error error => exact .refused fun given => .error (told given error rfl)
      | ok reference =>
        refine ⟨?_, fun _ => .ok _⟩
        rintro _ ⟨⟩
        exact bind_ok.mpr ⟨_, matching, rfl⟩
  | reference reference =>
    apply concludes_settle_bind
    · exact fun error refused => .refused fun _ => .error (tolerates _ (requiredDigest_fails error refused))
    · intro digest digested
      apply concludes_settle_bind
      · exact fun error refused => .refused fun _ => .error (tolerates _ (requiredLength_fails error refused))
      · intro length measured
        refine ⟨?_, fun _ => .ok _⟩
        rintro _ ⟨⟩
        exact bind_ok.mpr ⟨_, digested, bind_ok.mpr ⟨_, measured, rfl⟩⟩
  | source source => exact concludes_registerDeclared tolerates source _ _
  | factory source => exact concludes_registerDeclared tolerates source _ _
  | stream source => exact concludes_registerDeclared tolerates source _ _
  | unsupported =>
    apply concludes_settle_bind
    · exact fun error refused => .refused fun _ => .error (tolerates _ (requiredDigest_fails error refused))
    · intro _ _
      apply concludes_settle_bind
      · exact fun error refused => .refused fun _ => .error (tolerates _ (requiredLength_fails error refused))
      · exact fun _ _ => .refused fun _ => .error (tolerates _ rfl)

theorem concludes_releaseOwned (registered : RegisteredPayload) :
    (releaseOwned registered : PyM X Unit).run.Concludes (Told X T calm kind) (Reporting X T)
      fun result => calm → RaisesOnly kind result := by
  unfold releaseOwned
  split
  · exact ⟨trivial, fun reply told => told⟩
  · exact fun _ => .ok ()

/-- A publication records nothing but the committed Object of its content, and fails as incomplete
only if it has done so. -/
theorem concludes_publish {told : Truth (runtime X)} (external : FailsWithData X)
    (tolerates : Tolerates kind) (consistent : Consistent X T)
    (covers : ∀ request reply, told request reply → Told X T calm kind request reply)
    (unmistaken : calm → Unmistaken X T) :
    (publish request).run.Concludes told (Reporting X T) fun result => calm → Strands T request →
      ∀ error, result = .error error → kind error = true ∨
        error.hasType .incompletePublication = true ∧ ∃ content, contentOf request = .ok content ∧
          Filed T told (content.identity.resourceId X) := by
  unfold publish
  apply concludes_settle_bind
  · rintro error refused _ _ _ ⟨⟩
    exact .inl (tolerates _ (ResourceIdentity.create_fails.plain error refused))
  · intro identity identified
    apply concludes_settle_bind
    · rintro error refused _ _ _ ⟨⟩
      exact .inl (tolerates _ (mediaType_fails.plain error refused))
    · intro media typed
      apply concludes_bind ((concludes_registerPayload tolerates request.payload _ _).narrow covers)
      · rintro error heard given _ _ ⟨⟩
        exact .inl (heard.2 given error rfl)
      · intro registered heard
        have read : contentOf request =
            .ok ⟨identity, registered.digest, registered.byteLength, media⟩ :=
          bind_ok.mpr ⟨_, identified, bind_ok.mpr ⟨_, typed,
            bind_ok.mpr ⟨_, heard.1 registered rfl, rfl⟩⟩⟩
        have publishes := concludes_publishRegistered external tolerates covers unmistaken consistent
          read registered.reference
        apply concludes_ensuring
        · refine publishes.mono fun result leaves given stranded error raised => ?_
          exact (leaves given stranded error raised).imp id fun ⟨type, filed⟩ =>
            ⟨type, _, read, filed⟩
        · exact (concludes_releaseOwned registered).narrow covers
        · rintro error ended given _ _ ⟨⟩
          exact .inl (ended given error rfl)

end ArtifactPublisher

namespace ArtifactConsumer

/-- What building the candidate for a listed Object tells. -/
theorem concludes_orphanOf (external : FailsWithData X) (tolerates : Tolerates kind)
    (consistent : Consistent X T)
    {item : ObjectMetadata} {resourceId : String}
    (committed : IsObject T item.objectRef.objectId item) (owned : scanned item = some resourceId) :
    (orphanOf item resourceId : PyM X _).run.Concludes (Told X T calm kind) (Reporting X T)
      fun result => (∀ orphan, result = .ok orphan → Describes T orphan) ∧
        (calm → RaisesOnly kind result) := by
  obtain ⟨valid, named⟩ := scanned_some owned
  obtain ⟨object, found, rfl⟩ := committed
  have reference := consistent.objects _ object found
  have hex : isDigest object.metadata.digest = true := by
    rw [← (consistent.intact _ object found).1]
    exact X.isDigest_digestOf _
  have resourceRef : object.metadata.objectRef.resourceRef = X.objectResource := by rw [reference]
  have built := X.objectReference_artifact valid (some object.metadata.digest)
    (by rintro text ⟨⟩; exact hex)
  unfold orphanOf
  apply concludes_settle_bind
  · intro error refused
    rw [resourceRef, named, built] at refused
    cases refused
  · intro made making
    rw [resourceRef, named, built] at making
    cases making
    refine ⟨trivial, fun reply told => ?_⟩
    cases reply with
    | error error => exact ⟨nofun, fun given => .error (told given error rfl)⟩
    | ok now =>
      change Program.Concludes _ _ _ (settle (utcTimestampOfDatetime now) >>= _ : PyM X _).run
      apply concludes_settle_bind
      · intro error refused
        exact ⟨nofun, fun _ => .error (tolerates _ (utcTimestampOfDatetime_fails now error refused))⟩
      · intro discoveredAt _
        refine ⟨fun orphan created => ?_, fun _ => ?_⟩
        · obtain ⟨owner, same, hashed, measured⟩ :=
            OrphanCandidateV1.takes_over created rfl rfl rfl
          refine ⟨object, ?_, same.trans ?_, hashed, measured⟩
          · rw [owner, ← named]
            exact found
          · rw [reference, ← named]
        · exact ((OrphanCandidateV1.postInit_fails external).witness.bind fun _ =>
            RaisesOnly.ok _).plain.mono tolerates

/-- What a scan tells: its candidates describe committed Objects, and are the rows it recorded. -/
def Scans (T : World) (calm : Prop) (kind : PyError → Bool) (record : Bool)
    (result : Except PyError (List (OrphanCandidateV1 X))) : Prop :=
  (∀ candidates, result = .ok candidates → ∀ candidate ∈ candidates,
    Describes T candidate ∧ (record = true → Records T candidate)) ∧ (calm → RaisesOnly kind result)

theorem Scans.failed {A : Type} {record : Bool} {error : PyError}
    (known : calm → RaisesOnly kind (.error error : Except PyError A)) :
    Scans (X := X) T calm kind record (.error error) :=
  ⟨nofun, fun given => RaisesOnly.error (known given error rfl)⟩

theorem concludes_scanItems (external : FailsWithData X) (tolerates : Tolerates kind)
    (consistent : Consistent X T)
    (unmistaken : calm → Unmistaken X T) (record : Bool) {items : List ObjectMetadata}
    (committed : AreCommitted T items) :
    (scanItems record items : PyM X _).run.Concludes (Told X T calm kind) (Reporting X T)
      (Scans T calm kind record) := by
  induction items with
  | nil =>
    refine ⟨?_, fun _ => RaisesOnly.ok []⟩
    rintro _ ⟨⟩ candidate member
    cases member
  | cons item others ih =>
    have later := ih fun other member => committed other (List.mem_cons_of_mem _ member)
    unfold scanItems
    cases owned : scanned item with
    | none => exact later
    | some resourceId =>
      dsimp only
      apply concludes_bind (concludes_getResource resourceId)
      · exact fun error looked => Scans.failed looked.1
      · intro found looked
        cases found with
        | some existing => exact later
        | none =>
          apply concludes_bind (concludes_orphanOf external tolerates consistent
            (committed item List.mem_cons_self) owned)
          · exact fun error built => Scans.failed built.2
          · intro orphan built
            have describes := built.1 orphan rfl
            -- What follows once the candidate is recorded, or is not to be.
            have rest : ∀ stored : OrphanCandidateV1 X, Describes T stored →
                (record = true → Records T stored) →
                (do let candidates ← scanItems record others
                    return stored :: candidates : PyM X _).run.Concludes (Told X T calm kind)
                  (Reporting X T) (Scans T calm kind record) := by
              intro stored describes records
              apply concludes_bind later
              · exact fun error told => Scans.failed told.2
              · intro candidates listed
                refine ⟨?_, fun _ => RaisesOnly.ok _⟩
                rintro _ ⟨⟩ candidate member
                rcases List.mem_cons.mp member with rfl | member
                · exact ⟨describes, records⟩
                · exact listed.1 candidates rfl candidate member
            cases record with
            | false =>
              refine rest orphan describes fun recording => ?_
              cases recording
            | true =>
              apply concludes_bind (concludes_putOrphan describes unmistaken)
              · exact fun error told => Scans.failed told.2
              · intro stored told
                obtain ⟨records, matching⟩ := told.1 stored rfl
                exact rest stored (describes.congr matching) fun _ => records

theorem concludes_discoverOrphans (external : FailsWithData X) (tolerates : Tolerates kind)
    (consistent : Consistent X T)
    (unmistaken : calm → Unmistaken X T) (limit : Int) (cursor : Option String) (record : Bool) :
    (discoverOrphans limit cursor record : PyM X _).run.Concludes (Told X T calm kind) (Reporting X T)
      fun result => Scans T calm kind record (OrphanPage.items <$> result) := by
  unfold discoverOrphans
  rw [run_bind, run_list]
  refine ⟨trivial, fun reply told => ?_⟩
  obtain ⟨committed, known⟩ := told
  change Program.Concludes _ _ _ (andThen _ (reply >>= ObjectRepository.pageOf X))
  generalize (reply >>= ObjectRepository.pageOf X) = listed at committed known
  cases listed with
  | error error => exact Scans.failed known
  | ok page =>
    rw [andThen_ok]
    apply concludes_bind (concludes_scanItems external tolerates consistent unmistaken record
      (committed page rfl))
    · exact fun error told => told
    · exact fun candidates told => told

end ArtifactConsumer

/-- What a recorder that was told the truth has concluded. -/
def Request.Concluded (T : World) (calm : Prop) (kind : PyError → Bool) (told : Truth (runtime X)) :
    (request : Request X) → request.Result → Prop
  | .publishArtifact request, result => calm → ArtifactPublisher.Strands T request →
      ∀ error, result = .error error → kind error = true ∨
        error.hasType .incompletePublication = true ∧
          ∃ content, ArtifactPublisher.contentOf request = .ok content ∧
            ArtifactPublisher.Filed T told (content.identity.resourceId X)
  | .discoverOrphans _ _ record, result =>
    ArtifactConsumer.Scans T calm kind record (@OrphanPage.items X <$> result)
  | _, _ => True

theorem Request.concludes_program {told : Truth (runtime X)} (external : FailsWithData X)
    (tolerates : Tolerates kind) (consistent : Consistent X T)
    (covers : ∀ request reply, told request reply → Told X T calm kind request reply)
    (unmistaken : calm → Unmistaken X T) (request : Request X) :
    request.program.run.Concludes told (Reporting X T) (request.Concluded T calm kind told) := by
  cases request with
  | publishArtifact request =>
    exact ArtifactPublisher.concludes_publish external tolerates consistent covers unmistaken
  | discoverOrphans limit cursor record =>
    exact (ArtifactConsumer.concludes_discoverOrphans external tolerates consistent unmistaken limit
      cursor record).narrow covers
  | publishConfiguration request => exact concludes_of_blind (blind_publishConfiguration request)
  | promote target channel expected actor profile => exact concludes_of_blind (blind_promote _ _ _ _ _)
  | «deprecate» profile identity =>
    rw [Request.program_deprecate]
    exact concludes_of_blind (blind_deprecateWith _ _)
  | consumerChannel profile «namespace» kind name channel =>
    rw [Request.program_channel]
    exact concludes_of_blind (blind_resolveChannel _ _ _ _ _)

end ConfigArtifact
