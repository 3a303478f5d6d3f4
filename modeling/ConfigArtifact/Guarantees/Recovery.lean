import ConfigArtifact.Guarantees.Authority
import ConfigArtifact.Guarantees.Idempotence
import ConfigArtifact.Operations.Attempts

/-! What an attempt at a publication leaves, wherever it is interrupted.

Its calls may fail, with or without their effect. What it leaves is nothing, an
Object of the request, or that Object and the rows of its candidate; from each of
these a fault-free attempt comes to the same end.
-/

set_option autoImplicit false

namespace ConfigArtifact

open Interaction Fallible Relation
open StoredResourceFields (sameArtifact sameConfiguration)

variable {X : Platform} {first s t u : World} {identity : ResourceIdentity}
  {request : PublishRequest X}

/-- Changes to anything but the rows and the Object of an identity. -/
def Policy.elsewhere (X : Platform) (identity : ResourceIdentity) : Policy X where
  publishes resource := resource.resourceId ≠ identity.resourceId X
  deprecates resource := resource.resourceId ≠ identity.resourceId X
  commits object := object.metadata.objectRef.objectId ≠ identity.objectId X
  live := False

/-- Changes elsewhere, and the rows and the Object of one request. -/
def Policy.attempting (request : PublishRequest X) (identity : ResourceIdentity) : Policy X where
  publishes candidate := candidate.resourceId = identity.resourceId X → request.IsCandidate candidate
  deprecates resource := resource.resourceId ≠ identity.resourceId X
  commits object := object.metadata.objectRef.objectId = identity.objectId X → request.Offers object
  live := False

/-- The metadata and the provenance of an identity are the same in both states. -/
structure SameRows (X : Platform) (identity : ResourceIdentity) (s t : World) : Prop where
  metadata : t.row? .metadata (identity.resourceId X) = s.row? .metadata (identity.resourceId X)
  provenance : t.row? .provenance (identity.resourceId X) =
    s.row? .provenance (identity.resourceId X)

namespace SameRows

theorem refl (s : World) : SameRows X identity s s := ⟨rfl, rfl⟩

theorem trans (one : SameRows X identity s t) (two : SameRows X identity t u) :
    SameRows X identity s u :=
  ⟨two.metadata.trans one.metadata, two.provenance.trans one.provenance⟩

end SameRows

/-- The rows of a candidate are stored as it was published. -/
def HasRows (s : World) (candidate : StoredResourceV1 X) : Prop :=
  ∃ version stamp, s.row? .metadata candidate.resourceId = some ⟨candidate.toRecord, version⟩ ∧
    s.row? .provenance candidate.resourceId =
      candidate.provenanceRecord.map fun record => ⟨record, stamp⟩

theorem HasRows.stores {candidate : StoredResourceV1 X} (rows : HasRows s candidate) :
    ∃ version, Stores s (candidate.withVersion (some version)) := by
  obtain ⟨version, stamp, found, -⟩ := rows
  exact ⟨version, _, found, Row.holds_record candidate version⟩

theorem HasRows.later {candidate : StoredResourceV1 X} (rows : HasRows s candidate)
    (named : candidate.resourceId = identity.resourceId X) (same : SameRows X identity s t) :
    HasRows t candidate := by
  obtain ⟨version, stamp, metadata, provenance⟩ := rows
  rw [named] at metadata provenance
  refine ⟨version, stamp, ?_, ?_⟩
  · rw [named, same.metadata, metadata]
  · rw [named, same.provenance, provenance]

theorem HasRows.present {candidate : StoredResourceV1 X} (rows : HasRows s candidate)
    (named : candidate.resourceId = identity.resourceId X) :
    s.row? .metadata (identity.resourceId X) ≠ none := by
  obtain ⟨version, stamp, metadata, -⟩ := rows
  rw [← named, metadata]
  exact Option.some_ne_none _

/-- What one change does to the rows of an identity that is not deprecated. -/
theorem Change.rowsAt {P : Policy X} (change : Change P s t)
    (others : ∀ resource, P.deprecates resource → resource.resourceId ≠ identity.resourceId X) :
    SameRows X identity s t ∨ s.row? .metadata (identity.resourceId X) = none ∧
      ∃ candidate, P.publishes candidate ∧ candidate.resourceId = identity.resourceId X ∧
        HasRows t candidate := by
  cases change with
  | registered absent => exact Or.inl ⟨rfl, rfl⟩
  | committed absent object permitted => exact Or.inl ⟨rfl, rfl⟩
  | @published resource version stamp absent bare published backed permitted =>
    by_cases same : resource.resourceId = identity.resourceId X
    · refine Or.inr ⟨same ▸ absent, resource, permitted, same, version, stamp, ?_, ?_⟩
      · rw [row?_publish_metadata, if_pos rfl]
      · rw [row?_publish_provenance, if_pos rfl, bare, Option.or_none]
    · have other := Ne.symm same
      refine Or.inl ⟨?_, ?_⟩
      · rw [row?_publish_metadata, if_neg other]
      · rw [row?_publish_provenance, if_neg other]
  | deprecated immutable stores published renewed permitted =>
    have other := Ne.symm (others _ permitted)
    exact Or.inl ⟨by simp [World.deprecate, World.row?_setRow, other],
      by simp [World.deprecate, World.row?_setRow]⟩
  | promoted absent follows target =>
    exact Or.inl ⟨by simp [World.promote, World.row?_setRow], by simp [World.promote, World.row?_setRow]⟩
  | reported absent =>
    exact Or.inl ⟨by simp [World.report, World.row?_setRow], by simp [World.report, World.row?_setRow]⟩

/-- The rows of an identity are as they were, or those of one candidate where none were. -/
theorem Changes.rowsAt {P : Policy X} (changes : Changes P s t)
    (others : ∀ resource, P.deprecates resource → resource.resourceId ≠ identity.resourceId X) :
    SameRows X identity s t ∨ s.row? .metadata (identity.resourceId X) = none ∧
      ∃ candidate, P.publishes candidate ∧ candidate.resourceId = identity.resourceId X ∧
        HasRows t candidate := by
  induction changes with
  | refl => exact Or.inl (.refl s)
  | tail _ change ih =>
    rcases change.rowsAt others with same | ⟨absent, candidate, planned, named, rows⟩
    · refine ih.imp (fun earlier => earlier.trans same) ?_
      rintro ⟨absent, candidate, planned, named, rows⟩
      exact ⟨absent, candidate, planned, named, rows.later named same⟩
    · rcases ih with same | ⟨-, other, -, named', rows'⟩
      · exact Or.inr ⟨same.metadata ▸ absent, candidate, planned, named, rows⟩
      · exact absurd absent (rows'.present named')

theorem Changes.attempted (changes : Changes (Policy.attempting request identity) s t) :
    SameRows X identity s t ∨ s.row? .metadata (identity.resourceId X) = none ∧
      ∃ candidate, request.IsCandidate candidate ∧
        candidate.resourceId = identity.resourceId X ∧ HasRows t candidate := by
  refine (changes.rowsAt fun _ => id).imp id fun ⟨absent, candidate, planned, named, rows⟩ => ?_
  exact ⟨absent, candidate, planned named, named, rows⟩

/-- Where there are rows, attempts leave them as they are. -/
theorem Changes.sameRows (changes : Changes (Policy.attempting request identity) s t)
    (present : s.row? .metadata (identity.resourceId X) ≠ none) : SameRows X identity s t :=
  changes.attempted.resolve_right fun attempted => present attempted.1

theorem Change.of_elsewhere (change : Change (Policy.elsewhere X identity) s t) :
    Change (Policy.attempting request identity) s t := by
  cases change with
  | registered absent => exact .registered absent
  | committed absent object permitted =>
    exact .committed absent object fun same => absurd same permitted
  | published absent bare published backed permitted =>
    exact .published absent bare published backed fun same => absurd same permitted
  | deprecated immutable stores published renewed permitted =>
    exact .deprecated immutable stores published renewed permitted
  | promoted absent follows target => exact .promoted absent follows target
  | reported absent => exact .reported absent

theorem Changes.of_elsewhere (changes : Changes (Policy.elsewhere X identity) s t) :
    Changes (Policy.attempting request identity) s t :=
  changes.lift id fun _ _ => Change.of_elsewhere

/-- Changes elsewhere leave the Object of an identity as it is. -/
theorem Changes.object_elsewhere (changes : Changes (Policy.elsewhere X identity) s t) :
    t.object? (identity.objectId X) = s.object? (identity.objectId X) := by
  induction changes with
  | refl => rfl
  | tail _ change ih =>
    rcases change.objects (identity.objectId X) with same | ⟨_, object, named, _, kind, other, _⟩
    · exact same.trans ih
    · refine absurd ?_ other
      rw [kind.reference]
      exact named.symm

/-- The clock was read in one of the events. -/
def ReadsClock (own : List (Event (runtime X) World)) (time : DateTime) : Prop :=
  ∃ before after, ⟨before, (Call.clock : Call X), .ok time, after⟩ ∈ own ∨
    ⟨before, (Call.utcNow : Call X), .ok time, after⟩ ∈ own

/-- One attempt at a publication, while others are busy elsewhere. -/
def PublishRequest.Attempted (request : PublishRequest X) (identity : ResourceIdentity)
    (env : Environment (runtime X) World) (s : World) (own : List (Event (runtime X) World))
    (result : Except PyError (PublicationReceipt X)) (t : World) : Prop :=
  request.program.run.Among (Changes (Policy.elsewhere X identity)) env s own result t

/-- A call of an attempt that goes from one state to another. -/
structure IsStepOf (request : PublishRequest X) (identity : ResourceIdentity) (s t : World)
    (own : List (Event (runtime X) World)) (event : Event (runtime X) World) : Prop where
  genuine : faulty X event.request event.before event.reply event.after
  change : Changes (Policy.attempting request identity) event.before event.after
  began : Changes (Policy.attempting request identity) s event.before
  since : Changes (Policy.attempting request identity) event.after t
  issued : request.Attempts t (ReadsClock own) event.request

section

variable {own : List (Event (runtime X) World)} {result : Except PyError (PublicationReceipt X)}

theorem furnished_of_genuine
    (genuine : ∀ event ∈ own, faulty X event.request event.before event.reply event.after)
    (evolves : ∀ event ∈ own, Evolves X event.after t) :
    ∀ event ∈ own, Furnished t (ReadsClock own) event.request event.reply := by
  rintro ⟨before, call, reply, after⟩ member
  have answered := genuine _ member
  cases call with
  | clock =>
    rintro time rfl
    exact ⟨before, after, Or.inl member⟩
  | utcNow =>
    rintro time rfl
    exact ⟨before, after, Or.inr member⟩
  | registerPayload source digest length =>
    rintro reference rfl
    rcases answered with ⟨token, fresh, changed, same⟩ | ⟨error, failed, -⟩
    · cases same
      refine (evolves _ member).payloads token source ?_
      rw [changed]
      exact World.payload?_setPayload_self _ _ _
    · cases failed
  | structured call => trivial
  | object call => trivial
  | transaction body => trivial
  | validate payload schema => trivial
  | openPayload payload => trivial
  | releasePayload payload => trivial

/-- The publication as a request to a deployment. -/
def PublishRequest.toRequest : PublishRequest X → Request X
  | .configuration asked => .publishConfiguration asked
  | .artifact asked => .publishArtifact asked

/-- Every call of a client that publishes is one of an attempt. -/
theorem attempts_of_reachable {ι : Type} [DecidableEq ι] {admits : World → Request X → Prop}
    {pool : Clients X ι} (consistent : Consistent X first)
    (reachable : Pool.Reachable (deployment (faulty X) admits) first pool) {i : ι}
    {program : Program (runtime X) request.toRequest.Result}
    (selected : pool.threads i = some ⟨request.toRequest, program⟩)
    {event : Event (runtime X) World} (member : event ∈ pool.history i) :
    request.Attempts pool.state (ReadsClock (pool.history i)) event.request := by
  have sound := deployment_sound serving_of_faulty (serves_unrestricted admits) consistent reachable
  have truths : ∀ other ∈ pool.history i,
      Furnished pool.state (ReadsClock (pool.history i)) other.request other.reply :=
    furnished_of_genuine (fun other among => (sound.event among).2.2.1) fun other among =>
      Changes.evolves (sound.past _ (Pool.mem_log_of_history among)).2
  let all : (request : Request X) → request.Result → Prop := fun _ _ => True
  have body : ((deployment (faulty X) admits).body request.toRequest).Concludes
      (Furnished pool.state (ReadsClock (pool.history i)))
      (request.Attempts pool.state (ReadsClock (pool.history i))) (all request.toRequest) := by
    cases request with
    | configuration asked => exact concludes_publishConfiguration asked
    | artifact asked => exact ArtifactPublisher.concludes_publish_supplied asked
  exact (Pool.concludes_of_reachable reachable selected body truths).2 event member

theorem following_stable {P : Policy X} (kept : (following P first).invariant s)
    (moved : Changes P s t) : (following P first).invariant t :=
  ⟨Changes.consistent moved kept.1, kept.2.trans moved⟩

/-- What a whole attempt does, and each of its calls. -/
theorem PublishRequest.Attempted.steps (consistent : Consistent X s)
    (attempted : request.Attempted identity (faulty X) s own result t) :
    Changes (Policy.attempting request identity) s t ∧
      ∀ event ∈ own, IsStepOf request identity s t own event := by
  have kept : (following (Policy.attempting request identity) s).invariant s := ⟨consistent, .refl⟩
  have safe := (@PublishRequest.safe_program X (Policy.attempting request identity) True False s s
    request kept False.elim (fun _ planned _ => planned) fun _ offered _ => offered).narrow
    serving_of_faulty
  obtain ⟨-, each, -⟩ := safe.among kept (fun _ _ => following_stable)
    (fun _ _ => Changes.of_elsewhere) attempted
  obtain ⟨moved, within⟩ := Program.Among.within ReflTransGen.trans attempted
    (fun _ _ => Changes.of_elsewhere) fun event member => (each event member).2
  have genuine := attempted.genuine
  have told := furnished_of_genuine genuine fun event member =>
    Changes.evolves (within event member).2
  have issued := (request.concludes_program.among attempted told).2
  exact ⟨moved, fun event member => ⟨genuine event member, (each event member).2,
    (within event member).1, (within event member).2, issued event member⟩⟩

/-- What putting an Object does, whatever is answered. -/
theorem put_effect {asked : ObjectRequest} {reply : Except PyError OperationResult}
    (answered : faulty X (.object asked.call) s reply t) :
    t = s ∨ ∃ bytes, Delivers s asked.payload bytes ∧ IsIntact X asked.digest asked.byteLength bytes ∧
      X.checkMetadata (asked.metadata X) = .ok () ∧ s.object? asked.objectId = none ∧
      t = s.setObject asked.objectId (asked.stored X bytes) := by
  have effect : ∀ {reply : Except PyError OperationResult},
      reliable X (.object asked.call) s reply t → t = s ∨ ∃ bytes,
        Delivers s asked.payload bytes ∧ IsIntact X asked.digest asked.byteLength bytes ∧
          X.checkMetadata (asked.metadata X) = .ok () ∧ s.object? asked.objectId = none ∧
          t = s.setObject asked.objectId (asked.stored X bytes) := by
    rintro reply (⟨accepted, ⟨bytes, resources, delivers, intact, absent, changed, -⟩ | ⟨same, -⟩ |
      ⟨same, -⟩⟩ | ⟨_, -, same, -⟩)
    · exact Or.inr ⟨bytes, delivers, intact, accepted, absent, changed⟩
    · exact Or.inl same
    · exact Or.inl same
    · exact Or.inl same
  rcases serving_plain (serving_of_faulty _ _ _ _ answered) trivial with
    answered | ⟨-, error, -, same | ⟨other, answered⟩⟩
  · exact effect answered
  · exact Or.inl same
  · exact effect answered

/-- What a call of an attempt does to the Objects: nothing, or it puts the one of its request. -/
theorem PublishRequest.Attempts.objects {T : World} {readings : DateTime → Prop}
    {event : Event (runtime X) World} (issued : request.Attempts T readings event.request)
    (answered : faulty X event.request event.before event.reply event.after) :
    (∀ objectId, event.after.object? objectId = event.before.object? objectId) ∨
    ∃ asked content payload bytes, request = .artifact asked ∧
      ArtifactPublisher.contentOf asked = .ok content ∧
      ArtifactPublisher.Supplies T T payload asked.payload ∧ Delivers event.before payload bytes ∧
      event.before.object? (content.identity.objectId X) = none ∧
      event.after = event.before.setObject (content.identity.objectId X)
        ((ArtifactPublisher.objectRequest asked content payload).stored X bytes) := by
  have framed : ∀ {granted : Capability → Prop}, event.request.IsGranted granted →
      Frames granted event.before event.after := fun granted =>
    frames_untrusted event.reply granted (untrusted_of_faulty _ _ _ _ answered)
  rcases issued with granted | ⟨asked, content, payload, same, read, supplies, call⟩ |
    ⟨candidate, compare, -, -, call⟩
  · exact Or.inl ((framed granted).objects (by decide))
  · obtain ⟨before, request, reply, after⟩ := event
    obtain rfl : request = _ := call
    rcases put_effect answered with still | ⟨bytes, delivers, -, -, absent, changed⟩
    · obtain rfl : after = before := still
      exact Or.inl fun _ => rfl
    · exact Or.inr ⟨asked, content, payload, bytes, same, read, supplies, delivers, absent, changed⟩
  · have granted : event.request.IsGranted (· ≠ .objectPut) := by
      rw [call]
      exact ⟨by decide, uses_publication _ _ (by decide) (by decide)⟩
    exact Or.inl ((framed granted).objects fun other => other rfl)

namespace IsStepOf

variable {event : Event (runtime X) World}

theorem frames (step : IsStepOf request identity s t own event) {granted : Capability → Prop}
    (isGranted : event.request.IsGranted granted) : Frames granted event.before event.after :=
  frames_untrusted event.reply isGranted (untrusted_of_faulty _ _ _ _ step.genuine)

/-- A step leaves the Objects as they are, or puts the one of its request. -/
theorem objects (step : IsStepOf request identity s t own event) :
    (∀ objectId, event.after.object? objectId = event.before.object? objectId) ∨
    ∃ asked content payload bytes, request = .artifact asked ∧
      ArtifactPublisher.contentOf asked = .ok content ∧
      ArtifactPublisher.MayDeliver t asked.payload bytes ∧
      event.before.object? (content.identity.objectId X) = none ∧
      event.after = event.before.setObject (content.identity.objectId X)
        ((ArtifactPublisher.objectRequest asked content payload).stored X bytes) := by
  rcases step.issued.objects step.genuine with same |
    ⟨asked, content, payload, bytes, asks, read, supplies, delivers, absent, changed⟩
  · exact Or.inl same
  · refine Or.inr ⟨asked, content, payload, bytes, asks, read, ?_, absent, changed⟩
    have evolves := (Changes.evolves step.change).trans (Changes.evolves step.since)
    refine (ArtifactPublisher.delivers_iff supplies).mp ?_
    obtain ⟨source, found, yields⟩ := delivers
    exact ⟨source, evolves.payloads _ _ found, yields⟩

/-- A step leaves the rows of the identity as they are, or commits those of a candidate with
a time that the attempt has read. -/
theorem rows (step : IsStepOf request identity s t own event) :
    SameRows X identity event.before event.after ∨
      event.before.row? .metadata (identity.resourceId X) = none ∧ ∃ candidate,
        request.IsCandidate candidate ∧ candidate.resourceId = identity.resourceId X ∧
          Stamped (ReadsClock own) candidate.createdAt ∧ HasRows event.after candidate := by
  refine Changes.attempted step.change |>.imp id fun ⟨absent, candidate, planned, named, rows⟩ => ?_
  refine ⟨absent, candidate, planned, named, ?_, rows⟩
  have framed : ∀ {granted : Capability → Prop}, event.request.IsGranted granted →
      ¬granted (.put .metadata) → ¬granted (.patch .metadata) → False := by
    intro granted isGranted inserts patches
    have same := (step.frames isGranted).rows .metadata inserts patches (identity.resourceId X)
    exact rows.present named (same.trans absent)
  rcases step.issued with granted | ⟨asked, content, payload, -, -, -, call⟩ |
    ⟨other, compare, reflexive, stamped, call⟩
  · exact (framed granted (by decide) (by decide)).elim
  · have granted : event.request.IsGranted (· = .objectPut) := by
      rw [call]
      rfl
    exact (framed granted (by decide) (by decide)).elim
  · have answered := serving_of_faulty _ _ _ _ step.genuine
    obtain ⟨before, request, reply, after⟩ := event
    obtain rfl : request = _ := call
    rcases serving_transaction answered with ⟨stored, runs, -⟩ | ⟨still, -⟩
    · obtain ⟨version, stamp, -, -, changed, -⟩ := publication_commits reflexive runs
      obtain ⟨version', -, found, -⟩ := rows
      have found : after.row? .metadata candidate.resourceId = some ⟨candidate.toRecord, version'⟩ :=
        found
      have absent : before.row? .metadata (identity.resourceId X) = none := absent
      have changed : after = before.publish other version stamp := changed
      rw [changed, row?_publish_metadata] at found
      split at found
      · have held := Row.holds_record candidate version'
        rw [← Option.some.inj found] at held
        have same := held.unique (Row.holds_record other version)
        have created : candidate.createdAt = other.createdAt :=
          congrArg (fun resource => resource.createdAt) same
        rw [created]
        exact stamped
      · rw [named, absent] at found
        cases found
    · obtain rfl : after = before := still
      exact absurd absent (rows.present named)

end IsStepOf

/-- An attempt leaves the rows of its identity as they are, or commits its own where none were. -/
theorem PublishRequest.Attempted.rows (consistent : Consistent X s)
    (attempted : request.Attempted identity (faulty X) s own result t) :
    SameRows X identity s t ∨ s.row? .metadata (identity.resourceId X) = none ∧ ∃ candidate,
      request.IsCandidate candidate ∧ candidate.resourceId = identity.resourceId X ∧
        Stamped (ReadsClock own) candidate.createdAt ∧ HasRows t candidate := by
  obtain ⟨-, steps⟩ := attempted.steps consistent
  let holds (w : World) : Prop := SameRows X identity s w ∨
    s.row? .metadata (identity.resourceId X) = none ∧ ∃ candidate, request.IsCandidate candidate ∧
      candidate.resourceId = identity.resourceId X ∧
        Stamped (ReadsClock own) candidate.createdAt ∧ HasRows w candidate
  have moved : ∀ {v w}, SameRows X identity v w → holds v → holds w := by
    intro v w same
    refine Or.imp (fun earlier => earlier.trans same) ?_
    rintro ⟨absent, candidate, planned, named, stamped, rows⟩
    exact ⟨absent, candidate, planned, named, stamped, rows.later named same⟩
  change holds t
  refine Program.Among.keeps attempted ?_ ?_ (Or.inl (.refl s))
  · intro v w elsewhere
    exact moved ((Changes.rowsAt elsewhere fun _ => id).resolve_right
      fun ⟨_, _, other, named, _⟩ => other named)
  · intro event member held
    rcases (steps event member).rows with same | ⟨absent, committed⟩
    · exact moved same held
    · rcases held with same | ⟨-, other, -, named, -, rows⟩
      · exact Or.inr ⟨same.metadata ▸ absent, committed⟩
      · exact absurd absent (rows.present named)

/-- The Object is one that a request would put, from bytes its payload may deliver. -/
def PublishRequest.Commits (request : PublishRequest X) (s : World) (object : StoredObject) : Prop :=
  request.Offers object ∧ ∃ asked, request = .artifact asked ∧
    ArtifactPublisher.MayDeliver s asked.payload object.content

/-- An attempt leaves the Object of its identity as it is, or puts its own where none was. -/
theorem PublishRequest.Attempted.object (consistent : Consistent X s)
    (attempted : request.Attempted identity (faulty X) s own result t) {object : StoredObject}
    (found : t.object? (identity.objectId X) = some object) :
    s.object? (identity.objectId X) = some object ∨ request.Commits t object := by
  obtain ⟨-, steps⟩ := attempted.steps consistent
  let holds (w : World) : Prop := ∀ object, w.object? (identity.objectId X) = some object →
    s.object? (identity.objectId X) = some object ∨ request.Commits t object
  suffices held : holds t from held object found
  refine Program.Among.keeps attempted ?_ ?_ fun _ => Or.inl
  · intro v w elsewhere held object found
    exact held object (Changes.object_elsewhere elsewhere ▸ found)
  · intro event member held object found
    rcases (steps event member).objects with same |
      ⟨asked, content, payload, bytes, asks, read, delivers, absent, changed⟩
    · exact held object (same _ ▸ found)
    · rw [changed, World.object?_setObject] at found
      split at found
      · cases found
        exact Or.inr ⟨⟨asked, content, asks, read, rfl, rfl, rfl⟩, asked, asks, delivers⟩
      · exact held object found

end

end ConfigArtifact
