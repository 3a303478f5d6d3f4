import ConfigArtifact.Guarantees.Recovery

/-! A publication that is attempted until it goes through.

What the attempts of a request leave is nothing, its Object, or its Object and the
rows of one attempt's candidate. From each of these an attempt that nothing
interrupts comes to the same end, and from there nothing changes any more.
-/

set_option autoImplicit false

namespace ConfigArtifact

open Interaction Fallible Relation
open StoredResourceFields (sameArtifact sameConfiguration)

variable {X : Platform} {s t u v : World} {identity : ResourceIdentity}
  {request : PublishRequest X} {actor : JsonValue} {bytes : Bytes}

/-- The payload of a request yields these bytes, each time it is opened. -/
def PublishRequest.Replays (request : PublishRequest X) (s : World) (bytes : Bytes) : Prop :=
  ∀ asked, request = .artifact asked → ∀ content,
    ArtifactPublisher.MayDeliver s asked.payload content ↔ content = bytes

/-- One attempt that was made: who asked, over which stores, what was called, and the end. -/
structure Attempt (X : Platform) where
  actor : JsonValue
  before : World
  calls : List (Event (runtime X) World)
  result : Except PyError (PublicationReceipt X)
  after : World

/-- Attempts at one publication, each after the other, in which any call may fail with or
without its effect, while others are busy elsewhere. -/
inductive Series (request : PublishRequest X) (identity : ResourceIdentity) (s : World) :
    List (Attempt X) → World → Prop
  | none : Series request identity s [] s
  | next {attempts : List (Attempt X)} {t : World} {attempt : Attempt X} :
      Series request identity s attempts attempt.before →
      (request.askedBy attempt.actor).Attempted identity (faulty X) attempt.before attempt.calls
        attempt.result attempt.after →
      t = attempt.after → Series request identity s (attempts ++ [attempt]) t

/-- The attempt has committed the metadata, for its actor and at a time it has read. -/
structure Attempt.Commits (attempt : Attempt X) (identity : ResourceIdentity) (s : World) : Prop where
  absent : attempt.before.row? .metadata (identity.resourceId X) = none
  present : attempt.after.row? .metadata (identity.resourceId X) ≠ none
  stamps : ∃ resource : StoredResourceV1 X, Stores s resource ∧
    resource.resourceId = identity.resourceId X ∧
    boundedString attempt.actor "actor" 512 = .ok resource.createdBy ∧
    Stamped (ReadsClock attempt.calls) resource.createdAt

/-- Two rows have the same entries, but for these fields. -/
def AgreeOutside (fields : List String) (row other : Row) : Prop :=
  row.values.filter (fun entry => entry.1 ∉ fields) =
    other.values.filter fun entry => entry.1 ∉ fields

/-- Two stores hold one publication of an identity, but for who committed its metadata
and when. -/
structure SamePublication (X : Platform) (identity : ResourceIdentity) (s t : World) : Prop where
  metadata : ∃ row other, s.row? .metadata (identity.resourceId X) = some row ∧
    t.row? .metadata (identity.resourceId X) = some other ∧
    AgreeOutside ["createdBy", "createdAt"] row other
  provenance : Option.Rel (AgreeOutside ["createdAt"]) (s.row? .provenance (identity.resourceId X))
    (t.row? .provenance (identity.resourceId X))
  object : Option.Rel (fun object other => object.content = other.content ∧
    object.metadata.digest = other.metadata.digest ∧
    object.metadata.byteLength = other.metadata.byteLength ∧
    object.metadata.mediaType = other.metadata.mediaType)
    (s.object? (identity.objectId X)) (t.object? (identity.objectId X))

/-- An attempt has gone through: what it returns, what is stored, who has committed it, and
that attempts from there on change nothing. -/
structure Recovered (request : PublishRequest X) (identity : ResourceIdentity) (s : World)
    (attempts : List (Attempt X)) (result : Except PyError (PublicationReceipt X)) (t : World) :
    Prop where
  returns : ∃ receipt, result = .ok receipt ∧ Stores t receipt.resource ∧
    receipt.resource.resourceId = identity.resourceId X
  same : ∀ actor calls other u, (request.askedBy actor).IsValid s →
    (request.askedBy actor).Attempted identity (reliable X) s calls other u →
    SamePublication X identity u t
  committed : ∃ attempt ∈ attempts, attempt.Commits identity t
  repeats : ∀ actor calls other u, (request.askedBy actor).IsValid s →
    (request.askedBy actor).Attempted identity (reliable X) t calls other u →
    (∃ receipt, other = .ok receipt ∧ receipt.idempotent = true) ∧
    (∀ event ∈ calls, event.after.tables = event.before.tables ∧
      ∀ objectId, event.after.object? objectId = event.before.object? objectId) ∧
    SameRows X identity t u ∧ u.object? (identity.objectId X) = t.object? (identity.objectId X)

namespace PublishRequest

theorem offers_askedBy {object : StoredObject} :
    (request.askedBy actor).Offers object ↔ request.Offers object := by
  cases request with
  | configuration asked =>
    constructor
    · rintro ⟨_, _, same, -⟩
      cases same
    · rintro ⟨_, _, same, -⟩
      cases same
  | artifact asked =>
    constructor
    · rintro ⟨_, content, same, described⟩
      cases same
      exact ⟨asked, content, rfl, described⟩
    · rintro ⟨_, content, same, described⟩
      cases same
      exact ⟨{ asked with actor }, content, rfl, described⟩

theorem IsCandidate.named {candidate : StoredResourceV1 X} (named : request.identity = .ok identity)
    (planned : (request.askedBy actor).IsCandidate candidate) :
    candidate.resourceId = identity.resourceId X := by
  have identified : candidate.identity = identity := by
    cases request with
    | configuration asked =>
      exact Except.ok.inj ((ConfigurationPublisher.IsCandidate.identity planned).symm.trans named)
    | artifact asked =>
      obtain ⟨-, -, -, content, read, same, -⟩ := ArtifactPublisher.IsCandidate.built planned
      have given := ArtifactPublisher.identity_of_contentOf read
      exact same.trans (Except.ok.inj (given.symm.trans named))
  unfold StoredResourceFields.resourceId
  rw [identified]

theorem IsCandidate.createdBy {candidate : StoredResourceV1 X}
    (planned : (request.askedBy actor).IsCandidate candidate) :
    boundedString actor "actor" 512 = .ok candidate.createdBy := by
  cases request with
  | configuration asked => exact ConfigurationPublisher.IsCandidate.actor planned
  | artifact asked => exact ArtifactPublisher.IsCandidate.actor planned

/-- The candidates of two attempts differ in who asked for them and in when. -/
theorem IsCandidate.again {actor' : JsonValue} {candidate again : StoredResourceV1 X}
    (planned : (request.askedBy actor).IsCandidate candidate)
    (replanned : (request.askedBy actor').IsCandidate again) :
    again.toStoredResourceFields = { candidate.toStoredResourceFields with
      createdBy := again.createdBy, createdAt := again.createdAt } := by
  cases request with
  | configuration asked =>
    exact @ConfigurationPublisher.IsCandidate.again X { asked with actor } candidate actor' again
      planned replanned
  | artifact asked =>
    exact @ArtifactPublisher.IsCandidate.again X { asked with actor } candidate actor' again
      planned replanned

theorem Replays.later (replays : request.Replays s bytes) (evolves : Evolves X s t) :
    request.Replays t bytes := by
  intro asked same content
  have yields := replays asked same
  rw [← yields content]
  revert yields
  cases asked.payload with
  | reference reference =>
    intro yields
    have delivered : Delivers s reference bytes := (yields bytes).mpr rfl
    change Delivers t reference content ↔ Delivers s reference content
    unfold Delivers
    rw [evolves.payload? delivered.registered]
  | _ => exact fun _ => Iff.rfl

theorem Replays.askedBy (replays : request.Replays s bytes) :
    (request.askedBy actor).Replays s bytes := by
  intro asked same content
  cases request with
  | configuration given => cases same
  | artifact given =>
    cases same
    exact replays given rfl content

theorem IsValid.later (valid : request.IsValid s) (evolves : Evolves X s t) : request.IsValid t := by
  cases request with
  | configuration asked => exact valid
  | artifact asked =>
    obtain ⟨content, read, accepted, builds, yields⟩ := valid
    refine ⟨content, read, accepted, builds, ?_⟩
    revert yields
    cases asked.payload with
    | reference reference => exact fun replayable => IsReplayable.later replayable evolves
    | _ => exact id

theorem IsUnpromoted.askedBy (alone : request.IsUnpromoted) :
    (request.askedBy actor).IsUnpromoted := by
  cases request <;> exact alone

end PublishRequest

/-- What attempts may have left of an identity. -/
structure Residue (request : PublishRequest X) (identity : ResourceIdentity) (s : World) : Prop where
  rows : s.row? .metadata (identity.resourceId X) = none ∨ ∃ actor candidate,
    (request.askedBy actor).IsCandidate candidate ∧
      candidate.resourceId = identity.resourceId X ∧ HasRows s candidate
  object : ∀ object, s.object? (identity.objectId X) = some object → request.Offers object

/-- An Object that attempts have added is the one of their request. -/
theorem Changes.offers (changes : Changes (Policy.attempting request identity) s t)
    {object : StoredObject} (found : t.object? (identity.objectId X) = some object) :
    s.object? (identity.objectId X) = some object ∨ request.Offers object := by
  induction changes with
  | refl => exact Or.inl found
  | tail _ change ih =>
    rcases change.objects (identity.objectId X) with same | ⟨_, added, named, -, kind, permitted, stored⟩
    · exact ih (same ▸ found)
    · rw [stored] at found
      cases found
      refine Or.inr (permitted ?_)
      rw [kind.reference]
      exact named.symm

namespace Residue

/-- What an attempt leaves behind is what attempts may leave. -/
theorem later (residue : Residue request identity s)
    (moved : Changes (Policy.attempting (request.askedBy actor) identity) s t) :
    Residue request identity t where
  rows := by
    rcases Changes.attempted moved with same | ⟨-, candidate, planned, named, rows⟩
    · rw [same.metadata]
      refine residue.rows.imp id ?_
      rintro ⟨actor, candidate, planned, named, rows⟩
      exact ⟨actor, candidate, planned, named, rows.later named same⟩
    · exact Or.inr ⟨actor, candidate, planned, named, rows⟩
  object := by
    intro object found
    rcases Changes.offers moved found with earlier | offered
    · exact residue.object object earlier
    · exact PublishRequest.offers_askedBy.mp offered

/-- A stored resource of the identity is the candidate of an attempt. -/
theorem stored (residue : Residue request identity s) {existing : StoredResourceV1 X}
    (stores : Stores s existing) (found : existing.resourceId = identity.resourceId X) :
    ∃ actor origin version, (request.askedBy actor).IsCandidate origin ∧
      existing = origin.withVersion version := by
  rcases residue.rows with absent | ⟨actor, origin, planned, named, rows⟩
  · obtain ⟨row, present, -⟩ := stores
    rw [found, absent] at present
    cases present
  · obtain ⟨version, held⟩ := rows.stores
    exact ⟨actor, origin, _, planned, held.unique stores (found.trans named.symm)⟩

/-- The row of an earlier attempt is what any attempt asks for. -/
theorem same_of_stores (residue : Residue request identity s) (named : request.identity = .ok identity)
    {existing candidate : StoredResourceV1 X} (stores : Stores s existing)
    (planned : (request.askedBy actor).IsCandidate candidate)
    (found : existing.resourceId = candidate.resourceId) :
    sameConfiguration candidate.toStoredResourceFields existing.toStoredResourceFields = true := by
  have identified := found.trans (PublishRequest.IsCandidate.named named planned)
  obtain ⟨_, origin, version, planned', rfl⟩ := residue.stored stores identified
  have fields := PublishRequest.IsCandidate.again planned planned'
  change sameConfiguration candidate.toStoredResourceFields
    { origin.toStoredResourceFields with recordVersion := version } = true
  rw [fields]
  exact StoredResourceFields.sameConfiguration_refl candidate.toStoredResourceFields

/-- Nothing that attempts leave stands against another one. -/
theorem not_clashes (residue : Residue request identity s) (named : request.identity = .ok identity) :
    ¬(request.askedBy actor).Clashes s := by
  cases request with
  | configuration asked =>
    rintro ⟨existing, candidate, stores, planned, found, different⟩
    have planned : ((PublishRequest.configuration asked).askedBy actor).IsCandidate candidate := planned
    rw [residue.same_of_stores named stores planned found] at different
    cases different
  | artifact asked =>
    have identified : ∀ {content}, ArtifactPublisher.contentOf asked = .ok content →
        content.identity = identity := fun read =>
      Except.ok.inj ((ArtifactPublisher.identity_of_contentOf read).symm.trans named)
    rintro (⟨existing, content, stores, read, found, differs⟩ |
      ⟨existing, candidate, stores, planned, found, different⟩ | ⟨object, content, read, found, differs⟩)
    · have read : ArtifactPublisher.contentOf asked = .ok content := read
      rw [identified read] at found
      obtain ⟨_, origin, _, planned, rfl⟩ := residue.stored stores found
      obtain ⟨-, profile, -, content', read', -, digest, byteLength, mediaType, -⟩ :=
        ArtifactPublisher.IsCandidate.built planned
      cases read.symm.trans read'
      rcases differs with other | other | other | other
      · exact other profile
      · exact other digest
      · exact other byteLength
      · exact other mediaType
    · have planned : ((PublishRequest.artifact asked).askedBy actor).IsCandidate candidate := planned
      have same := residue.same_of_stores named stores planned found
      unfold sameConfiguration at same
      rw [different] at same
      cases same
    · have read : ArtifactPublisher.contentOf asked = .ok content := read
      rw [identified read] at found
      obtain ⟨_, content', asks, read', digest, byteLength, mediaType⟩ := residue.object object found
      cases asks
      cases read.symm.trans read'
      rcases differs with other | other | other
      · exact other digest
      · exact other byteLength
      · exact other mediaType

end Residue

theorem stored_row_ne_none {resource : StoredResourceV1 X} (stores : Stores s resource)
    (named : resource.resourceId = identity.resourceId X) :
    s.row? .metadata (identity.resourceId X) ≠ none := by
  obtain ⟨row, found, -⟩ := stores
  rw [← named, found]
  exact Option.some_ne_none _

section

variable {calls : List (Event (runtime X) World)} {result : Except PyError (PublicationReceipt X)}

theorem PublishRequest.Attempted.faulty
    (attempted : request.Attempted identity (reliable X) s calls result t) :
    request.Attempted identity (faulty X) s calls result t :=
  Program.Among.mono faulty_of_reliable attempted

/-- A valid attempt that nothing interrupts returns the row of its identity, and commits it
or finds it. -/
theorem PublishRequest.Attempted.returns (consistent : Consistent X s)
    (residue : Residue request identity s) (named : request.identity = .ok identity)
    (alone : request.IsUnpromoted) (valid : (request.askedBy actor).IsValid s)
    (attempted : (request.askedBy actor).Attempted identity (reliable X) s calls result t) :
    ∃ receipt, result = .ok receipt ∧ Stores t receipt.resource ∧
      receipt.resource.resourceId = identity.resourceId X ∧
      (receipt.idempotent = true ∧ Quiet calls ∨
        ∃ event ∈ calls, event.before.row? .metadata (identity.resourceId X) = none) := by
  let P := Policy.attempting (request.askedBy actor) identity
  have kept : (following P s).invariant s := ⟨consistent, .refl⟩
  have safe := (@PublishRequest.safe_program X P False True s s (request.askedBy actor) kept
    (fun _ => valid) (fun _ planned _ => planned) fun _ offered _ => offered).narrow serving_of_reliable
  obtain ⟨-, -, ends⟩ := safe.among kept (fun _ _ => following_stable)
    (fun _ _ => Changes.of_elsewhere) attempted
  rw [List.nil_append] at ends
  have ends := ends alone.askedBy
  cases result with
  | ok receipt =>
    obtain ⟨candidate, planned, found, -, ⟨earlier, -, since, stores⟩, told⟩ := ends
    have identified := PublishRequest.IsCandidate.named named planned
    have keyed := found.trans identified
    refine ⟨receipt, rfl, ?_, keyed, (told.resolve_left id).imp id ?_⟩
    · obtain ⟨row, present, holds⟩ := stores
      have same := Changes.sameRows since (stored_row_ne_none ⟨row, present, holds⟩ keyed)
      exact ⟨row, by rw [keyed, same.metadata, ← keyed, present], holds⟩
    · intro once
      obtain ⟨event, member, version, stamp, absent, -⟩ := once.mem
      exact ⟨event, member, identified ▸ absent⟩
  | error error =>
    -- All that may fail such an attempt is a clash, and attempts leave none behind.
    obtain ⟨-, -, earlier, began, -, clash⟩ :=
      (ends.resolve_left id).resolve_left fun invalid => invalid trivial
    exact absurd clash ((residue.later began).not_clashes named)

/-- What is known after attempts that began over nothing. -/
structure Upheld (request : PublishRequest X) (identity : ResourceIdentity) (bytes : Bytes)
    (s : World) (attempts : List (Attempt X)) (t : World) : Prop where
  consistent : Consistent X t
  evolves : Evolves X s t
  residue : Residue request identity t
  content : ∀ object, t.object? (identity.objectId X) = some object → object.content = bytes
  commits : t.row? .metadata (identity.resourceId X) = none ∨
    ∃ attempt ∈ attempts, attempt.Commits identity t

/-- What holds over nothing holds after any attempt. -/
theorem Upheld.next {attempts : List (Attempt X)} {attempt : Attempt X}
    (upheld : Upheld request identity bytes s attempts attempt.before)
    (replays : request.Replays s bytes)
    (attempted : (request.askedBy attempt.actor).Attempted identity (faulty X) attempt.before
      attempt.calls attempt.result attempt.after) :
    Upheld request identity bytes s (attempts ++ [attempt]) attempt.after := by
  obtain ⟨moved, -⟩ := attempted.steps upheld.consistent
  have evolves := upheld.evolves.trans (Changes.evolves moved)
  refine ⟨Changes.consistent moved upheld.consistent, evolves, upheld.residue.later moved, ?_, ?_⟩
  · intro object found
    rcases attempted.object upheld.consistent found with earlier | ⟨-, asked, asks, delivers⟩
    · exact upheld.content object earlier
    · exact ((replays.later evolves).askedBy asked asks object.content).mp delivers
  · rcases attempted.rows upheld.consistent with same | ⟨absent, candidate, planned, named, stamped, rows⟩
    · rw [same.metadata]
      refine upheld.commits.imp id ?_
      rintro ⟨earlier, member, committed⟩
      refine ⟨earlier, List.mem_append_left _ member, committed.absent, committed.present, ?_⟩
      obtain ⟨resource, ⟨row, found, holds⟩, keyed, stamps⟩ := committed.stamps
      exact ⟨resource, ⟨row, by rw [keyed, same.metadata, ← keyed, found], holds⟩, keyed, stamps⟩
    · obtain ⟨version, stores⟩ := rows.stores
      have acted := PublishRequest.IsCandidate.createdBy planned
      refine Or.inr ⟨attempt, List.mem_append_right _ List.mem_cons_self, absent,
        rows.present named, candidate.withVersion version, stores, named, acted, stamped⟩

theorem upheld_of_series {attempts : List (Attempt X)} (consistent : Consistent X s)
    (unpublished : s.row? .metadata (identity.resourceId X) = none)
    (uncommitted : s.object? (identity.objectId X) = none) (replays : request.Replays s bytes)
    (series : Series request identity s attempts t) :
    Upheld request identity bytes s attempts t := by
  induction series with
  | none =>
    have bare : ∀ {object}, s.object? (identity.objectId X) ≠ some object := by simp [uncommitted]
    exact ⟨consistent, .refl X s, ⟨Or.inl unpublished, fun _ found => absurd found bare⟩,
      fun _ found => absurd found bare, Or.inl unpublished⟩
  | next _ attempted same ih =>
    subst same
    exact ih.next replays attempted

end

namespace Upheld

variable {attempts others : List (Attempt X)}

theorem stores (upheld : Upheld request identity bytes s attempts t)
    (present : t.row? .metadata (identity.resourceId X) ≠ none) :
    ∃ actor candidate, (request.askedBy actor).IsCandidate candidate ∧
      candidate.resourceId = identity.resourceId X ∧ HasRows t candidate :=
  upheld.residue.rows.resolve_left present

/-- The row of an artifact has its Object. -/
theorem object_of_row (upheld : Upheld request identity bytes s attempts t)
    (present : t.row? .metadata (identity.resourceId X) ≠ none) {asked : ArtifactRequest X}
    (asks : request = .artifact asked) : t.object? (identity.objectId X) ≠ none := by
  subst asks
  obtain ⟨actor, candidate, planned, named, rows⟩ := upheld.stores present
  obtain ⟨-, profile, -⟩ := ArtifactPublisher.IsCandidate.built planned
  obtain ⟨version, stores⟩ := rows.stores
  obtain ⟨object, found, -⟩ := upheld.consistent.backed _ stores profile
  have found : t.object? (objectIdOf candidate.resourceId) = some object := found
  rw [named] at found
  change t.object? (objectIdOf (identity.resourceId X)) ≠ none
  rw [found]
  exact Option.some_ne_none _

theorem metadata_same {candidate again : StoredResourceV1 X} {version version' : RecordVersion}
    (fields : again.toStoredResourceFields = { candidate.toStoredResourceFields with
      createdBy := again.createdBy, createdAt := again.createdAt }) :
    AgreeOutside ["createdBy", "createdAt"] ⟨candidate.toRecord, version⟩ ⟨again.toRecord, version'⟩ := by
  unfold AgreeOutside
  rw [fields]
  simp [StoredResourceFields.toRecord, StoredResourceFields.resourceId]

theorem provenance_same {candidate again : StoredResourceV1 X} {version version' : RecordVersion}
    (fields : again.toStoredResourceFields = { candidate.toStoredResourceFields with
      createdBy := again.createdBy, createdAt := again.createdAt }) :
    Option.Rel (AgreeOutside ["createdAt"]) (candidate.provenanceRecord.map fun record => ⟨record, version⟩)
      (again.provenanceRecord.map fun record => ⟨record, version'⟩) := by
  have provenance := congrArg StoredResourceFields.provenance fields
  have named := congrArg StoredResourceFields.resourceId fields
  unfold StoredResourceV1.provenanceRecord
  rw [provenance, named]
  cases candidate.provenance with
  | none => exact .none
  | some provenance =>
    refine .some ?_
    simp [AgreeOutside, StoredResourceFields.resourceId]

/-- Attempts from the same stores leave the same publication, whatever has failed. -/
theorem same (upheld : Upheld request identity bytes s attempts t)
    (again : Upheld request identity bytes s others u)
    (present : t.row? .metadata (identity.resourceId X) ≠ none)
    (present' : u.row? .metadata (identity.resourceId X) ≠ none) :
    SamePublication X identity t u := by
  obtain ⟨_, candidate, planned, named, version, stamp, metadata, provenance⟩ := upheld.stores present
  obtain ⟨_, other, planned', named', version', stamp', metadata', provenance'⟩ := again.stores present'
  rw [named] at metadata provenance
  rw [named'] at metadata' provenance'
  have fields := PublishRequest.IsCandidate.again planned planned'
  refine ⟨⟨_, _, metadata, metadata', metadata_same fields⟩, ?_, ?_⟩
  · rw [provenance, provenance']
    exact provenance_same fields
  · -- An artifact that is published is backed, so both have its Object or neither.
    cases found : t.object? (identity.objectId X) with
    | none =>
      cases found' : u.object? (identity.objectId X) with
      | none => exact .none
      | some object =>
        obtain ⟨asked, _, asks, -⟩ := again.residue.object object found'
        exact absurd found (upheld.object_of_row present asks)
    | some object =>
      obtain ⟨asked, content, asks, read, digest, byteLength, mediaType⟩ :=
        upheld.residue.object object found
      obtain ⟨object', found'⟩ := Option.ne_none_iff_exists'.mp (again.object_of_row present' asks)
      obtain ⟨asked', content', asks', read', digest', byteLength', mediaType'⟩ :=
        again.residue.object object' found'
      cases asks.symm.trans asks'
      cases read.symm.trans read'
      rw [found']
      refine .some ⟨?_, digest.trans digest'.symm, byteLength.trans byteLength'.symm,
        mediaType.trans mediaType'.symm⟩
      exact (upheld.content object found).trans (again.content object' found').symm

/-- Over the rows of a request, another valid attempt finds them and writes nothing. -/
theorem repeats (upheld : Upheld request identity bytes s attempts t)
    (present : t.row? .metadata (identity.resourceId X) ≠ none)
    (named : request.identity = .ok identity) (alone : request.IsUnpromoted)
    (valid : (request.askedBy actor).IsValid s) {calls : List (Event (runtime X) World)}
    {result : Except PyError (PublicationReceipt X)}
    (attempted : (request.askedBy actor).Attempted identity (reliable X) t calls result u) :
    (∃ receipt, result = .ok receipt ∧ receipt.idempotent = true) ∧
    (∀ event ∈ calls, event.after.tables = event.before.tables ∧
      ∀ objectId, event.after.object? objectId = event.before.object? objectId) ∧
    SameRows X identity t u ∧ u.object? (identity.objectId X) = t.object? (identity.objectId X) := by
  obtain ⟨moved, steps⟩ := attempted.faulty.steps upheld.consistent
  obtain ⟨receipt, returned, -, -, told⟩ :=
    attempted.returns upheld.consistent upheld.residue named alone (valid.later upheld.evolves)
  -- The row is there from the start, so no call can have found it missing.
  have there : ∀ event ∈ calls, event.before.row? .metadata (identity.resourceId X) ≠ none :=
    fun event member => (Changes.evolves (steps event member).began).metadata _ present
  obtain ⟨idempotent, quiet⟩ := told.resolve_right fun ⟨event, member, absent⟩ =>
    there event member absent
  refine ⟨⟨receipt, returned, idempotent⟩, fun event member => ⟨quiet event member, ?_⟩,
    Changes.sameRows moved present, ?_⟩
  -- Only an absent Object is ever put, and the row of an artifact has one.
  · rcases (steps event member).objects with same | ⟨asked, content, _, _, asks, read, -, absent, -⟩
    · exact same
    · exfalso
      obtain ⟨given, asked', asks'⟩ : ∃ given, request = .artifact given ∧
          ArtifactPublisher.contentOf given = .ok content := by
        cases request with
        | configuration given => cases asks
        | artifact given =>
          cases asks
          exact ⟨given, rfl, read⟩
      subst asked'
      have identified := Except.ok.inj
        ((ArtifactPublisher.identity_of_contentOf asks').symm.trans named)
      obtain ⟨object, found⟩ := Option.ne_none_iff_exists'.mp (upheld.object_of_row present rfl)
      have kept := (Changes.evolves (steps event member).began).objects _ _ found
      rw [identified, kept] at absent
      cases absent
  · cases found : t.object? (identity.objectId X) with
    | some object => exact (Changes.evolves moved).objects _ _ found
    | none =>
      by_contra other
      obtain ⟨object, added⟩ := Option.ne_none_iff_exists'.mp other
      obtain ⟨asked, _, asks, -⟩ := (upheld.residue.later moved).object object added
      exact upheld.object_of_row present asks found

end Upheld

/-- Nothing keeps an attempt from coming to an end. -/
theorem PublishRequest.attempted_of_reliable (request : PublishRequest X)
    (identity : ResourceIdentity) (s : World) : ∃ calls result t,
      request.Attempted identity (reliable X) s calls result t := by
  have uses : request.program.run.Uses Call.IsAnswerable := by
    cases request with
    | configuration asked =>
      have issues := @uses_publishConfiguration X (fun _ => True) (fun _ => True) asked
      exact issues.mono fun _ issued => issued.answerable
    | artifact asked =>
      exact (uses_publishArtifact asked.payload.registers_any).mono fun _ issued => issued.answerable
  obtain ⟨runs, -⟩ := Program.runs_execute answer_any uses (s := s) trivial
  have still : ∀ s, Changes (Policy.elsewhere X identity) s s := fun _ => .refl
  obtain ⟨calls, among⟩ := runs.among still
  exact ⟨calls, _, _, among⟩

namespace Reference

/-- What publishing the artifact is about. -/
def artifactContent : ArtifactPublisher.Content :=
  ⟨Reference.identity, "sha256:44136fa355b3678a1146ad16f7e8649e94fb4fc21fe77e8310c060f61caaff8a", 2,
    "application/octet-stream"⟩

/-- The artifact, published by another actor. -/
def handedOver : ArtifactRequest Platform.reference := { artifact with actor := .str "bob" }

/-- The arguments of its candidate. -/
def handedOverArguments : String → StoredResourceArguments Platform.reference :=
  ArtifactPublisher.candidateArguments handedOver artifactContent
    (ArtifactPublisher.objectRefOf Platform.reference artifactContent) []

theorem contentOf_handedOver : ArtifactPublisher.contentOf handedOver = .ok artifactContent := by
  refine bind_ok.mpr ⟨Reference.identity, by decide +kernel, ?_⟩
  refine bind_ok.mpr ⟨"application/octet-stream", by decide +kernel, ?_⟩
  exact bind_ok.mpr ⟨(artifactContent.digest, artifactContent.byteLength), by decide +kernel, rfl⟩

theorem isValid_handedOver (s : World) : ArtifactPublisher.IsValid s handedOver := by
  have planned : ArtifactPublisher.plan handedOver artifactContent = .ok handedOverArguments :=
    bind_ok.mpr ⟨[], by decide +kernel, rfl⟩
  have timed : utcTimestampOfDatetime referenceTime = .ok "2026-01-01T00:00:00.000000Z" := by decide
  have built : (StoredResourceV1.create Platform.reference
      (handedOverArguments "2026-01-01T00:00:00.000000Z")).isOk = true := by decide +kernel
  cases created : StoredResourceV1.create Platform.reference
      (handedOverArguments "2026-01-01T00:00:00.000000Z") with
  | error error => simp [created, Except.isOk, Except.toBool] at built
  | ok candidate =>
    have planned : ArtifactPublisher.IsCandidate handedOver candidate :=
      ⟨_, _, _, _, contentOf_handedOver, planned, timed, created⟩
    exact ⟨_, contentOf_handedOver, rfl, planned.builds contentOf_handedOver, trivial⟩

/-- Stores that commit an Object and then report that they have not. -/
def losing : Answers (runtime Platform.reference) World
  | .object call, world =>
    (.error malformed, (answer Platform.reference (.constant emptyObject) (.object call) world).2)
  | request, world => answer Platform.reference (.constant emptyObject) request world

theorem losing_conform : losing.Conform (faulty Platform.reference) (Call.Carries emptyObject)
    (IsUniform emptyObject) where
  answered := by
    intro request s carries uniform
    have answered := (answer_constant emptyObject).answered request s carries uniform
    cases request with
    | object call => exact Or.inr ⟨malformed, rfl, Or.inr ⟨_, Or.inl answered⟩⟩
    | _ => exact faulty_of_reliable _ _ _ _ answered
  kept := by
    intro request s carries uniform
    have kept := (answer_constant emptyObject).kept request s carries uniform
    cases request <;> exact kept

/-- The artifact, published over stores that lose the answer of its Object. -/
def lost : Except PyError (PublicationReceipt Platform.reference) × World :=
  (ArtifactPublisher.publish artifact).run.execute losing World.empty

end Reference

/-- A publication that has been interrupted any number of times goes through the next time
that nothing interrupts it, and it is what it would have been the first time. -/
theorem publish_recovers (consistent : Consistent X s) (named : request.identity = .ok identity)
    (alone : request.IsUnpromoted)
    (unpublished : s.row? .metadata (identity.resourceId X) = none)
    (uncommitted : s.object? (identity.objectId X) = none) (replays : request.Replays s bytes)
    {attempts : List (Attempt X)} (series : Series request identity s attempts t)
    (valid : (request.askedBy actor).IsValid s) :
    (∃ calls result u, (request.askedBy actor).Attempted identity (reliable X) t calls result u) ∧
    ∀ calls result u, (request.askedBy actor).Attempted identity (reliable X) t calls result u →
      Recovered request identity s (attempts ++ [⟨actor, t, calls, result, u⟩]) result u := by
  refine ⟨(request.askedBy actor).attempted_of_reliable identity t, ?_⟩
  intro calls result u attempted
  have begun : Upheld request identity bytes s [] s :=
    upheld_of_series consistent unpublished uncommitted replays .none
  have earlier := upheld_of_series consistent unpublished uncommitted replays series
  obtain ⟨receipt, returned, stores, keyed, -⟩ := attempted.returns earlier.consistent
    earlier.residue named alone (valid.later earlier.evolves)
  have present := stored_row_ne_none stores keyed
  have upheld := @Upheld.next X s identity request bytes attempts ⟨actor, t, calls, result, u⟩ earlier
    replays attempted.faulty
  refine ⟨⟨receipt, returned, stores, keyed⟩, ?_, upheld.commits.resolve_left present, ?_⟩
  · intro actor' calls' other v valid' attempted'
    obtain ⟨receipt', -, stores', keyed', -⟩ :=
      attempted'.returns consistent begun.residue named alone valid'
    have single := @Upheld.next X s identity request bytes [] ⟨actor', s, calls', other, v⟩ begun
      replays attempted'.faulty
    exact single.same upheld (stored_row_ne_none stores' keyed') present
  · exact fun _ _ _ _ valid' attempted' => upheld.repeats present named alone valid' attempted'

/-- An artifact whose Object was committed without its publisher being told is published by
the next attempt, which another actor makes. -/
theorem publish_recovers_lost :
    let request := PublishRequest.artifact Reference.artifact
    ∃ calls : List (Event (runtime Platform.reference) World), ∃ again result t,
      Series request Reference.identity World.empty
        [⟨.str "alice", World.empty, calls, Reference.lost.1, Reference.lost.2⟩] Reference.lost.2 ∧
      Reference.lost.1.isOk = false ∧
      Reference.lost.2.row? .metadata (Reference.identity.resourceId Platform.reference) = none ∧
      Reference.lost.2.object? (Reference.identity.objectId Platform.reference) ≠ none ∧
      Recovered request Reference.identity World.empty
        ([⟨.str "alice", World.empty, calls, Reference.lost.1, Reference.lost.2⟩] ++
          [⟨.str "bob", Reference.lost.2, again, result, t⟩]) result t := by
  intro request
  have uses := @uses_publishArtifact _ (fun source => source = .ofBytes Reference.emptyObject)
    Reference.artifact rfl
  obtain ⟨runs, -⟩ := Program.runs_execute Reference.losing_conform
    (uses.mono fun _ issued => issued.carries) (isUniform_empty Reference.emptyObject)
  have still : ∀ s, Changes (Policy.elsewhere Platform.reference Reference.identity) s s :=
    fun _ => .refl
  obtain ⟨calls, attempted⟩ := runs.among still
  have series := @Series.next _ request Reference.identity World.empty [] _
    ⟨.str "alice", World.empty, calls, Reference.lost.1, Reference.lost.2⟩ .none attempted rfl
  have replays : request.Replays World.empty Reference.emptyObject := by
    intro asked same content
    have same : PublishRequest.artifact Reference.artifact = .artifact asked := same
    cases same
    exact Iff.rfl
  obtain ⟨⟨again, result, t, finished⟩, recovered⟩ := @publish_recovers Platform.reference World.empty
    Reference.lost.2 Reference.identity request (.str "bob") Reference.emptyObject
    (fresh_empty _).consistent (by decide +kernel) ⟨rfl, rfl⟩ rfl rfl replays _ series
    (Reference.isValid_handedOver World.empty)
  refine ⟨calls, again, result, t, series, by decide +kernel, by decide +kernel, by decide +kernel, ?_⟩
  exact recovered again result t finished

end ConfigArtifact
