import ConfigArtifact.Operations.Alone.Artifact
import ConfigArtifact.Simulation

/-! What a publication has written when it blames its arguments.

Either publisher looks at the channel and the pointer version last, over the row
it has committed. The artifact publisher builds its candidate, and with it checks
the other arguments, over the Object it has committed.
-/

set_option autoImplicit false

namespace ConfigArtifact

open Interaction Fallible MetadataRepository

variable {X : Platform} {s t u : World}

/-- A call that ends with a ValueError or a TypeError. -/
def IsRejection {A : Type} (result : Except PyError A) : Prop :=
  ∃ error, result = .error error ∧ error.isArgumentError = true

instance {A : Type} : DecidablePred (@IsRejection A)
  | .ok _ => isFalse (by rintro ⟨_, ⟨⟩, -⟩)
  | .error error => decidable_of_iff (error.isArgumentError = true)
      ⟨fun argument => ⟨error, rfl, argument⟩, by rintro ⟨_, ⟨⟩, argument⟩; exact argument⟩

/-- Whenever the program rejects its arguments, the stores are as before. -/
def RejectsUnwritten {A : Type} (program : PyM X A) (s : World) : Prop :=
  ∀ result t, program.run.Runs (reliable X) s result t → IsRejection result → Unwritten s t

theorem IsRejection.of_bind {A B : Type} {result : Except PyError A} {receipt : A → B}
    (rejected : IsRejection (result >>= fun value => .ok (receipt value))) : IsRejection result := by
  obtain ⟨error, raised, argument⟩ := rejected
  cases result with
  | ok value => cases raised
  | error other =>
    cases raised
    exact ⟨_, rfl, argument⟩

theorem IsRejection.bind {A B : Type} {result : Except PyError A} {next : A → Except PyError B}
    (rejected : IsRejection result) : IsRejection (result >>= next) := by
  obtain ⟨error, rfl, argument⟩ := rejected
  exact ⟨error, rfl, argument⟩

/-- The promotion of a row that a publication has committed alone. -/
theorem promotes_committed {env : Environment (runtime X) World} (covered : Covered env)
    (consistent : Consistent X s) {candidate : StoredResourceV1 X}
    (absent : s.row? .metadata candidate.resourceId = none) (published : candidate.state = .published)
    (backed : candidate.profile = .artifact → IsBacked s candidate) {actor : JsonValue}
    (acted : boundedString actor "actor" 512 = .ok candidate.createdBy)
    {version stamp : RecordVersion} {channel expectedPointerVersion : JsonValue}
    {promoted : Except PyError (Option ResourceChannelV1)}
    (runs : (promotePublished candidate.profile (candidate.withVersion (some version)) channel
      expectedPointerVersion actor).run.Runs env (s.publish candidate version stamp) promoted t) :
    (IsRejection promoted ↔ ¬ChannelArguments channel expectedPointerVersion) ∧
      (IsRejection promoted → t.row? .metadata candidate.resourceId ≠ none) := by
  have kept := consistent.publish absent published backed version stamp
  have versioned : (candidate.withVersion (some version)).state = .published := published
  refine ⟨promotePublished_rejected covered kept versioned ⟨_, acted⟩ runs, ?_⟩
  rintro ⟨error, rfl, -⟩
  rw [promotePublished_unchanged covered kept runs, row?_publish_metadata, if_pos rfl]
  simp

namespace ConfigurationPublisher

/-- A request that would commit a row has channel arguments that it accepts. -/
def ChecksFirst (request : ConfigurationRequest X) (s : World) : Prop :=
  ∀ identity, ResourceIdentity.create request.namespace request.kind request.name request.version =
      .ok identity → s.row? .metadata (identity.resourceId X) = none → IsValid request →
    ChannelArguments request.channel request.expectedPointerVersion

variable {request : ConfigurationRequest X}

/-- The promotion over the row that a request has committed. -/
theorem IsCandidate.promotes {candidate : StoredResourceV1 X} (planned : IsCandidate request candidate)
    (consistent : Consistent X s) (absent : s.row? .metadata candidate.resourceId = none)
    {version stamp : RecordVersion} {promoted : Except PyError (Option ResourceChannelV1)}
    (runs : (promotePublished .configuration (candidate.withVersion (some version)) request.channel
      request.expectedPointerVersion request.actor).run.Runs (reliable X)
      (s.publish candidate version stamp) promoted t) :
    (IsRejection promoted ↔ ¬ChannelArguments request.channel request.expectedPointerVersion) ∧
      (IsRejection promoted → t.row? .metadata candidate.resourceId ≠ none) := by
  obtain ⟨published, profile, -⟩ := planned.built
  rw [← profile] at runs
  refine promotes_committed covered_reliable consistent absent published (fun artifact => ?_)
    planned.actor runs
  cases profile.symm.trans artifact

theorem rejectsUnwritten_of_checksFirst (consistent : Consistent X s)
    (checks : ChecksFirst request s) : RejectsUnwritten (publish request) s := by
  intro result t runs rejected
  cases runs_publish covered_reliable consistent runs with
  | refused invalid => exact .refl s
  | found planned stores named runs =>
    obtain ⟨error, rfl, -⟩ := rejected
    rw [existingReceipt_unchanged covered_reliable consistent runs]
    exact .refl s
  | committed planned absent runs =>
    have accepted := checks _ planned.identity absent planned.valid
    exact absurd accepted ((planned.promotes consistent absent runs).1.mp rejected.of_bind)

theorem checksFirst_of_rejectsUnwritten (consistent : Consistent X s)
    (unwritten : RejectsUnwritten (publish request) s) : ChecksFirst request s := by
  intro identity named absent valid
  by_contra refused
  have uses := (@uses_publishConfiguration X (fun _ => True) (fun _ => True) request).mono
    fun _ issued => issued.answerable
  obtain ⟨result, t, runs⟩ : ∃ result t, (publish request).run.Runs (reliable X) s result t :=
    ⟨_, _, (Program.runs_execute answer_any uses (s := s) trivial).1⟩
  have unwritten := unwritten result t runs
  cases runs_publish covered_reliable consistent runs with
  | refused invalid => exact invalid valid
  | @found candidate existing _ _ planned stores same _ =>
    have identified := Except.ok.inj (named.symm.trans planned.identity)
    obtain ⟨row, found, -⟩ := stores
    rw [same, show candidate.resourceId = candidate.identity.resourceId X from rfl, ← identified,
      absent] at found
    cases found
  | committed planned absent runs =>
    obtain ⟨rejects, writes⟩ := planned.promotes consistent absent runs
    have rejected := rejects.mpr refused
    have same := (unwritten rejected.bind).row? .metadata
    exact writes rejected ((same _).trans absent)

end ConfigurationPublisher

/-- Stores that conform, and commit an Object whenever they may. -/
def willing (X : Platform) : Environment (runtime X) World
  | .object (.put objectId payload mediaType digest length userMetadata creationContext provenance),
      before, reply, after =>
    reliable X (.object (.put objectId payload mediaType digest length userMetadata creationContext
      provenance)) before reply after ∧ ∀ error : PyError, reply = .error error →
        X.checkMetadata (committedMetadata X objectId digest length mediaType userMetadata
          creationContext provenance) = .ok () →
        (before.object? objectId ≠ none → error.isObjectConflict = true) ∧
        (before.object? objectId = none → ∀ bytes, Delivers before payload bytes →
          ¬IsIntact X digest length bytes)
  | request, before, reply, after => reliable X request before reply after

open Classical in
/-- How willing stores answer. -/
noncomputable def willingAnswers (X : Platform) : Answers (runtime X) World
  | .object (.put objectId payload mediaType digest length userMetadata creationContext provenance),
      world =>
    let metadata := committedMetadata X objectId digest length mediaType userMetadata
      creationContext provenance
    match X.checkMetadata metadata, world.object? objectId with
    | .error error, _ => (.error error, world)
    | .ok (), some _ => (.error objectExists, world)
    | .ok (), none =>
      if delivered : ∃ bytes, Delivers world payload bytes ∧ IsIntact X digest length bytes then
        (.ok ⟨.object (objectData X metadata), []⟩,
          world.setObject objectId ⟨metadata, delivered.choose⟩)
      else (.error malformed, world)
  | request, world => answer X Delivery.any request world

theorem covered_willing : Covered (willing X) := by
  intro request before reply after answered
  unfold willing at answered
  split at answered
  · exact answered.1
  · exact answered

theorem willing_other {request : Call X} {before after : World}
    {reply : Except PyError request.Result}
    (other : ∀ objectId payload mediaType digest length userMetadata creationContext provenance,
      request ≠ .object (.put objectId payload mediaType digest length userMetadata creationContext
        provenance)) :
    willing X request before reply after = reliable X request before reply after ∧
      willingAnswers X request before = answer X Delivery.any request before := by
  unfold willing willingAnswers
  constructor
  · split
    · exact absurd rfl (other _ _ _ _ _ _ _ _)
    · rfl
  · split
    · exact absurd rfl (other _ _ _ _ _ _ _ _)
    · rfl

theorem willingAnswers_conform :
    (willingAnswers X).Conform (willing X) Call.IsAnswerable fun _ => True where
  answered := by
    intro request before answerable _
    by_cases puts : ∃ objectId payload mediaType digest length userMetadata creationContext provenance,
        request = .object (.put objectId payload mediaType digest length userMetadata creationContext
          provenance)
    · obtain ⟨objectId, payload, mediaType, digest, length, userMetadata, creationContext,
        provenance, rfl⟩ := puts
      simp only [willingAnswers]
      cases checked : X.checkMetadata (committedMetadata X objectId digest length mediaType
          userMetadata creationContext provenance) with
      | error error =>
        refine ⟨Or.inr ⟨error, checked, rfl, rfl⟩, ?_⟩
        rintro _ - accepted
        cases checked.symm.trans accepted
      | ok accepted =>
        cases found : before.object? objectId with
        | some object =>
          refine ⟨Or.inl ⟨checked, Or.inr (Or.inl ⟨rfl, by simp [found], objectExists, rfl, rfl⟩)⟩, ?_⟩
          rintro _ ⟨⟩ -
          exact ⟨fun _ => rfl, fun absent => by cases found.symm.trans absent⟩
        | none =>
          dsimp only
          split
          · next delivered =>
            obtain ⟨delivers, intact⟩ := delivered.choose_spec
            refine ⟨Or.inl ⟨checked, Or.inl ⟨_, _, delivers, intact, found, rfl, rfl⟩⟩, ?_⟩
            rintro _ ⟨⟩
          · next undelivered =>
            have broken : ¬IsReplayable X before payload digest length := fun replayable => by
              obtain ⟨bytes, delivers⟩ := replayable.1
              exact undelivered ⟨bytes, delivers, replayable.2 bytes delivers⟩
            refine ⟨Or.inl ⟨checked, Or.inr (Or.inr ⟨rfl, broken, malformed, rfl⟩)⟩, ?_⟩
            rintro _ ⟨⟩ -
            exact ⟨fun present => absurd found present,
              fun _ bytes delivers intact => undelivered ⟨bytes, delivers, intact⟩⟩
    · have other : ∀ objectId payload mediaType digest length userMetadata creationContext provenance,
          request ≠ .object (.put objectId payload mediaType digest length userMetadata
            creationContext provenance) :=
        fun _ _ _ _ _ _ _ _ same => puts ⟨_, _, _, _, _, _, _, _, same⟩
      obtain ⟨answers, chosen⟩ := @willing_other X request before
        (willingAnswers X request before).2 (willingAnswers X request before).1 other
      rw [answers, chosen]
      exact answer_any.answered request before answerable trivial
  kept := fun _ _ _ _ => trivial

namespace ArtifactPublisher

/-- Bytes that the payload of a request may deliver. -/
def MayDeliver (s : World) : ArtifactPayload → Bytes → Prop
  | .bytes raw, bytes => bytes = raw
  | .reference reference, bytes => Delivers s reference bytes
  | .source source, bytes | .factory source, bytes | .stream source, bytes => source.yields bytes
  | .unsupported, _ => False

/-- The Object of a request is not there, and may be committed. -/
def MayCommit (request : ArtifactRequest X) (content : Content) (s : World) : Prop :=
  s.object? (content.identity.objectId X) = none ∧ ∃ bytes, MayDeliver s request.payload bytes ∧
    IsIntact X content.digest content.byteLength bytes

/-- Of requests whose Object the surface takes, one that would commit it has arguments a
candidate accepts, and one that would commit its row has channel arguments that are
accepted too. -/
structure ChecksFirst (request : ArtifactRequest X) (s : World) : Prop where
  candidate : ∀ content, contentOf request = .ok content →
    s.row? .metadata (content.identity.resourceId X) = none → surface request content = .ok () →
    MayCommit request content s → ∀ error, Refuses request content error →
      error.isArgumentError = false
  channel : ∀ content, contentOf request = .ok content →
    s.row? .metadata (content.identity.resourceId X) = none → surface request content = .ok () →
    MayCommit request content s ∨ Held X s content → Builds request content →
    ChannelArguments request.channel request.expectedPointerVersion

section

variable {request : ArtifactRequest X} {content : Content} {payload : PayloadReference}
  {env : Environment (runtime X) World}

/-- A registered payload delivers what its request may deliver. -/
theorem delivers_iff {given : ArtifactPayload} {bytes : Bytes}
    (supplies : Supplies s u payload given) : Delivers u payload bytes ↔ MayDeliver s given bytes := by
  have of_source : ∀ source, u.payload? payload.token = some source →
      (Delivers u payload bytes ↔ source.yields bytes) := by
    intro source found
    unfold Delivers
    rw [found]
    simp
  cases given with
  | bytes raw => exact of_source _ supplies
  | reference reference =>
    obtain ⟨rfl, rfl⟩ := supplies
    rfl
  | source source => exact of_source _ supplies
  | factory source => exact of_source _ supplies
  | stream source => exact of_source _ supplies
  | unsupported => exact supplies.elim

theorem mayCommit_iff (unwritten : Unwritten s u) (supplies : Supplies s u payload request.payload) :
    MayCommit request content s ↔ u.object? (content.identity.objectId X) = none ∧
      ∃ bytes, Delivers u payload bytes ∧ IsIntact X content.digest content.byteLength bytes := by
  unfold MayCommit
  rw [unwritten.object?]
  simp only [delivers_iff supplies]

theorem held_iff (unwritten : Unwritten s u) : Held X u content ↔ Held X s content := by
  unfold Held
  rw [unwritten.object?]

/-- An Object phase that succeeds commits an Object, or finds the one that is held. -/
theorem ObjectStep.holds {pair : ObjectMetadata × Bool}
    (step : ObjectStep env u request content payload (.ok pair) t) :
    surface request content = .ok () ∧ Held X t content ∧ (Held X u content ∧ t = u ∨
      (u.object? (content.identity.objectId X) = none ∧
        ∃ bytes, Delivers u payload bytes ∧ IsIntact X content.digest content.byteLength bytes) ∧
      ¬Unwritten u t) := by
  cases step with
  | committed accepted delivers intact absent =>
    refine ⟨accepted, held_stored _,
      Or.inr ⟨⟨absent, _, delivers, intact⟩, fun unwritten => ?_⟩⟩
    have same := unwritten.object? (content.identity.objectId X)
    rw [World.object?_setObject_self, absent] at same
    cases same
  | existing accepted found named held => exact ⟨accepted, held, Or.inl ⟨held, rfl⟩⟩

theorem IsCandidate.resourceId {candidate : StoredResourceV1 X}
    (planned : IsCandidate request candidate) (read : contentOf request = .ok content) :
    candidate.resourceId = content.identity.resourceId X := by
  obtain ⟨-, -, -, content', read', identity, -⟩ := planned.built
  cases read.symm.trans read'
  rw [← identity]
  rfl

/-- The promotion over the row that a request has committed. -/
theorem IsCandidate.promotes (covered : Covered env) {candidate : StoredResourceV1 X}
    (planned : IsCandidate request candidate) (read : contentOf request = .ok content)
    (consistent : Consistent X s) (held : Held X s content)
    (absent : s.row? .metadata (content.identity.resourceId X) = none) {version stamp : RecordVersion}
    {promoted : Except PyError (Option ResourceChannelV1)}
    (runs : (promotePublished .artifact (candidate.withVersion (some version)) request.channel
      request.expectedPointerVersion request.actor).run.Runs env
      (s.publish candidate version stamp) promoted t) :
    (IsRejection promoted ↔ ¬ChannelArguments request.channel request.expectedPointerVersion) ∧
      (IsRejection promoted → t.row? .metadata (content.identity.resourceId X) ≠ none) := by
  obtain ⟨published, profile, -⟩ := planned.built
  rw [← profile] at runs
  rw [← planned.resourceId read] at absent ⊢
  exact promotes_committed covered consistent absent published (fun _ => planned.backed read held)
    planned.actor runs

theorem rejectsUnwritten_of_checksFirst (consistent : Consistent X s)
    (checks : ChecksFirst request s) : RejectsUnwritten (publish request) s := by
  intro result t runs rejected
  rcases runs_publish covered_reliable consistent runs with ⟨-, unwritten, -⟩ |
    ⟨content, payload, u, read, unwritten, kept, supplies, publishes⟩
  · exact unwritten
  have mayCommit := @mayCommit_iff X s u request content payload unwritten supplies
  cases publishes with
  | found stores named runs =>
    obtain ⟨error, rfl, -⟩ := rejected
    rcases runs_publishExisting covered_reliable kept read stores named runs with
      ⟨-, rfl, -⟩ | ⟨-, ⟨rfl, -⟩ | ⟨candidate, -, receipt⟩⟩
    · exact unwritten
    · exact unwritten
    · rwa [existingReceipt_unchanged covered_reliable kept receipt]
  | stopped absent step =>
    cases step
    exact unwritten
  | refused absent step refuses =>
    obtain ⟨accepted, -, ⟨-, rfl⟩ | ⟨commits, -⟩⟩ := step.holds
    · exact unwritten
    · obtain ⟨error, raised, argument⟩ := rejected
      cases raised
      rw [unwritten.row?] at absent
      rw [checks.candidate content read absent accepted (mayCommit.mpr commits) _ refuses] at argument
      cases argument
  | committed absent step planned runs =>
    obtain ⟨accepted, held, provided⟩ := step.holds
    obtain ⟨tables, stays⟩ := step.kept kept
    have refused := (planned.promotes covered_reliable read stays held
      ((World.row?_of_tables tables _ _).trans absent) runs).1.mp rejected.of_bind
    rw [unwritten.row?] at absent
    refine absurd (checks.channel content read absent accepted ?_ (planned.builds read)) refused
    rcases provided with ⟨held, -⟩ | ⟨commits, -⟩
    · exact Or.inr ((held_iff unwritten).mp held)
    · exact Or.inl (mayCommit.mpr commits)

/-- Stores that commit an Object whenever they may let a publication have its Object. -/
theorem stopped_willing (accepted : surface request content = .ok ()) (unwritten : Unwritten s u) (supplies : Supplies s u payload request.payload)
    (provided : MayCommit request content s ∨ Held X s content) {error : PyError} :
    ¬ObjectStep (willing X) u request content payload (.error error) t := by
  intro step
  cases step with
  | failed answered clashing =>
    obtain ⟨conflict, undelivered⟩ := answered.2 _ rfl accepted
    rcases provided with commits | held
    · obtain ⟨absent, bytes, delivers, intact⟩ := (mayCommit_iff unwritten supplies).mp commits
      exact undelivered absent bytes delivers intact
    · have held := (held_iff unwritten).mpr held
      refine clashing (conflict ?_) held
      obtain ⟨object, found, -⟩ := held
      intro absent
      cases found.symm.trans absent

/-- A publication of an absent row over stores that are willing. -/
theorem publishes_willing (consistent : Consistent X s) (read : contentOf request = .ok content)
    (absent : s.row? .metadata (content.identity.resourceId X) = none)
    (accepted : surface request content = .ok ())
    (provided : MayCommit request content s ∨ Held X s content) :
    ∃ result t, (publish request).run.Runs (reliable X) s result t ∧ ∃ payload u v pair,
      Unwritten s u ∧ Consistent X u ∧ Supplies s u payload request.payload ∧
      ObjectStep (willing X) u request content payload (.ok pair) v ∧
      ((∃ error, t = v ∧ result = .error error ∧ Refuses request content error) ∨
        ∃ candidate version stamp promoted, IsCandidate request candidate ∧
          (promotePublished .artifact (candidate.withVersion (some version)) request.channel
            request.expectedPointerVersion request.actor).run.Runs (willing X)
            (v.publish candidate version stamp) promoted t ∧
          (IsRejection promoted → IsRejection result)) := by
  have registers : request.payload.Registers fun _ => True := by
    cases request.payload <;> trivial
  have uses := (@uses_publishArtifact X (fun _ => True) request registers).mono
    fun _ issued => issued.answerable
  obtain ⟨result, t, runs⟩ : ∃ result t, (publish request).run.Runs (willing X) s result t :=
    ⟨_, _, (Program.runs_execute willingAnswers_conform uses (s := s) trivial).1⟩
  refine ⟨result, t, runs.mono covered_willing, ?_⟩
  rcases runs_publish covered_willing consistent runs with ⟨unread, -⟩ |
    ⟨content', payload, u, read', unwritten, kept, supplies, publishes⟩
  · exact absurd read (unread content)
  cases read.symm.trans read'
  cases publishes with
  | found stores named =>
    obtain ⟨row, found, -⟩ := stores
    rw [named, unwritten.row?, absent] at found
    cases found
  | stopped _ step => exact absurd step (stopped_willing accepted unwritten supplies provided)
  | refused _ step refuses =>
    exact ⟨payload, u, _, _, unwritten, kept, supplies, step, Or.inl ⟨_, rfl, rfl, refuses⟩⟩
  | committed _ step planned promotes =>
    exact ⟨payload, u, _, _, unwritten, kept, supplies, step,
      Or.inr ⟨_, _, _, _, planned, promotes, fun rejected => rejected.bind⟩⟩

theorem checksFirst_of_rejectsUnwritten (consistent : Consistent X s)
    (unwritten : RejectsUnwritten (publish request) s) : ChecksFirst request s where
  candidate := by
    intro content read absent accepted commits error refuses
    by_contra argument
    obtain ⟨result, t, runs, payload, u, v, pair, since, kept, supplies, step, ends⟩ :=
      publishes_willing consistent read absent accepted (Or.inl commits)
    rcases ends with ⟨error', rfl, rfl, refuses'⟩ | ⟨candidate, _, _, _, planned, -⟩
    · obtain rfl := refuses.unique refuses'
      have whole := unwritten _ _ runs ⟨_, rfl, Bool.eq_true_of_not_eq_false argument⟩
      obtain ⟨-, -, ⟨⟨object, found, -⟩, -⟩ | ⟨-, written⟩⟩ := step.holds
      · cases found.symm.trans ((mayCommit_iff since supplies).mp commits).1
      · exact written ⟨whole.tables.trans since.tables.symm, whole.objects.trans since.objects.symm⟩
    · exact refuses.not_candidate read planned
  channel := by
    intro content read absent accepted provided builds
    by_contra refused
    obtain ⟨result, t, runs, payload, u, v, pair, since, kept, supplies, step, ends⟩ :=
      publishes_willing consistent read absent accepted provided
    rcases ends with ⟨error, -, -, refuses⟩ | ⟨candidate, _, _, promoted, planned, promotes, raised⟩
    · obtain ⟨candidate, planned⟩ := builds.candidate read
      exact refuses.not_candidate read planned
    · obtain ⟨tables, stays⟩ := step.kept kept
      have unpublished : v.row? .metadata (content.identity.resourceId X) = none := by
        rw [World.row?_of_tables tables, since.row?, absent]
      obtain ⟨rejects, writes⟩ := planned.promotes covered_willing read stays
        step.holds.2.1 unpublished promotes
      have rejected := rejects.mpr refused
      have same := (unwritten _ _ runs (raised rejected)).row? .metadata
      exact writes rejected ((same _).trans absent)

end

end ArtifactPublisher

/-- A publication that rejects its arguments has written nothing, whatever they are and
whichever publisher it is, exactly if they are checked before it writes. -/
theorem publish_rejectsUnwritten (consistent : Consistent X s) :
    (∀ request : ConfigurationRequest X,
      RejectsUnwritten (ConfigurationPublisher.publish request) s ↔
        ConfigurationPublisher.ChecksFirst request s) ∧
    ∀ request : ArtifactRequest X,
      RejectsUnwritten (ArtifactPublisher.publish request) s ↔
        ArtifactPublisher.ChecksFirst request s :=
  ⟨fun _ => ⟨ConfigurationPublisher.checksFirst_of_rejectsUnwritten consistent,
      ConfigurationPublisher.rejectsUnwritten_of_checksFirst consistent⟩,
    fun _ => ⟨ArtifactPublisher.checksFirst_of_rejectsUnwritten consistent,
      ArtifactPublisher.rejectsUnwritten_of_checksFirst consistent⟩⟩

/-- An artifact whose actor is not a value that JSON has. -/
def Reference.unencoded : ArtifactRequest Platform.reference :=
  { Reference.artifact with actor := .foreign .bytes }

/-- Over no rows at all, a publication that does not promote is checked first, and so is
one that the Object surface refuses. -/
theorem publish_rejectsUnwritten_empty :
    RejectsUnwritten (ConfigurationPublisher.publish Reference.configuration) World.empty ∧
      RejectsUnwritten (ArtifactPublisher.publish Reference.unencoded) World.empty := by
  have consistent := (fresh_empty Platform.reference).consistent
  obtain ⟨configurations, artifacts⟩ := publish_rejectsUnwritten consistent
  refine ⟨(configurations Reference.configuration).mpr fun _ _ _ _ => Or.inl ⟨rfl, rfl⟩,
    (artifacts Reference.unencoded).mpr ?_⟩
  have refused : ∀ content, ArtifactPublisher.surface Reference.unencoded content ≠ .ok () := by
    intro content accepted
    change Except.error Reference.unencodable = Except.ok () at accepted
    cases accepted
  exact ⟨fun content _ _ accepted => absurd accepted (refused content),
    fun content _ _ accepted => absurd accepted (refused content)⟩

namespace Reference

/-- A configuration with a channel, but no pointer version to expect. -/
def uncounted : ConfigurationRequest Platform.reference :=
  { configuration with channel := .str "stable" }

/-- An artifact whose labels are not a mapping. -/
def mislabelled : ArtifactRequest Platform.reference := { artifact with labels := .int 1 }

/-- A program run alone over empty stores. -/
theorem runs_alone {A : Type} {program : PyM Platform.reference A}
    (uses : program.run.Uses (Call.IsIssued (fun source => source = .ofBytes emptyObject) fun _ => True)) :
    program.run.Runs (reliable Platform.reference) World.empty
      (program.run.execute (answer Platform.reference (.constant emptyObject)) World.empty).1
      (program.run.execute (answer Platform.reference (.constant emptyObject)) World.empty).2 :=
  (Program.runs_execute (answer_constant emptyObject) (uses.mono fun _ issued => issued.carries)
    (isUniform_empty emptyObject)).1

end Reference

/-- A channel without a pointer version is rejected over the row that is committed, and
labels that are none over the Object. -/
theorem rejected_after_commit :
    (∃ result t, (ConfigurationPublisher.publish Reference.uncounted).run.Runs
      (reliable Platform.reference) World.empty result t ∧ IsRejection result ∧
      ¬Unwritten World.empty t) ∧
    ∃ result t, (ArtifactPublisher.publish Reference.mislabelled).run.Runs
      (reliable Platform.reference) World.empty result t ∧ IsRejection result ∧
      ¬Unwritten World.empty t := by
  have registers : Reference.mislabelled.payload.Registers fun source => source = .ofBytes _ := rfl
  refine ⟨⟨_, _, Reference.runs_alone (uses_publishConfiguration _), ?_, fun unwritten => ?_⟩,
    ⟨_, _, Reference.runs_alone (uses_publishArtifact registers), ?_, fun unwritten => ?_⟩⟩
  · decide +kernel
  · have same := unwritten.row? .metadata (Reference.identity.resourceId Platform.reference)
    revert same
    decide +kernel
  · decide +kernel
  · have same := unwritten.object? (Reference.identity.objectId Platform.reference)
    revert same
    decide +kernel

end ConfigArtifact
