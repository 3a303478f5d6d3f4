import ConfigArtifact.Guarantees.CompareAndSet

/-! What a publication does to the tables, whether or not it also promotes.

Over stores that answer every call, a publication commits its rows or finds rows that
are there, and then puts the one pointer that it was asked for. One that raises has
done nothing, or has committed its rows and could not promote them.
-/

set_option autoImplicit false

namespace ConfigArtifact

open Interaction Fallible Relation MetadataRepository
open StoredResourceFields (sameArtifact sameConfiguration)

variable {X : Platform} {P : Policy X} {first s t u : World}
  {history more : List (Event (runtime X) World)}

/-- The events of a history have had these effects on the tables, one after another. -/
inductive Does : List (World → World → Prop) → List (Event (runtime X) World) → Prop
  | nothing {history : List (Event (runtime X) World)} : Quiet history → Does [] history
  | next {front rest : List (Event (runtime X) World)} {event : Event (runtime X) World}
      {effect : World → World → Prop} {effects : List (World → World → Prop)} :
      Quiet front → effect event.before event.after → Does effects rest →
      Does (effect :: effects) (front ++ event :: rest)

section

variable {effect : World → World → Prop} {effects others : List (World → World → Prop)}

theorem Once.does (once : Once effect history) : Does [effect] history := by
  obtain ⟨front, event, rest, rfl, before, after, effective⟩ := once
  exact .next before effective (.nothing after)

theorem Quiet.does (quiet : Quiet history) (later : Does effects more) :
    Does effects (history ++ more) := by
  cases later with
  | nothing silent => exact .nothing (quiet.append silent)
  | next before effective rest =>
    rw [← List.append_assoc]
    exact .next (quiet.append before) effective rest

theorem Does.append (did : Does effects history) (later : Does others more) :
    Does (effects ++ others) (history ++ more) := by
  induction did with
  | nothing quiet => exact quiet.does later
  | next before effective _ ih =>
    rw [List.append_assoc]
    exact .next before effective ih

end

/-- What the promotion at the end of a publication has done. -/
def PointsChannel (resource : StoredResourceV1 X) (channel expectedPointerVersion : JsonValue)
    (history : List (Event (runtime X) World)) : Except PyError (Option ResourceChannelV1) → Prop
  | .ok none => Unpromoted channel expectedPointerVersion ∧ Quiet history
  | .ok (some pointer) => pointer.targetResourceId = resource.resourceId ∧
      Does [InsertsPointer X pointer] history ∧ ∃ version : Nat,
        expectedPointerVersion = natJson version ∧ pointer.pointerVersion = version + 1
  | .error _ => ¬Unpromoted channel expectedPointerVersion ∧ Quiet history

/-- What a publication has done, at its end. -/
def PublicationDoes (P : Policy X) (first : World) (planned : StoredResourceV1 X → Prop)
    (channel expectedPointerVersion : JsonValue) (history : List (Event (runtime X) World))
    (t : World) : Except PyError (PublicationReceipt X) → Prop
  | .ok receipt => Seen P first t receipt.resource ∧ ∃ front back, history = front ++ back ∧
      (receipt.idempotent = true ∧ Quiet front ∨
        ∃ candidate, planned candidate ∧ Does [CommitsAs candidate receipt.resource] front) ∧
      PointsChannel receipt.resource channel expectedPointerVersion back (.ok receipt.channel)
  | .error _ => Quiet history ∨ ¬Unpromoted channel expectedPointerVersion ∧
      ∃ candidate stored, planned candidate ∧ Does [CommitsAs candidate stored] history

section

variable {channel expectedPointerVersion actor : JsonValue} {profile : ResourceProfile}
  {resource : StoredResourceV1 X}

theorem PointsChannel.later {result : Except PyError (Option ResourceChannelV1)}
    (promotes : PointsChannel resource channel expectedPointerVersion history result)
    (quiet : Quiet more) :
    PointsChannel resource channel expectedPointerVersion (history ++ more) result := by
  cases result with
  | ok promoted =>
    cases promoted with
    | none => exact ⟨promotes.1, promotes.2.append quiet⟩
    | some pointer => exact ⟨promotes.1, promotes.2.1.append (.nothing quiet), promotes.2.2⟩
  | error error => exact ⟨promotes.1, promotes.2.append quiet⟩

/-- An end stays one while nothing but reads follows. -/
theorem PublicationDoes.later {planned : StoredResourceV1 X → Prop}
    {result : Except PyError (PublicationReceipt X)}
    (did : PublicationDoes P first planned channel expectedPointerVersion history t result)
    (quiet : Quiet more) (moved : Changes P t u) :
    PublicationDoes P first planned channel expectedPointerVersion (history ++ more) u result := by
  cases result with
  | ok receipt =>
    obtain ⟨seen, front, back, rfl, published, promotes⟩ := did
    refine ⟨seen.later moved, front, back ++ more, List.append_assoc _ _ _, published, ?_⟩
    exact promotes.later quiet
  | error error =>
    rcases did with silent | ⟨given, candidate, stored, plan, committed⟩
    · exact .inl (silent.append quiet)
    · exact .inr ⟨given, candidate, stored, plan, committed.append (.nothing quiet)⟩

theorem does_promotePublished {A : Type}
    {next : Except PyError (Option ResourceChannelV1) → Program (runtime X) A}
    {post : Postcondition (runtime X) World A} (kept : (following P first).invariant s)
    (live : Live s resource)
    (rest : ∀ own t, (following P first).invariant t → Changes P s t → ∀ result,
      PointsChannel resource channel expectedPointerVersion own result →
      (next result).Safe (following P first) (serving X False) post (history ++ own) t) :
    ((promotePublished profile resource channel expectedPointerVersion actor : PyM X _).run.bind
      next).Safe (following P first) (serving X False) post history s := by
  have still : ∀ result, PointsChannel resource channel expectedPointerVersion [] result →
      (next result).Safe (following P first) (serving X False) post history s := by
    intro result promotes
    have := rest [] s kept .refl result promotes
    rwa [List.append_nil] at this
  unfold promotePublished
  by_cases silent : channel = .null
  · rw [if_pos silent]
    by_cases uncounted : expectedPointerVersion = .null
    · rw [if_neg (not_not.mpr uncounted)]
      exact still (.ok none) ⟨⟨silent, uncounted⟩, quiet_nil⟩
    · rw [if_pos uncounted]
      exact still (.error _) ⟨fun both => uncounted both.2, quiet_nil⟩
  · rw [if_neg silent]
    have given : ¬Unpromoted channel expectedPointerVersion := fun both => silent both.1
    by_cases uncounted : expectedPointerVersion = .null
    · rw [if_pos uncounted]
      exact still (.error _) ⟨given, quiet_nil⟩
    · rw [if_neg uncounted, run_bind, Program.bind_assoc, Program.safe_bind kept]
      have vouched : Vouched P s (.resource resource) := by
        rintro - copy ⟨⟩
        exact live
      have alone : (ChannelRepository.promote (.resource resource) channel expectedPointerVersion
          actor (some profile)).run.Safe (following P first) (serving X False)
          (PromotionEnds False P first (.resource resource) channel expectedPointerVersion
            (some profile)) [] s := safe_promote kept vouched
      have safe := (alone.after history).moved (fun _ _ moved => moved) .refl
      rw [List.append_nil] at safe
      refine safe.weaken fun final t value kept ends => ?_
      obtain ⟨⟨own, rfl, ends⟩, moved⟩ := ends
      cases value with
      | ok pointer =>
        have promoted : Promoted P first (.resource resource) channel expectedPointerVersion
          (some profile) own t pointer := ends
        obtain ⟨version, counted, follows⟩ := promoted.expected
        obtain ⟨target, rfl, -, -, aimed, -⟩ := promoted.target
        exact rest own t kept moved (.ok (some pointer))
          ⟨aimed, promoted.once.does, version, expectedPointer_ok counted, follows⟩
      | error error =>
        have quiet : False ∨ Quiet own := ends
        exact rest own t kept moved (.error error) ⟨given, quiet.resolve_left id⟩

/-- A publication over a row that is there. -/
theorem does_existingReceipt {same : StoredResourceFields X → StoredResourceFields X → Bool}
    {candidate : StoredResourceV1 X} {planned : StoredResourceV1 X → Prop}
    (kept : (following P first).invariant s) (seen : Seen P first s resource)
    (quiet : Quiet history) :
    (existingReceipt profile same candidate resource channel expectedPointerVersion actor :
      PyM X _).run.Safe (following P first) (serving X False)
      (PublicationDoes P first planned channel expectedPointerVersion) history s := by
  unfold existingReceipt
  split
  · rw [run_bind]
    refine does_promotePublished kept seen.live fun own t _ moved result promotes => ?_
    cases result with
    | ok promoted =>
      intro u later _
      exact ⟨seen.later (moved.trans later), history, own, rfl, .inl ⟨rfl, quiet⟩, promotes⟩
    | error error => exact fun _ _ _ => .inl (quiet.append promotes.2)
  · exact fun _ _ _ => .inl quiet

/-- The promotion of rows that have just been committed. -/
theorem does_committed {candidate stored : StoredResourceV1 X} {planned : StoredResourceV1 X → Prop}
    {receipt : Option ResourceChannelV1 → PublicationReceipt X}
    (carries : ∀ promoted, (receipt promoted).resource = stored ∧ (receipt promoted).channel = promoted)
    (kept : (following P first).invariant s) (seen : Seen P first s stored) (plan : planned candidate)
    (once : Once (CommitsAs candidate stored) history) :
    (do
      let promoted ← promotePublished profile stored channel expectedPointerVersion actor
      return receipt promoted : PyM X _).run.Safe (following P first) (serving X False)
      (PublicationDoes P first planned channel expectedPointerVersion) history s := by
  rw [run_bind]
  refine does_promotePublished kept seen.live fun own t _ moved result promotes => ?_
  cases result with
  | ok promoted =>
    intro u later _
    obtain ⟨same, carried⟩ := carries promoted
    refine ⟨?_, history, own, rfl, .inr ⟨candidate, plan, ?_⟩, ?_⟩
    · rw [same]
      exact seen.later (moved.trans later)
    · rw [same]
      exact once.does
    · rw [same, carried]
      exact promotes
  | error error =>
    exact fun _ _ _ => .inr ⟨promotes.1, candidate, stored, plan, (once.append promotes.2).does⟩

end

/-- What a configuration publication does. -/
theorem ConfigurationPublisher.does_publish {request : ConfigurationRequest X}
    (kept : (following P first).invariant s)
    (permitted : ∀ candidate, IsCandidate request candidate → P.publishes candidate) :
    (publish request).run.Safe (following P first) (serving X False)
      (PublicationDoes P first (IsCandidate request) request.channel
        request.expectedPointerVersion) [] s := by
  unfold publish
  rw [run_bind]
  refine safe_candidate kept fun t kept _ more quiet result planned => ?_
  rw [List.nil_append]
  cases result with
  | error error => exact safe_stop fun _ => .inl quiet
  | ok candidate =>
    have planned : IsCandidate request candidate := planned
    rw [andThen_ok, run_bind]
    refine safe_getResource fun u kept _ lookup before after result looked => ?_
    have looking : Quiet (more ++ [lookup]) := quiet.snoc (by rw [before, after])
    match result, looked with
    | .error error, _ => exact safe_stop fun _ => .inl looking
    | .ok (some existing), looked =>
      exact does_existingReceipt kept (seen_now kept.2 looked.1) looking
    | .ok none, _ =>
      rw [andThen_ok]
      dsimp only
      rw [run_attempt_bind]
      refine safe_publication sameConfiguration_ignoresVersion planned.built.1 ?_
        (permitted candidate planned) ?_
      · intro _ _ artifact
        rw [planned.built.2.1] at artifact
        cases artifact
      intro v w _ kept _ commit before' after' result outcome
      cases result with
      | ok stored =>
        obtain ⟨version, stamp, absent, rfl, rfl⟩ := outcome
        have commits : CommitsAs candidate (candidate.withVersion (some version)) commit.before
            commit.after := ⟨version, stamp, by rwa [before'], by rw [before', after'], rfl⟩
        exact does_committed (fun _ => ⟨rfl, rfl⟩) kept
          (seen_now kept.2 (stores_publish candidate version stamp)) planned (looking.once commits)
      | error error =>
        have silent : Quiet (more ++ [lookup] ++ [commit]) := by
          obtain ⟨same, -⟩ := outcome.resolve_left id
          exact looking.snoc (by rw [before', after', same])
        dsimp only
        split
        · rw [run_bind]
          refine safe_getResource fun x kept _ reread before'' after'' result looked => ?_
          have hushed : Quiet (more ++ [lookup] ++ [commit] ++ [reread]) :=
            silent.snoc (by rw [before'', after''])
          match result, looked with
          | .error error, _ => exact safe_stop fun _ => .inl hushed
          | .ok (some winner), looked =>
            exact does_existingReceipt kept (seen_now kept.2 looked.1) hushed
          | .ok none, _ => exact safe_stop fun _ => .inl hushed
        · exact safe_stop fun _ => .inl silent

namespace ArtifactPublisher

variable {request : ArtifactRequest X} {content : Content}

/-- What an artifact publication does, at its end. -/
def Did (P : Policy X) (first : World) (request : ArtifactRequest X) :
    Postcondition (runtime X) World (Except PyError (PublicationReceipt X)) :=
  PublicationDoes P first (IsCandidate request) request.channel request.expectedPointerVersion

theorem does_publishExisting {existing : StoredResourceV1 X}
    (began : (following P first).invariant s) (read : contentOf request = .ok content)
    (stores : Stores s existing) (named : existing.resourceId = content.identity.resourceId X)
    (quiet : Quiet history) :
    (publishExisting request content existing).run.Safe (following P first) (serving X False)
      (Did P first request) history s := by
  unfold publishExisting
  split
  · exact fun _ _ _ => .inl quiet
  · next matching =>
    rw [not_or, not_or, not_or, not_not, not_not, not_not, not_not] at matching
    rw [run_bind]
    refine safe_candidate began read
      (objectRef_of_stored began.1 stores matching.1 named matching.2.1) ?_
    intro t kept moved more silent result planned
    have hushed := quiet.append silent
    cases result with
    | error error => exact safe_stop fun _ => .inl hushed
    | ok candidate => exact does_existingReceipt kept ((seen_now began.2 stores).later moved) hushed

theorem does_publishMetadata {candidate : StoredResourceV1 X} {objectIdempotent : Bool}
    (read : contentOf request = .ok content) (planned : IsCandidate request candidate)
    (permitted : P.publishes candidate) (held : Held X s content) (quiet : Quiet history) :
    (publishMetadata request candidate objectIdempotent).run.Safe (following P first)
      (serving X False) (Did P first request) history s := by
  unfold publishMetadata
  rw [run_attempt_bind]
  refine safe_publication sameArtifact_ignoresVersion planned.built.1
    (fun t moved _ => planned.backed read (held.later moved.evolves)) permitted ?_
  intro t u _ kept _ commit before after result outcome
  cases result with
  | ok stored =>
    obtain ⟨version, stamp, absent, rfl, rfl⟩ := outcome
    have commits : CommitsAs candidate (candidate.withVersion (some version)) commit.before
        commit.after := ⟨version, stamp, by rwa [before], by rw [before, after], rfl⟩
    exact does_committed (fun _ => ⟨rfl, rfl⟩) kept
      (seen_now kept.2 (stores_publish candidate version stamp)) planned (quiet.once commits)
  | error error =>
    obtain ⟨same, present, conflict, other⟩ := outcome.resolve_left id
    have silent : Quiet (history ++ [commit]) := quiet.snoc (by rw [before, after, same])
    dsimp only
    split
    · exact safe_stop fun _ => .inl silent
    · rw [run_bind]
      refine safe_getResource fun v kept further reread before' after' result looked => ?_
      have hushed : Quiet (history ++ [commit] ++ [reread]) :=
        silent.snoc (by rw [before', after'])
      match result, looked with
      | .error error, _ => exact safe_stop fun _ => .inl hushed
      | .ok (some winner), looked =>
        exact does_existingReceipt kept (seen_now kept.2 looked.1) hushed
      | .ok none, ⟨_, gone⟩ =>
        -- The row that the transaction has met is still there.
        exact absurd (gone.resolve_left id) (further.evolves.metadata _ (same ▸ present))

theorem does_publishRegistered {payload : PayloadReference} (quiet : Quiet history)
    (read : contentOf request = .ok content)
    (publishes : ∀ candidate, IsCandidate request candidate → P.publishes candidate)
    (commits : ∀ bytes, IsIntact X content.digest content.byteLength bytes →
      P.commits ((objectRequest request content payload).stored X bytes)) :
    (publishRegistered request content payload).run.Safe (following P first) (serving X False)
      (Did P first request) history s := by
  unfold publishRegistered
  rw [run_bind]
  refine safe_getResource fun t kept moved lookup before after result looked => ?_
  have looking : Quiet (history ++ [lookup]) := quiet.snoc (by rw [before, after])
  match result, looked with
  | .error error, _ => exact safe_stop fun _ => .inl looking
  | .ok (some existing), looked => exact does_publishExisting kept read looked.1 looked.2 looking
  | .ok none, _ =>
    rw [andThen_ok]
    dsimp only
    rw [run_bind]
    refine safe_putObject False looking False.elim False.elim commits ?_
    intro u kept _ more quiet result phase
    cases result with
    | error error => exact safe_stop fun _ => .inl quiet
    | ok pair =>
      obtain ⟨metadata, objectIdempotent⟩ := pair
      obtain ⟨named, held⟩ := phase
      rw [andThen_ok]
      dsimp only
      rw [run_bind]
      refine safe_candidate kept read (congrArg some named) ?_
      intro v kept later extra silent result planned
      have hushed := quiet.append silent
      cases result with
      | error error => exact safe_stop fun _ => .inl hushed
      | ok candidate =>
        have planned : IsCandidate request candidate := planned
        exact does_publishMetadata read planned (publishes candidate planned)
          (held.later later.evolves) hushed

theorem does_publish (kept : (following P first).invariant s)
    (publishes : ∀ candidate, IsCandidate request candidate → P.publishes candidate)
    (commits : ∀ content payload bytes, contentOf request = .ok content →
      IsIntact X content.digest content.byteLength bytes →
        P.commits ((objectRequest request content payload).stored X bytes)) :
    (publish request).run.Safe (following P first) (serving X False) (Did P first request) [] s := by
  unfold publish
  rw [run_settle_bind]
  cases named : ResourceIdentity.create request.namespace request.kind request.name
      request.version with
  | error error => exact safe_stop fun _ => .inl quiet_nil
  | ok identity =>
    rw [andThen_ok, run_settle_bind]
    cases typed : mediaType request.mediaTypeValue with
    | error error => exact safe_stop fun _ => .inl quiet_nil
    | ok media =>
      rw [andThen_ok, run_bind]
      refine safe_registerPayload kept fun t kept _ more quiet result phase => ?_
      rw [List.nil_append]
      cases result with
      | error error => exact safe_stop fun _ => .inl quiet
      | ok registered =>
        have read : contentOf request =
            .ok ⟨identity, registered.digest, registered.byteLength, media⟩ :=
          bind_ok.mpr ⟨_, named, bind_ok.mpr ⟨_, typed, bind_ok.mpr ⟨_, phase.1, rfl⟩⟩⟩
        rw [andThen_ok, run_ensuring, Program.safe_bind kept]
        refine (does_publishRegistered quiet read publishes
          fun bytes intact => commits _ _ bytes read intact).weaken fun final u result kept did => ?_
        refine safe_releaseOwned kept fun v _ later extra silent released outcome => ?_
        obtain rfl := outcome.resolve_left id
        exact fun _ further _ => PublicationDoes.later did silent (later.trans further)

end ArtifactPublisher

namespace Request

/-- What a publication has done. Of other requests their ends say it. -/
def Accomplishes (P : Policy X) (first : World) :
    (request : Request X) → Postcondition (runtime X) World request.Result
  | .publishConfiguration request =>
    PublicationDoes P first (ConfigurationPublisher.IsCandidate request) request.channel
      request.expectedPointerVersion
  | .publishArtifact request =>
    PublicationDoes P first (ArtifactPublisher.IsCandidate request) request.channel
      request.expectedPointerVersion
  | _ => fun _ _ _ => True

theorem accomplishes {valid : Prop} (request : Request X) (kept : (following P first).invariant s)
    (permitted : request.Permitted P valid s) :
    request.program.run.Safe (following P first) (serving X False) (request.Accomplishes P first) []
      s := by
  cases request with
  | publishConfiguration request => exact ConfigurationPublisher.does_publish kept permitted.2
  | publishArtifact request => exact ArtifactPublisher.does_publish kept permitted.2.1 permitted.2.2
  | _ => exact (safe_program _ kept permitted).weaken fun _ _ _ _ _ => trivial

end Request

end ConfigArtifact
