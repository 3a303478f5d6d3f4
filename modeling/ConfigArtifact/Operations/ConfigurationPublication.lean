import ConfigArtifact.Configuration
import ConfigArtifact.Operations.Publication
import ConfigArtifact.Store.Objects

/-! What one configuration publication does among others. -/

set_option autoImplicit false

namespace ConfigArtifact

open Interaction Fallible Relation MetadataRepository
open StoredResourceFields (sameConfiguration)

variable {X : Platform} {P : Policy X} {first s t u : World} {faults valid : Prop}
  {history : List (Event (runtime X) World)}

namespace ConfigurationPublisher

/-- The arguments of the candidate at each time, when the validator answers as it does. -/
def plan (request : ConfigurationRequest X) :
    Except PyError (String → StoredResourceArguments X) := do
  let identity ← ResourceIdentity.create request.namespace request.kind request.name request.version
  let schema ← PayloadSchemaRef.parse request.schema
  let validated ← X.validate request.payload schema.namespace schema.name schema.version
  let payload ← canonicalMapping X validated "payload" none none
  let encoded ← X.canonicalJsonBytes (.object (thawEntries payload))
  let mediaType ← mediaType request.mediaTypeValue
  let annotations ← annotationsOf X request.annotations
  .ok (candidateArguments request identity schema mediaType payload annotations encoded)

/-- A resource the request asks to publish, at some time. -/
def IsCandidate (request : ConfigurationRequest X) (resource : StoredResourceV1 X) : Prop :=
  ∃ arguments time createdAt, plan request = .ok arguments ∧
    utcTimestampOfDatetime time = .ok createdAt ∧
    StoredResourceV1.create X (arguments createdAt) = .ok resource

/-- Arguments from which a candidate is built at any time. -/
def IsValid (request : ConfigurationRequest X) : Prop :=
  ∃ arguments, plan request = .ok arguments ∧ ∀ time createdAt,
    utcTimestampOfDatetime time = .ok createdAt →
      ∃ resource, StoredResourceV1.create X (arguments createdAt) = .ok resource

/-- What building the candidate tells. -/
def Planned (faults : Prop) (request : ConfigurationRequest X) :
    Except PyError (StoredResourceV1 X) → Prop
  | .ok resource => IsCandidate request resource
  | .error _ => faults ∨ ¬IsValid request

/-- A stored row that is not what the request asks to publish. -/
def Clashes (request : ConfigurationRequest X) (s : World) : Prop :=
  ∃ existing candidate : StoredResourceV1 X, Stores s existing ∧ IsCandidate request candidate ∧
    existing.resourceId = candidate.resourceId ∧
    sameConfiguration candidate.toStoredResourceFields existing.toStoredResourceFields = false

theorem plan_ok {request : ConfigurationRequest X} {arguments : String → StoredResourceArguments X}
    (planned : plan request = .ok arguments) : ∃ identity schema validated payload encoded media
      annotations,
      ResourceIdentity.create request.namespace request.kind request.name request.version =
        .ok identity ∧
      PayloadSchemaRef.parse request.schema = .ok schema ∧
      X.validate request.payload schema.namespace schema.name schema.version = .ok validated ∧
      canonicalMapping X validated "payload" none none = .ok payload ∧
      X.canonicalJsonBytes (.object (thawEntries payload)) = .ok encoded ∧
      mediaType request.mediaTypeValue = .ok media ∧
      annotationsOf X request.annotations = .ok annotations ∧
      arguments = candidateArguments request identity schema media payload annotations encoded := by
  obtain ⟨identity, named, planned⟩ := bind_ok.mp planned
  obtain ⟨schema, parsed, planned⟩ := bind_ok.mp planned
  obtain ⟨validated, admitted, planned⟩ := bind_ok.mp planned
  obtain ⟨payload, normal, planned⟩ := bind_ok.mp planned
  obtain ⟨encoded, written, planned⟩ := bind_ok.mp planned
  obtain ⟨media, typed, planned⟩ := bind_ok.mp planned
  obtain ⟨annotations, annotated, same⟩ := bind_ok.mp planned
  exact ⟨identity, schema, validated, payload, encoded, media, annotations, named, parsed, admitted,
    normal, written, typed, annotated, (Except.ok.inj same).symm⟩

theorem IsCandidate.built {request : ConfigurationRequest X} {resource : StoredResourceV1 X}
    (planned : IsCandidate request resource) : resource.state = .published ∧
      resource.profile = .configuration ∧ resource.recordVersion = none := by
  obtain ⟨arguments, time, createdAt, planned, -, created⟩ := planned
  obtain ⟨_, _, _, _, _, _, _, -, -, -, -, -, -, -, rfl⟩ := plan_ok planned
  have built := StoredResourceV1.isBuilt_of_create created
  exact ⟨built.state, built.profile, (Except.ok.inj built.recordVersion).symm⟩

theorem safe_candidate {A : Type} {request : ConfigurationRequest X}
    {next : Except PyError (StoredResourceV1 X) → Program (runtime X) A}
    {post : Postcondition (runtime X) World A} (kept : (following P first).invariant s)
    (rest : ∀ t, (following P first).invariant t → Changes P s t → ∀ more, Quiet more →
      ∀ result, Planned faults request result →
      (next result).Safe (following P first) (serving X faults) post (history ++ more) t) :
    ((candidate request).run.bind next).Safe (following P first) (serving X faults) post history
      s := by
  have invalid : ∀ error : PyError, ¬IsValid request →
      (next (.error error)).Safe (following P first) (serving X faults) post history s := by
    intro error invalid
    have := rest s kept .refl [] quiet_nil (.error error) (Or.inr invalid)
    rwa [List.append_nil] at this
  unfold candidate
  rw [run_settle_bind]
  cases named : ResourceIdentity.create request.namespace request.kind request.name
      request.version with
  | error error =>
    refine invalid error fun ⟨_, planned, _⟩ => ?_
    obtain ⟨_, _, _, _, _, _, _, given, -⟩ := plan_ok planned
    cases named.symm.trans given
  | ok identity =>
    rw [andThen_ok, run_settle_bind]
    cases parsed : PayloadSchemaRef.parse request.schema with
    | error error =>
      refine invalid error fun ⟨_, planned, _⟩ => ?_
      obtain ⟨_, _, _, _, _, _, _, -, given, -⟩ := plan_ok planned
      cases parsed.symm.trans given
    | ok schema =>
      rw [andThen_ok, run_bind, Program.bind_assoc]
      refine safe_validate fun t kept moved event before after result answered => ?_
      have quiet : Quiet [event] := quiet_nil.snoc (by rw [before, after])
      have refused : ∀ error : PyError, faults ∨ ¬IsValid request →
          (next (.error error)).Safe (following P first) (serving X faults) post
            (history ++ [event]) t :=
        fun error reason => rest t kept moved [event] quiet (.error error) reason
      -- A plan decides what each of the remaining steps was given.
      have planned_of : ∀ {arguments}, plan request = .ok arguments → ∃ validated payload encoded
          media annotations, X.validate request.payload schema.namespace schema.name
            schema.version = .ok validated ∧
          canonicalMapping X validated "payload" none none = .ok payload ∧
          X.canonicalJsonBytes (.object (thawEntries payload)) = .ok encoded ∧
          mediaType request.mediaTypeValue = .ok media ∧
          annotationsOf X request.annotations = .ok annotations ∧ arguments =
            candidateArguments request identity schema media payload annotations encoded := by
        intro arguments planned
        obtain ⟨_, _, validated, payload, encoded, media, annotations, given, given', rest⟩ :=
          plan_ok planned
        cases named.symm.trans given
        cases parsed.symm.trans given'
        exact ⟨validated, payload, encoded, media, annotations, rest⟩
      cases result with
      | error error =>
        refine refused error (answered.elim (fun same => Or.inr ?_) fun fault => Or.inl fault.1)
        rintro ⟨_, planned, -⟩
        obtain ⟨_, _, _, _, _, given, -⟩ := planned_of planned
        cases same.trans given
      | ok validated =>
        have answered : X.validate request.payload schema.namespace schema.name schema.version =
            .ok validated := by
          rcases answered with same | ⟨-, error, failed⟩
          · exact same.symm
          · cases failed
        rw [andThen_ok, run_settle_bind]
        cases normal : canonicalMapping X validated "payload" none none with
        | error error =>
          refine refused error (Or.inr fun ⟨_, planned, _⟩ => ?_)
          obtain ⟨_, _, _, _, _, given, given', -⟩ := planned_of planned
          cases answered.symm.trans given
          cases normal.symm.trans given'
        | ok payload =>
          rw [andThen_ok, run_settle_bind]
          cases written : X.canonicalJsonBytes (.object (thawEntries payload)) with
          | error error =>
            refine refused error (Or.inr fun ⟨_, planned, _⟩ => ?_)
            obtain ⟨_, _, _, _, _, given, given', given'', -⟩ := planned_of planned
            cases answered.symm.trans given
            cases normal.symm.trans given'
            cases written.symm.trans given''
          | ok encoded =>
            rw [andThen_ok, run_settle_bind]
            cases typed : mediaType request.mediaTypeValue with
            | error error =>
              refine refused error (Or.inr fun ⟨_, planned, _⟩ => ?_)
              obtain ⟨_, _, _, _, _, -, -, -, given, -⟩ := planned_of planned
              cases typed.symm.trans given
            | ok media =>
              rw [andThen_ok, run_settle_bind]
              cases annotated : annotationsOf X request.annotations with
              | error error =>
                refine refused error (Or.inr fun ⟨_, planned, _⟩ => ?_)
                obtain ⟨_, _, _, _, _, -, -, -, -, given, -⟩ := planned_of planned
                cases annotated.symm.trans given
              | ok annotations =>
                have planned : plan request = .ok (candidateArguments request identity schema media
                    payload annotations encoded) :=
                  bind_ok.mpr ⟨_, named, bind_ok.mpr ⟨_, parsed, bind_ok.mpr ⟨_, answered,
                    bind_ok.mpr ⟨_, normal, bind_ok.mpr ⟨_, written, bind_ok.mpr ⟨_, typed,
                      bind_ok.mpr ⟨_, annotated, rfl⟩⟩⟩⟩⟩⟩⟩
                rw [andThen_ok, run_bind, Program.bind_assoc]
                refine safe_currentTimestamp fun u kept later tick before' after' result timed => ?_
                rw [List.append_assoc]
                have hushed : Quiet ([event] ++ [tick]) := quiet.snoc (by rw [before', after'])
                cases result with
                | error error =>
                  exact rest u kept (moved.trans later) _ hushed (.error error) (Or.inl timed)
                | ok createdAt =>
                  obtain ⟨time, read⟩ := timed
                  refine rest u kept (moved.trans later) _ hushed _ ?_
                  cases created : StoredResourceV1.create X (candidateArguments request identity
                      schema media payload annotations encoded createdAt) with
                  | ok resource => exact ⟨_, time, createdAt, planned, read, created⟩
                  | error error =>
                    refine Or.inr fun ⟨_, planned', builds⟩ => ?_
                    cases planned.symm.trans planned'
                    obtain ⟨resource, built⟩ := builds time createdAt read
                    cases created.symm.trans built

/-- How a configuration publication may end, when it does not promote. -/
def Ends (faults valid : Prop) (P : Policy X) (first : World) (request : ConfigurationRequest X) :
    Postcondition (runtime X) World (Except PyError (PublicationReceipt X)) :=
  fun history t result => Unpromoted request.channel request.expectedPointerVersion →
    PublicationEnds faults valid P first sameConfiguration (IsCandidate request) (Clashes request)
      history t result

/-- A publication over the row its lookup or its conflict has found. -/
theorem safe_existing {request : ConfigurationRequest X} {candidate existing : StoredResourceV1 X}
    (kept : (following P first).invariant s) (planned : IsCandidate request candidate)
    (seen : Seen P first s existing) (named : existing.resourceId = candidate.resourceId)
    (quiet : faults ∨ Quiet history) :
    (existingReceipt .configuration sameConfiguration candidate existing request.channel
      request.expectedPointerVersion request.actor : PyM X _).run.Safe (following P first)
      (serving X faults) (Ends faults valid P first request) history s := by
  refine safe_existingReceipt kept seen.live ?_ ?_ fun given _ _ _ alone => absurd alone given
  · rintro - matching t receipt moved rfl idempotent -
    refine ⟨candidate, planned, named, matching, seen.later moved, ?_⟩
    exact quiet.imp id fun quiet => Or.inl ⟨idempotent, quiet⟩
  · intro different t error moved conflict _
    obtain ⟨earlier, began, since, stores⟩ := seen
    refine quiet.imp id fun quiet => Or.inr ⟨conflict, quiet, earlier, began, since.trans moved, ?_⟩
    exact ⟨existing, candidate, stores, planned, named, different⟩

theorem safe_publish {request : ConfigurationRequest X} (kept : (following P first).invariant s)
    (sound : valid → IsValid request)
    (permitted : ∀ candidate, IsCandidate request candidate → P.publishes candidate) :
    (publish request).run.Safe (following P first) (serving X faults)
      (Ends faults valid P first request) [] s := by
  unfold publish
  rw [run_bind]
  refine safe_candidate kept fun t kept _ more quiet result planned => ?_
  rw [List.nil_append]
  cases result with
  | error error =>
    exact safe_stop fun _ _ => planned.imp id fun invalid => Or.inl fun holds => invalid (sound holds)
  | ok candidate =>
    have planned : IsCandidate request candidate := planned
    rw [andThen_ok, run_bind]
    refine safe_getResource fun u kept _ lookup before after result looked => ?_
    have looking : Quiet (more ++ [lookup]) := quiet.snoc (by rw [before, after])
    match result, looked with
    | .error error, faulted =>
      refine safe_stop fun _ _ => Or.inl (faulted.resolve_right ?_)
      rintro ⟨⟨⟩, -⟩
    | .ok (some existing), looked =>
      exact safe_existing kept planned (seen_now kept.2 looked.1) looked.2 (Or.inr looking)
    | .ok none, _ =>
      rw [andThen_ok]
      dsimp only
      rw [run_attempt_bind]
      refine safe_publication sameConfiguration_ignoresVersion planned.built.1 ?_
        (permitted candidate planned) ?_
      · intro _ _ artifact
        rw [planned.built.2.1] at artifact
        cases artifact
      intro v w _ kept _ commit before' after' result outcome
      cases result with
      | ok stored =>
        obtain ⟨version, stamp, absent, rfl, rfl⟩ := outcome
        -- The transaction is the only call that has written.
        have once : Once (CommitsAs candidate (candidate.withVersion (some version)))
            (more ++ [lookup] ++ [commit]) := by
          refine looking.once ?_
          rw [before', after']
          exact ⟨version, stamp, absent, rfl, rfl⟩
        have stores := stores_publish (t := v) candidate version stamp
        dsimp only
        rw [run_bind]
        refine safe_promotePublished kept stores.live ?_ ?_
        · rintro - x later - -
          exact ⟨candidate, planned, rfl, sameConfiguration_ignoresVersion candidate _,
            (seen_now kept.2 stores).later later, Or.inr (Or.inr once)⟩
        · intro given result final x _
          cases result <;> exact fun _ _ _ alone => absurd alone given
      | error error =>
        have silent : faults ∨ Quiet (more ++ [lookup] ++ [commit]) :=
          outcome.imp id fun ⟨same, _⟩ => looking.snoc (by rw [before', after', same])
        dsimp only
        split
        · rw [run_bind]
          refine safe_getResource fun x kept further reread before'' after'' result looked => ?_
          have hushed : faults ∨ Quiet (more ++ [lookup] ++ [commit] ++ [reread]) :=
            silent.imp id fun quiet => quiet.snoc (by rw [before'', after''])
          match result, looked with
          | .error error, faulted =>
            refine safe_stop fun _ _ => Or.inl (faulted.resolve_right ?_)
            rintro ⟨⟨⟩, -⟩
          | .ok (some winner), looked =>
            exact safe_existing kept planned (seen_now kept.2 looked.1) looked.2 hushed
          -- The row that has caused the conflict cannot have gone.
          | .ok none, ⟨_, gone⟩ =>
            refine safe_stop fun _ _ => Or.inl ?_
            rcases gone with faulted | absent
            · exact faulted
            · refine outcome.resolve_right fun ⟨same, present, _⟩ => ?_
              exact further.evolves.metadata _ (same ▸ present) absent
        · next other =>
          refine safe_stop fun _ _ => Or.inl ?_
          exact outcome.resolve_right fun ⟨_, _, conflict, _⟩ => other conflict

end ConfigurationPublisher

end ConfigArtifact
