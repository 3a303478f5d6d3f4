import ConfigArtifact.Operations.Alone.Configuration
import ConfigArtifact.Simulation

/-! Publications of one identity agree.

The first metadata transaction that commits decides what the identity holds. All
other publications find that row, by their lookup or by their conflict, and
return it or raise a conflict.
-/

set_option autoImplicit false

namespace ConfigArtifact

open Interaction Relation
open StoredResourceFields (sameArtifact sameConfiguration)

variable {X : Platform} {s t : World} {ι : Type}

/-- Nothing is deprecated. -/
def Policy.publishing (X : Platform) : Policy X :=
  ⟨fun _ => True, fun _ => False, fun _ => True, False⟩

/-- A valid publication without a channel. -/
def IsPublication (s : World) : Request X → Prop
  | .publishConfiguration request => ConfigurationPublisher.IsValid request ∧
      Unpromoted request.channel request.expectedPointerVersion
  | .publishArtifact request => ArtifactPublisher.IsValid s request ∧
      Unpromoted request.channel request.expectedPointerVersion
  | _ => False

/-- Where nothing is deprecated, rows stay as they are. -/
theorem stores_publishing (moved : Changes (Policy.publishing X) s t)
    {resource : StoredResourceV1 X} (stores : Stores s resource) : Stores t resource := by
  induction moved with
  | refl => exact stores
  | tail _ change ih =>
    obtain ⟨row, found, holds⟩ := ih
    rcases change.metadata resource.resourceId with same | ⟨_, _, _, absent, _⟩ |
      ⟨_, _, _, _, _, _, _, forbidden, _⟩
    · exact ⟨row, same.trans found, holds⟩
    · rw [absent] at found
      cases found
    · exact forbidden.elim

/-- Two provenances tell the same, with JSON values compared as Python compares them. -/
structure ProvenanceAgrees (left right : ProvenanceFields) : Prop where
  producer : left.producer = right.producer
  producerVersion : left.producerVersion = right.producerVersion
  sourceDigests : pyEq left.sourceDigests.toJson right.sourceDigests.toJson = true
  buildId : left.buildId = right.buildId
  validationVersion : left.validationVersion = right.validationVersion
  attributes : pyEq (.object left.attributes) (.object right.attributes) = true

/-- Two resources agree in all that a publication of an artifact decides. -/
structure AgreesAsArtifact (left right : StoredResourceFields X) : Prop where
  resourceId : left.resourceId = right.resourceId
  profile : left.profile = right.profile
  mediaType : left.mediaType = right.mediaType
  digest : left.digest = right.digest
  byteLength : left.byteLength = right.byteLength
  objectRef : left.objectRef = right.objectRef
  labels : pyEq left.labels.toJson right.labels.toJson = true
  annotations : pyEq (.object left.annotations) (.object right.annotations) = true
  provenance : Option.Rel (fun left right => ProvenanceAgrees left.toProvenanceFields
    right.toProvenanceFields) left.provenance right.provenance
  supersedes : left.supersedes = right.supersedes
  versionOrder : left.versionOrder = right.versionOrder

/-- Two resources agree in all that a publication of a configuration decides. -/
structure AgreesAsConfiguration (left right : StoredResourceFields X) : Prop
    extends AgreesAsArtifact left right where
  payload : Option.Rel (fun left right => pyEq (.object left) (.object right) = true)
    left.payload right.payload
  payloadSchema : left.payloadSchema = right.payloadSchema

theorem provenanceAgrees_iff {left right : ProvenanceFields} :
    left.pySame right = true ↔ ProvenanceAgrees left right := by
  simp only [ProvenanceFields.pySame, Bool.and_eq_true, decide_eq_true_eq]
  constructor
  · rintro ⟨⟨⟨⟨⟨producer, producerVersion⟩, sourceDigests⟩, buildId⟩, validationVersion⟩, attributes⟩
    exact ⟨producer, producerVersion, sourceDigests, buildId, validationVersion, attributes⟩
  · intro same
    exact ⟨⟨⟨⟨⟨same.producer, same.producerVersion⟩, same.sourceDigests⟩, same.buildId⟩,
      same.validationVersion⟩, same.attributes⟩

theorem optionalSame_iff {A : Type} {same : A → A → Bool} {related : A → A → Prop}
    (decides : ∀ left right, same left right = true ↔ related left right) {left right : Option A} :
    optionalSame same left right = true ↔ Option.Rel related left right := by
  cases left with
  | none =>
    cases right with
    | none => exact ⟨fun _ => .none, fun _ => rfl⟩
    | some right => exact ⟨nofun, nofun⟩
  | some left =>
    cases right with
    | none => exact ⟨nofun, nofun⟩
    | some right =>
      refine (decides left right).trans ⟨.some, fun rel => ?_⟩
      cases rel with
      | some holds => exact holds

/-- What the artifact publisher compares is what its publication decides. -/
theorem agreesAsArtifact_iff {left right : StoredResourceFields X} :
    sameArtifact left right = true ↔ AgreesAsArtifact left right := by
  have provenance := @optionalSame_iff _ (fun left right : ProvenanceV1 X =>
    left.pySame right.toProvenanceFields) _ (fun _ _ => provenanceAgrees_iff) left.provenance right.provenance
  simp only [sameArtifact, Bool.and_eq_true, decide_eq_true_eq]
  rw [provenance]
  constructor
  · rintro ⟨⟨⟨⟨⟨⟨⟨⟨⟨⟨resourceId, profile⟩, mediaType⟩, digest⟩, byteLength⟩, objectRef⟩, labels⟩,
      annotations⟩, provenance⟩, supersedes⟩, versionOrder⟩
    exact ⟨resourceId, profile, mediaType, digest, byteLength, objectRef, labels, annotations,
      provenance, supersedes, versionOrder⟩
  · intro agrees
    exact ⟨⟨⟨⟨⟨⟨⟨⟨⟨⟨agrees.resourceId, agrees.profile⟩, agrees.mediaType⟩, agrees.digest⟩,
      agrees.byteLength⟩, agrees.objectRef⟩, agrees.labels⟩, agrees.annotations⟩,
      agrees.provenance⟩, agrees.supersedes⟩, agrees.versionOrder⟩

theorem agreesAsConfiguration_iff {left right : StoredResourceFields X} :
    sameConfiguration left right = true ↔ AgreesAsConfiguration left right := by
  have payload := @optionalSame_iff Mapping (fun left right => pyEq (.object left) (.object right)) _
    (fun _ _ => Iff.rfl) left.payload right.payload
  simp only [sameConfiguration, Bool.and_eq_true, decide_eq_true_eq]
  rw [payload, agreesAsArtifact_iff]
  constructor
  · rintro ⟨⟨agrees, payload⟩, payloadSchema⟩
    exact ⟨agrees, payload, payloadSchema⟩
  · intro agrees
    exact ⟨⟨agrees.toAgreesAsArtifact, agrees.payload⟩, agrees.payloadSchema⟩

/-- A publication has ended: of what candidates, in what it has to agree with its row, and how. -/
inductive Published (pool : Clients X ι) (i : ι) : (StoredResourceV1 X → Prop) →
    (StoredResourceFields X → StoredResourceFields X → Prop) →
    Except PyError (PublicationReceipt X) → Prop
  | configuration {request : ConfigurationRequest X} {result : Except PyError (PublicationReceipt X)} :
      pool.Finished i (.publishConfiguration request) result →
      Published pool i (ConfigurationPublisher.IsCandidate request) AgreesAsConfiguration result
  | artifact {request : ArtifactRequest X} {result : Except PyError (PublicationReceipt X)} :
      pool.Finished i (.publishArtifact request) result →
      Published pool i (ArtifactPublisher.IsCandidate request) AgreesAsArtifact result

section

variable [DecidableEq ι] {first : World} {admits : World → Request X → Prop} {pool : Clients X ι}

theorem publishing_sound (consistent : Consistent X first)
    (publications : ∀ s request, admits s request → IsPublication s request)
    (reachable : Pool.Reachable (deployment (reliable X) admits) first pool) :
    Pool.Sound (deployment (reliable X) admits) (following (Policy.publishing X) first)
      (Request.Ends False True (Policy.publishing X) first) first pool := by
  refine deployment_sound serving_of_reliable (fun s request _ admitted => ?_) consistent reachable
  have publication := publications s request admitted
  cases request with
  | publishConfiguration request => exact ⟨fun _ => publication.1, fun _ _ => trivial⟩
  | publishArtifact request =>
    exact ⟨fun _ => publication.1, fun _ _ => trivial, fun _ _ _ _ _ => trivial⟩
  | _ => exact publication.elim

/-- How each publication ends. -/
theorem Published.ends (consistent : Consistent X first)
    (publications : ∀ s request, admits s request → IsPublication s request)
    (reachable : Pool.Reachable (deployment (reliable X) admits) first pool) {i : ι}
    {planned : StoredResourceV1 X → Prop}
    {agrees : StoredResourceFields X → StoredResourceFields X → Prop}
    {result : Except PyError (PublicationReceipt X)}
    (published : Published pool i planned agrees result) :
    ∃ clashes same, (∀ left right, same left right = true ↔ agrees left right) ∧
      PublicationEnds False True (Policy.publishing X) first same planned clashes
        (pool.history i) pool.state result := by
  have sound := publishing_sound consistent publications reachable
  cases published with
  | configuration finished =>
    obtain ⟨s, admitted⟩ := Pool.admitted_of_reachable reachable i _ _ finished
    exact ⟨_, _, fun _ _ => agreesAsConfiguration_iff,
      sound.finished finished (publications s _ admitted).2⟩
  | artifact finished =>
    obtain ⟨s, admitted⟩ := Pool.admitted_of_reachable reachable i _ _ finished
    exact ⟨_, _, fun _ _ => agreesAsArtifact_iff,
      sound.finished finished (publications s _ admitted).2⟩

/-- Two clients do not commit the rows of one identity. -/
theorem commits_apart {candidate other stored stored' : StoredResourceV1 X}
    (sound : Pool.Sound (deployment (reliable X) admits) (following (Policy.publishing X) first)
      (Request.Ends False True (Policy.publishing X) first) first pool) {i j : ι} (different : i ≠ j)
    (once : Once (CommitsAs candidate stored) (pool.history i))
    (again : Once (CommitsAs other stored') (pool.history j)) :
    other.resourceId ≠ candidate.resourceId := by
  intro same
  obtain ⟨event, member, version, stamp, absent, after, -⟩ := once.mem
  obtain ⟨event', member', version', stamp', absent', after', -⟩ := again.mem
  have left : event.after.row? .metadata candidate.resourceId ≠ none := by
    simp [after, row?_publish_metadata]
  have left' : event'.after.row? .metadata other.resourceId ≠ none := by
    simp [after', row?_publish_metadata]
  rw [same] at absent' left'
  -- Whichever came first left its row there for the other to find.
  rcases sound.comparable member member' fun both => different (congrArg Prod.fst both) with
    moved | moved
  · exact (Changes.evolves moved).metadata _ left absent'
  · exact (Changes.evolves moved).metadata _ left' absent

/-- Agreement, over every interleaving of any number of publications. -/
theorem publications_agree (consistent : Consistent X first)
    (publications : ∀ s request, admits s request → IsPublication s request)
    (reachable : Pool.Reachable (deployment (reliable X) admits) first pool) :
    (∀ later, Pool.Steps (deployment (reliable X) admits) pool later →
      ∀ resource other : StoredResourceV1 X, Stores pool.state resource → Stores later.state other →
        other.resourceId = resource.resourceId → other = resource) ∧
    (∀ i planned agrees receipt, Published pool i planned agrees (.ok receipt) →
      Stores pool.state receipt.resource ∧ ∃ candidate, planned candidate ∧
        candidate.resourceId = receipt.resource.resourceId ∧
        agrees candidate.toStoredResourceFields receipt.resource.toStoredResourceFields) ∧
    (∀ i planned agrees error, Published pool i planned agrees (.error error) →
      error.hasType .identityConflict = true ∧ Quiet (pool.history i)) ∧
    (∀ i j planned agrees receipt planned' agrees' receipt', i ≠ j →
      Published pool i planned agrees (.ok receipt) → Published pool j planned' agrees' (.ok receipt') →
      receipt.resource.resourceId = receipt'.resource.resourceId →
      receipt.idempotent = true ∨ receipt'.idempotent = true) ∧
    ∀ i request program, pool.threads i = some ⟨request, program⟩ →
      ∃ next result, Pool.Steps (deployment (reliable X) admits) pool next ∧
        next.Finished i request result := by
  have sound := publishing_sound consistent publications reachable
  refine ⟨?_, ?_, ?_, ?_, fun _ _ _ selected => deployment_finishes reachable selected⟩
  · intro later steps resource other stores stores' named
    have sound := publishing_sound consistent publications (reachable.trans steps)
    obtain ⟨more, traced⟩ := sound.traced_steps steps
    exact (stores_publishing (changes_of_traced traced) stores).unique stores' named
  · intro i planned agrees receipt published
    obtain ⟨_, _, decides, candidate, plan, named, matching, ⟨earlier, -, since, stores⟩, -⟩ :=
      published.ends consistent publications reachable
    exact ⟨stores_publishing since stores, candidate, plan, named.symm, (decides _ _).mp matching⟩
  · intro i planned agrees error published
    obtain ⟨_, _, -, ends⟩ := published.ends consistent publications reachable
    obtain ⟨conflict, quiet, -⟩ := (ends.resolve_left id).resolve_left fun invalid => invalid trivial
    exact ⟨conflict, quiet⟩
  · intro i j planned agrees receipt planned' agrees' receipt' different published published' named
    obtain ⟨_, _, -, candidate, -, of, -, -, told⟩ := published.ends consistent publications reachable
    obtain ⟨_, _, -, other, -, of', -, -, told'⟩ := published'.ends consistent publications reachable
    rcases told.resolve_left id with ⟨idempotent, -⟩ | once
    · exact Or.inl idempotent
    · rcases told'.resolve_left id with ⟨idempotent, -⟩ | again
      · exact Or.inr idempotent
      · exact absurd (of'.symm.trans (named.symm.trans of)) (commits_apart sound different once again)

end

/-- Two clients publish the configuration, and neither finds it stored. -/
def publicationRace : List (Turn Bool (Request Platform.reference)) :=
  [.start false (.publishConfiguration Reference.configuration),
    .start true (.publishConfiguration Reference.configuration), .run false, .run true, .run false,
    .run true, .run false, .run true, .run false, .run true, .run true, .run true]

/-- Of two racing publications of one configuration one is idempotent, and both return
the same row. -/
theorem publications_agree_race :
    let pool := simulate Platform.reference [] publicationRace World.empty
    ∃ receipt receipt',
      pool.Finished false (.publishConfiguration Reference.configuration) (.ok receipt) ∧
      pool.Finished true (.publishConfiguration Reference.configuration) (.ok receipt') ∧
      receipt.resource = receipt'.resource ∧
      (receipt.idempotent = true ∨ receipt'.idempotent = true) := by
  intro pool
  have valid : ConfigurationPublisher.IsValid Reference.configuration :=
    Reference.isCandidate_configuration.valid
  have starts : ∀ request ∈ Pool.starts publicationRace,
      request = .publishConfiguration Reference.configuration := by
    simp [publicationRace, Pool.starts]
  have reachable : Pool.Reachable (deployment (reliable Platform.reference) IsPublication)
      World.empty pool := by
    apply simulate_admitted (isUniform_empty [])
    · intro request member
      rw [starts request member]
      trivial
    · intro request member s
      rw [starts request member]
      exact ⟨valid, rfl, rfl⟩
  obtain ⟨one, carries, -, apart, -⟩ := publications_agree
    (fresh_empty Platform.reference).consistent (fun _ _ => id) reachable
  have serves : pool.request? false = some (.publishConfiguration Reference.configuration) :=
    simulate_request [.start false (.publishConfiguration Reference.configuration)] _ rfl
  have serves' : pool.request? true = some (.publishConfiguration Reference.configuration) :=
    simulate_request [.start false (.publishConfiguration Reference.configuration),
      .start true (.publishConfiguration Reference.configuration)] _ rfl
  obtain ⟨receipt, finished⟩ := ok_of_returned serves (by decide +kernel)
  obtain ⟨receipt', finished'⟩ := ok_of_returned serves' (by decide +kernel)
  obtain ⟨stores, candidate, planned, named, -⟩ := carries _ _ _ _ (.configuration finished)
  obtain ⟨stores', candidate', planned', named', -⟩ := carries _ _ _ _ (.configuration finished')
  have identity : candidate.identity = candidate'.identity :=
    Except.ok.inj (planned.identity.symm.trans planned'.identity)
  have same : receipt.resource.resourceId = receipt'.resource.resourceId := by
    rw [← named, ← named']
    exact congrArg (ResourceIdentity.resourceId _) identity
  refine ⟨receipt, receipt', finished, finished', ?_, ?_⟩
  · exact (one pool .refl _ _ stores stores' same.symm).symm
  · exact apart _ _ _ _ _ _ _ _ Bool.false_ne_true (.configuration finished)
      (.configuration finished') same

end ConfigArtifact
