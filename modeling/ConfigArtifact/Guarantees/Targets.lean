import ConfigArtifact.Simulation
import ConfigArtifact.Operations.Alone.Artifact
import ConfigArtifact.Operations.Alone.Configuration

/-! What is promoted.

Requests are served one after another, each to its end. A target that is named is looked
up, and only a published resource is promoted. A caller's own copy is not looked up, so it
is promoted although its row has been deprecated since.
-/

set_option autoImplicit false

namespace ConfigArtifact

open Interaction Fallible Relation MetadataRepository ChannelRepository

variable {X : Platform} {first s t : World}

/-- A request, and how it ended. -/
abbrev Answered (X : Platform) := Σ request : Request X, request.Result

/-- A request is answered with a copy of a resource. -/
def Request.Hands : (request : Request X) → request.Result → StoredResourceV1 X → Prop
  | .publishConfiguration _, .ok receipt, copy => receipt.resource = copy
  | .publishArtifact _, .ok receipt, copy => receipt.resource = copy
  | .deprecate _ _, .ok stored, copy => stored = copy
  | _, _, _ => False

/-- A caller has the copies that earlier requests were answered with. -/
def Offered (log : List (Answered X)) (target : PromotionTarget X) : Prop :=
  ∀ copy, target = .resource copy → ∃ answered ∈ log, answered.1.Hands answered.2 copy

/-- Requests that are served one after another. -/
inductive Sequence (X : Platform) (first : World) : List (Answered X) → World → Prop
  | start : Sequence X first [] first
  | serve {log : List (Answered X)} {s t : World} {request : Request X} {result : request.Result} :
      Sequence X first log s →
      (∀ target channel expectedPointerVersion actor profile,
        request = .promote target channel expectedPointerVersion actor profile → Offered log target) →
      request.program.run.Runs (reliable X) s result t →
      Sequence X first (log ++ [⟨request, result⟩]) t

/-- What a request does alone. -/
theorem Request.runs_alone (request : Request X) (consistent : Consistent X s)
    {result : request.Result} (runs : request.program.run.Runs (reliable X) s result t) :
    Consistent X t ∧ Changes (Policy.unrestricted X) s t ∧
      ∃ own, request.Ends False False (Policy.unrestricted X) s own t result := by
  have kept : (following (Policy.unrestricted X) s).invariant s := ⟨consistent, .refl⟩
  have permitted := serves_unrestricted (fun _ _ => True) s request kept trivial
  have safe := (request.safe_program kept permitted).narrow (@serving_of_reliable X False)
  obtain ⟨⟨later, moved⟩, -, ends⟩ := safe.runs kept (fun _ _ moved => moved) runs
  exact ⟨later, moved, ends⟩

/-- The promotion at the end of a publication. -/
theorem promotePublished_moves {profile : ResourceProfile} {resource : StoredResourceV1 X}
    {channel expectedPointerVersion actor : JsonValue} (consistent : Consistent X s)
    {result : Except PyError (Option ResourceChannelV1)}
    (runs : (promotePublished profile resource channel expectedPointerVersion actor).run.Runs
      (reliable X) s result t) : Changes (Policy.unrestricted X) s t := by
  rcases runs_promotePublished runs with ⟨-, rfl, -⟩ | ⟨-, rfl, -⟩ | ⟨-, promoted, -, promotes⟩
  · exact .refl
  · exact .refl
  · have promotes : (Request.promote (.resource resource) channel expectedPointerVersion actor
        (some profile)).program.run.Runs (reliable X) s promoted t := promotes
    exact (Request.runs_alone _ consistent promotes).2.1

/-- A resource of which the stores hold what it has become. -/
def IsKept (s : World) (copy : StoredResourceV1 X) : Prop :=
  ∃ later, Stores s later ∧ Succeeds copy later

theorem isKept (moved : Changes (Policy.unrestricted X) s t) {copy : StoredResourceV1 X}
    (stores : Stores s copy) : IsKept t copy := moved.evolves.stored copy stores

theorem IsKept.later {copy : StoredResourceV1 X} (kept : IsKept s copy)
    (moved : Changes (Policy.unrestricted X) s t) : IsKept t copy := by
  obtain ⟨middle, stores, first⟩ := kept
  obtain ⟨later, stores, second⟩ := moved.evolves.stored middle stores
  exact ⟨later, stores, first.trans second⟩

/-- A receipt over a row that was there is for that row. -/
theorem existingReceipt_resource {profile : ResourceProfile}
    {same : StoredResourceFields X → StoredResourceFields X → Bool}
    {candidate existing : StoredResourceV1 X} {channel expectedPointerVersion actor : JsonValue}
    {receipt : PublicationReceipt X} {env : Environment (runtime X) World}
    (runs : (existingReceipt profile same candidate existing channel expectedPointerVersion
      actor).run.Runs env s (.ok receipt) t) : receipt.resource = existing := by
  rcases runs_existingReceipt runs with ⟨-, -, raised⟩ | ⟨-, promoted, -, returned⟩
  · cases raised
  · obtain ⟨pointer, -, same⟩ := bind_ok.mp returned.symm
    cases same
    rfl

/-- What a publication has committed is still there when its promotion has ended. -/
theorem committed_isKept {profile : ResourceProfile} {candidate : StoredResourceV1 X}
    {channel expectedPointerVersion actor : JsonValue} (consistent : Consistent X s)
    (absent : s.row? .metadata candidate.resourceId = none) (published : candidate.state = .published)
    (backed : candidate.profile = .artifact → IsBacked s candidate) {version stamp : RecordVersion}
    {promoted : Except PyError (Option ResourceChannelV1)}
    (runs : (promotePublished profile (candidate.withVersion (some version)) channel
      expectedPointerVersion actor).run.Runs (reliable X) (s.publish candidate version stamp)
        promoted t) : IsKept t (candidate.withVersion (some version)) :=
  isKept (promotePublished_moves (consistent.publish absent published backed version stamp) runs)
    (stores_publish candidate version stamp)

theorem ConfigurationPublisher.publish_isKept {request : ConfigurationRequest X}
    {receipt : PublicationReceipt X} (consistent : Consistent X s)
    (moved : Changes (Policy.unrestricted X) s t)
    (runs : (publish request).run.Runs (reliable X) s (.ok receipt) t) :
    IsKept t receipt.resource := by
  generalize returned : Except.ok receipt = result at runs
  cases runs_publish covered_reliable consistent runs with
  | refused => cases returned
  | found planned stores named existing =>
    subst returned
    rw [existingReceipt_resource existing]
    exact isKept moved stores
  | committed planned absent promotes =>
    obtain ⟨pointer, -, same⟩ := bind_ok.mp returned.symm
    cases same
    obtain ⟨published, profile, -⟩ := planned.built
    refine committed_isKept consistent absent published (fun artifact => ?_) promotes
    cases profile.symm.trans artifact

theorem ArtifactPublisher.publish_isKept {request : ArtifactRequest X}
    {receipt : PublicationReceipt X} (consistent : Consistent X s)
    (moved : Changes (Policy.unrestricted X) s t)
    (runs : (publish request).run.Runs (reliable X) s (.ok receipt) t) :
    IsKept t receipt.resource := by
  generalize returned : Except.ok receipt = result at runs
  rcases runs_publish covered_reliable consistent runs with ⟨-, -, error, raised⟩ |
    ⟨content, payload, u, read, unwritten, kept, -, publishes⟩
  · cases returned.trans raised
  cases publishes with
  | found stores named existing =>
    subst returned
    rcases runs_publishExisting covered_reliable kept read stores named existing with
      ⟨-, -, error, raised, -⟩ | ⟨-, ⟨-, error, raised, -⟩ | ⟨candidate, -, again⟩⟩
    · cases raised
    · cases raised
    · rw [existingReceipt_resource again]
      exact isKept moved (unwritten.stores.mp stores)
  | stopped => cases returned
  | refused => cases returned
  | committed absent step planned promotes =>
    obtain ⟨pointer, -, same⟩ := bind_ok.mp returned.symm
    cases same
    obtain ⟨tables, stays⟩ := step.kept kept
    have built := planned.built
    obtain ⟨published, -, -, content', read', identity, -⟩ := built
    cases read.symm.trans read'
    refine committed_isKept stays ?_ published (fun _ => planned.backed read step.held) promotes
    rw [World.row?_of_tables tables, ← absent, ← identity]
    rfl

/-- Whatever a request hands out, the stores hold what it has become. -/
theorem Request.Hands.isKept {request : Request X} {result : request.Result}
    {copy : StoredResourceV1 X} (hands : request.Hands result copy) (consistent : Consistent X s)
    (runs : request.program.run.Runs (reliable X) s result t) : IsKept t copy := by
  obtain ⟨-, moved, own, ends⟩ := request.runs_alone consistent runs
  cases request with
  | publishConfiguration request =>
    cases result with
    | error error => exact hands.elim
    | ok receipt =>
      obtain rfl : receipt.resource = copy := hands
      exact ConfigurationPublisher.publish_isKept consistent moved runs
  | publishArtifact request =>
    cases result with
    | error error => exact hands.elim
    | ok receipt =>
      obtain rfl : receipt.resource = copy := hands
      exact ArtifactPublisher.publish_isKept consistent moved runs
  | «deprecate» profile identity =>
    cases result with
    | error error => exact hands.elim
    | ok stored =>
      obtain rfl : stored = copy := hands
      exact Seen.succeeded ends.1
  | _ => cases result <;> exact hands.elim

/-- Stores after any sequence are consistent, and hold what every copy has become. -/
theorem Sequence.kept {log : List (Answered X)} (sequence : Sequence X first log s)
    (consistent : Consistent X first) : Consistent X s ∧
      ∀ answered ∈ log, ∀ copy, answered.1.Hands answered.2 copy → IsKept s copy := by
  induction sequence with
  | start => exact ⟨consistent, by simp⟩
  | serve sequence offered runs ih =>
    obtain ⟨before, copies⟩ := ih
    obtain ⟨after, moved, -⟩ := Request.runs_alone _ before runs
    refine ⟨after, fun answered member copy hands => ?_⟩
    rcases List.mem_append.mp member with earlier | last
    · exact (copies answered earlier copy hands).later moved
    · obtain rfl := List.mem_singleton.mp last
      exact hands.isKept before runs

theorem SameRecord.ref {left right : StoredResourceV1 X} (same : SameRecord left right) :
    right.ref = left.ref := by
  have profile : right.profile = left.profile := by
    unfold SameRecord at same
    rw [same]
  have digest : right.digest = left.digest := by
    unfold SameRecord at same
    rw [same]
  simp only [StoredResourceV1.ref, StoredResourceRef.mk.injEq]
  exact ⟨same.identity, profile, digest⟩

/-- A resource that a target names, as far as the target tells. -/
def PromotionTarget.Agrees (resource : StoredResourceV1 X) : PromotionTarget X → Prop
  | .resource copy => resource.ref = copy.ref
  | .reference named => resource.ref = named
  | .identity named => resource.resourceId = named.resourceId X ∧
      -- Rows are found by id, which tells two identities apart as long as ids do not collide.
      ((∀ other : ResourceIdentity, other.resourceId X = named.resourceId X → other = named) →
        resource.identity = named)

/-- The row of the target is published at the end; or the promotion has raised, and channels
are what they were. -/
def PromotesLive (s : World) (target : PromotionTarget X) :
    Except PyError ResourceChannelV1 → World → Prop
  | .ok _, t => ∃ stored : StoredResourceV1 X, Stores t stored ∧ stored.state = .published ∧
      target.Agrees stored
  | .error _, t => ∀ key, t.row? .channels key = s.row? .channels key

/-- The row of a copy that would be promoted is published. -/
def IsCurrent (s : World) (target : PromotionTarget X)
    (channel expectedPointerVersion actor : JsonValue) (profile : Option ResourceProfile) : Prop :=
  ∀ (copy : StoredResourceV1 X) (key : ChannelKey) (version : Nat), target = .resource copy →
    Requests s target channel expectedPointerVersion actor profile copy key version →
    s.row? .channels (channelVersionId X key.namespace key.kind key.name key.channel version) = none →
    ∃ stored : StoredResourceV1 X, Stores s stored ∧ stored.resourceId = copy.resourceId ∧
      stored.state = .published

section

variable {target : PromotionTarget X} {channel expectedPointerVersion actor : JsonValue}
  {profile : Option ResourceProfile} {resource : StoredResourceV1 X} {key : ChannelKey}
  {version : Nat} {requested : ResourceChannelV1}

/-- What a conforming store makes of the put of a pointer. -/
theorem put_pointer {reply : Except PyError OperationResult}
    (answered : reliable X (.structured (.put .channels (requested.toRecord X))) s reply t) :
    let result := insertion key requested (reply >>= fun result =>
      recordOf result "structured channel put result" >>= parseChannel X)
    (∃ pointer counted, result = .ok pointer ∧
        s.row? .channels (requested.channelVersionId X) = none ∧
        t = s.setRow .channels (requested.channelVersionId X) ⟨requested.toRecord X, counted⟩) ∨
      (∃ error, result = .error error) ∧ t = s ∧
        s.row? .channels (requested.channelVersionId X) ≠ none := by
  intro result
  rcases put_of_served (keyOf_channel requested) (@serving_of_reliable X False _ _ _ _ answered) with
    ⟨counted, absent, changed, found | fault⟩ | ⟨rfl, error, rfl, reason⟩
  · obtain ⟨data, resources, rfl, presented⟩ := found
    have read : (recordOf ⟨data, resources⟩ "structured channel put result" >>= parseChannel X) =
        .ok (requested.withVersion (some counted)) :=
      recordOf_presented (reads_channel requested counted) presented
    have returned : result = .ok (requested.withVersion (some counted)) := by
      change insertion key requested (recordOf _ _ >>= parseChannel X) = _
      rw [read]
      exact insertion_of_target rfl
    exact Or.inl ⟨_, counted, returned, absent, changed⟩
  · exact absurd fault.1 id
  · exact Or.inr ⟨⟨_, rfl⟩, rfl, (reason.resolve_left id).1⟩

/-- The target of a promotion that puts a pointer is published, if its copy is current. -/
theorem target_published {log : List (Answered X)} (sequence : Sequence X first log s)
    (consistent : Consistent X first) (offered : Offered log target)
    (current : IsCurrent s target channel expectedPointerVersion actor profile)
    (requests : Requests s target channel expectedPointerVersion actor profile resource key version)
    (absent : s.row? .channels
      (ConfigArtifact.channelVersionId X key.namespace key.kind key.name key.channel version) = none) :
    ∃ stored : StoredResourceV1 X, Stores s stored ∧ stored.state = .published ∧
      target.Agrees stored := by
  have published := (checkTarget_ok requests.checked).1
  have named := requests.target
  cases target with
  | reference reference => exact ⟨resource, named.1, published, named.2⟩
  | identity identity =>
    exact ⟨resource, named.1, published, named.2, fun apart => apart resource.identity named.2⟩
  | resource copy =>
    obtain rfl : resource = copy := named
    obtain ⟨stored, stores, same, live⟩ := current resource key version rfl requests absent
    obtain ⟨answered, member, hands⟩ := offered resource rfl
    obtain ⟨later, kept, succeeds⟩ := (sequence.kept consistent).2 answered member resource hands
    -- What the copy has become is the row of its id.
    obtain rfl := kept.unique stores (same.trans succeeds.resourceId.symm)
    exact ⟨stored, stores, live, succeeds.same.ref⟩

/-- After every sequence of requests, a promotion returns only for the published row of its
target, and otherwise raises and adds no row, exactly if a copy that it is given is current. -/
theorem promote_targets_published (fresh : Fresh X first) {log : List (Answered X)}
    (sequence : Sequence X first log s) (offered : Offered log target)
    {result : Except PyError ResourceChannelV1}
    (runs : (promote target channel expectedPointerVersion actor profile).run.Runs (reliable X) s
      result t) :
    PromotesLive s target result t ↔
      IsCurrent s target channel expectedPointerVersion actor profile := by
  have consistent := (sequence.kept fresh.consistent).1
  cases runs_promote covered_reliable.honest consistent runs with
  | stops blame reason =>
    exact ⟨fun _ copy key version _ requests => absurd requests (reason _ _ _), fun _ _ => rfl⟩
  | @puts resource key version requested reply _ requests asked answered =>
    have put := @put_pointer X s t key requested reply answered
    rw [asked.channelVersionId] at put
    rcases put with ⟨pointer, counted, returned, absent, rfl⟩ | ⟨⟨error, raised⟩, rfl, present⟩
    · rw [returned]
      constructor
      · rintro ⟨stored, ⟨row, found, holds⟩, published, agrees⟩ copy - - rfl - -
        have named : stored.ref.identity = copy.ref.identity := congrArg StoredResourceRef.identity agrees
        refine ⟨stored, ⟨row, by simpa [World.row?_setRow] using found, holds⟩, ?_, published⟩
        exact congrArg (ResourceIdentity.resourceId X) named
      · intro current
        obtain ⟨stored, ⟨row, found, holds⟩, published, agrees⟩ :=
          target_published sequence fresh.consistent offered current requests absent
        exact ⟨stored, ⟨row, by simpa [World.row?_setRow] using found, holds⟩, published, agrees⟩
    · rw [raised]
      refine ⟨fun _ copy key' version' _ requests' free => ?_, fun _ _ => rfl⟩
      obtain ⟨-, rfl, rfl⟩ := requests.unique requests'
      exact absurd free present

end

namespace Reference

/-- How a request ends over stores, and the stores then. Only the kernel evaluates it. -/
@[irreducible] def serve (request : Request Platform.reference) (s : World) : request.Result × World :=
  request.program.run.execute (answer Platform.reference (.constant [])) s

def publishes : Request Platform.reference := .publishConfiguration configuration

def deprecates : Request Platform.reference := .deprecate .configuration identity

/-- A promotion by name. -/
def promotesNamed : Request Platform.reference :=
  .promote (.identity identity) (.str "stable") (.int 0) (.str "bob") none

theorem runs_serve {request : Request Platform.reference} {s : World} (uniform : IsUniform [] s)
    (registers : request.Registers fun source => source = .ofBytes []) :
    request.program.run.Runs (reliable Platform.reference) s (serve request s).1 (serve request s).2 ∧
      IsUniform [] (serve request s).2 := by
  unfold serve
  exact Program.runs_execute (answer_constant [])
    ((request.uses_program registers).mono fun _ issued => issued.carries) uniform

theorem sequence_publishes : Sequence Platform.reference World.empty
    [⟨publishes, (serve publishes World.empty).1⟩] (serve publishes World.empty).2 :=
  .serve .start (fun _ _ _ _ _ same => by cases same)
    (@runs_serve publishes _ (isUniform_empty []) trivial).1

theorem uniform_publishes : IsUniform [] (serve publishes World.empty).2 :=
  (@runs_serve publishes _ (isUniform_empty []) trivial).2

/-- The receipt of the publication carries the configuration. -/
theorem publishes_hands : publishes.Hands (serve publishes World.empty).1 resource := by
  have consistent := (fresh_empty Platform.reference).consistent
  have ⟨returned, found⟩ : (serve publishes World.empty).1.isOk = true ∧
      (serve publishes World.empty).2.row? .metadata (identity.resourceId Platform.reference) =
        some ⟨resource.toRecord, .number 1⟩ := by decide +kernel
  have runs := (@runs_serve publishes _ (isUniform_empty []) trivial).1
  obtain ⟨-, -, own, ends⟩ := publishes.runs_alone consistent runs
  cases ended : (serve publishes World.empty).1 with
  | error error =>
    rw [ended] at returned
    cases returned
  | ok receipt =>
    rw [ended] at runs ends
    obtain ⟨candidate, planned, named, -⟩ := ends ⟨rfl, rfl⟩
    have same : candidate.identity = identity :=
      Except.ok.inj (planned.identity.symm.trans isCandidate_configuration.identity)
    have keyed : receipt.resource.resourceId = resource.resourceId :=
      named.trans (congrArg (ResourceIdentity.resourceId Platform.reference) same)
    have hands : publishes.Hands (.ok receipt) receipt.resource := rfl
    obtain ⟨later, stores, succeeds⟩ := hands.isKept consistent runs
    have stored : Stores (serve publishes World.empty).2 resource := ⟨_, found, rfl, rfl⟩
    obtain rfl := stored.unique stores (succeeds.resourceId.trans keyed)
    rcases succeeds with same | ⟨-, -, deprecated, -⟩
    · exact same.symm
    · cases deprecated

end Reference

open Reference in
/-- The configuration that is published is promoted by its name. -/
theorem promote_targets_published_named :
    ∃ pointer t, ∃ stored : StoredResourceV1 Platform.reference,
    (promote (.identity identity) (.str "stable") (.int 0) (.str "bob") none).run.Runs
      (reliable Platform.reference) (serve publishes World.empty).2 (.ok pointer) t ∧
    Stores t stored ∧ stored.state = .published ∧
    stored.resourceId = identity.resourceId Platform.reference := by
  have promotes := (@runs_serve promotesNamed _ uniform_publishes trivial).1
  have live := (promote_targets_published (fresh_empty Platform.reference) sequence_publishes
    (fun copy same => by cases same) promotes).mpr (fun copy key version same => by cases same)
  have returned : (serve promotesNamed (serve publishes World.empty).2).1.isOk = true := by
    decide +kernel
  cases ended : (serve promotesNamed (serve publishes World.empty).2).1 with
  | error error =>
    rw [ended] at returned
    cases returned
  | ok pointer =>
    rw [ended] at promotes live
    obtain ⟨stored, stores, published, named, -⟩ := live
    exact ⟨pointer, _, stored, promotes, stores, published, named⟩

open Reference in
/-- The copy from the receipt is promoted after its row has been deprecated. -/
theorem deprecated_promoted : ∃ log s pointer t,
    Sequence Platform.reference World.empty log s ∧ Offered log (.resource resource) ∧
    (promote (.resource resource) (.str "stable") (.int 0) (.str "bob") none).run.Runs
      (reliable Platform.reference) s (.ok pointer) t ∧
    ¬PromotesLive s (.resource resource) (.ok pointer) t := by
  have deprecated := @runs_serve deprecates _ uniform_publishes trivial
  have promotes := (@runs_serve promotion _ deprecated.2 trivial).1
  have ⟨returned, state⟩ :
      (serve promotion (serve deprecates (serve publishes World.empty).2).2).1.isOk = true ∧
      ((serve promotion (serve deprecates (serve publishes World.empty).2).2).2.row? .metadata
        (identity.resourceId Platform.reference)).map (fun row => row.values.lookup "state") =
          some (some (.str "DEPRECATED")) := by decide +kernel
  cases ended : (serve promotion (serve deprecates (serve publishes World.empty).2).2).1 with
  | error error =>
    rw [ended] at returned
    cases returned
  | ok pointer =>
    rw [ended] at promotes
    refine ⟨_, _, pointer, _, sequence_publishes.serve (fun _ _ _ _ _ same => by cases same)
      deprecated.1, ?_, promotes, ?_⟩
    · rintro copy ⟨⟩
      exact ⟨_, List.mem_cons_self, publishes_hands⟩
    · rintro ⟨stored, ⟨row, found, holds⟩, published, agrees⟩
      have named : stored.ref.identity = resource.ref.identity :=
        congrArg StoredResourceRef.identity agrees
      have keyed : stored.resourceId = identity.resourceId Platform.reference :=
        congrArg (ResourceIdentity.resourceId _) named
      have recorded : stored.toRecord.lookup "state" = some (.str stored.state.value) := rfl
      rw [← keyed, found, Option.map_some, holds.1, recorded, published] at state
      exact absurd state (by decide)

end ConfigArtifact
