import ConfigArtifact.Deployment
import ConfigArtifact.Store.Execution
import ConfigArtifact.Store.Shapes

/-! The calls the package issues, whatever it is answered.

A put of metadata is always of a published resource, a patch only ever marks one
as deprecated, and each structured call names the row it is about. None of this
depends on the replies, so it holds over stores that answer anything at all. Nor
does it depend on the form in which a store answers with a record, bare or wrapped.
-/

set_option autoImplicit false

namespace ConfigArtifact

open Interaction Fallible MetadataRepository

variable {X : Platform} {sources : PayloadSource → Prop} {reports : Mapping → Prop}

/-- A structured call of the package, where the orphan candidates it records are such. -/
def StructuredCall.IsIssued (reports : Mapping → Prop) : StructuredCall → Prop
  | .get collection filter => ∃ key, keyOf collection filter = some key
  | .put collection data => (∃ key, keyOf collection data = some key) ∧
      (collection = .metadata → data.lookup "state" = some (.str ResourceState.published.value)) ∧
      (collection = .orphanCandidates → reports data)
  | .patch collection filter changes _ => collection = .metadata ∧
      (∃ key, keyOf collection filter = some key) ∧
      changes = [("state", .str ResourceState.deprecated.value)]
  | .query .. => True

/-- A call of the package, where the payloads it registers come from these sources. -/
def Call.IsIssued (sources : PayloadSource → Prop) (reports : Mapping → Prop) : Call X → Prop
  | .structured call => call.IsIssued reports
  | .transaction body => body.Uses (StructuredCall.IsIssued reports)
  | .registerPayload source _ _ => sources source
  | .object (.get _) | .object (.readRange _ _) | .openPayload _ => False
  | _ => True

/-- A call of the package, whose transactions do not see the form of their answers. -/
def Call.IsUniform (sources : PayloadSource → Prop) (reports : Mapping → Prop) : Call X → Prop
  | .structured call => call.IsIssued reports
  | .transaction body => body.Blind (StructuredCall.IsIssued reports) (Wraps X)
  | .registerPayload source _ _ => sources source
  | .object (.get _) | .object (.readRange _ _) | .openPayload _ => False
  | _ => True

/-- Structured answers come in two forms; any other reply is alike itself only. -/
def Call.Alike : Likeness (runtime X)
  | .structured call => Wraps X call
  | .object _ | .transaction _ | .clock | .utcNow | .validate _ _ | .registerPayload _ _ _
  | .openPayload _ | .releasePayload _ => Eq

theorem StructuredCall.IsIssued.keyed {call : StructuredCall} (issued : call.IsIssued reports) :
    call.IsKeyed := by
  cases call with
  | get collection filter => exact issued
  | put collection data => exact issued.1
  | patch collection filter changes version => exact issued.2.1
  | query collection filter orderBy limit cursor => trivial

theorem Call.IsUniform.issued {call : Call X} (uniform : call.IsUniform sources reports) :
    call.IsIssued sources reports := by
  cases call with
  | transaction body => exact Program.Blind.uses uniform
  | structured call => exact uniform
  | object call => cases call <;> exact uniform
  | registerPayload source digest length => exact uniform
  | openPayload payload => exact uniform
  | clock => trivial
  | utcNow => trivial
  | validate payload schema => trivial
  | releasePayload payload => trivial

theorem Call.IsIssued.carries {content : Bytes} {call : Call X}
    (issued : call.IsIssued (fun source => source = .ofBytes content) reports) : call.Carries content := by
  cases call with
  | structured call => exact StructuredCall.IsIssued.keyed issued
  | transaction body =>
    exact Program.Uses.mono issued fun _ permitted => StructuredCall.IsIssued.keyed permitted
  | object call => cases call <;> trivial
  | registerPayload source digest length => exact issued
  | openPayload payload => cases issued
  | clock => trivial
  | utcNow => trivial
  | validate payload schema => trivial
  | releasePayload payload => trivial

theorem Call.IsIssued.answerable {call : Call X} (issued : call.IsIssued sources reports) :
    call.IsAnswerable := by
  cases call with
  | structured call => exact StructuredCall.IsIssued.keyed issued
  | transaction body =>
    exact Program.Uses.mono issued fun _ permitted => StructuredCall.IsIssued.keyed permitted
  | object call => trivial
  | registerPayload source digest length => trivial
  | openPayload payload => trivial
  | clock => trivial
  | utcNow => trivial
  | validate payload schema => trivial
  | releasePayload payload => trivial

section

theorem blind_lift {A : Type} {body : StructuredM A} (blind : body.run.Blind (StructuredCall.IsIssued reports) (Wraps X)) :
    (StructuredM.lift body : PyM X A).run.Blind (Call.IsUniform sources reports) Call.Alike :=
  Program.Blind.embed blind fun _ _ _ => id

theorem run_execute {A : Type} (call : StructuredCall) (read : OperationResult → Except PyError A) :
    (execute call >>= fun result => settle (read result) : StructuredM A).run =
      .call call fun reply => .done (reply >>= read) := by
  apply congrArg (Program.call _)
  funext reply
  cases reply <;> rfl

/-- A call whose answer is read at once, in either form. -/
theorem blind_execute {A : Type} {call : StructuredCall} {read : OperationResult → Except PyError A}
    (issued : call.IsIssued reports)
    (one : ∀ bare wrapped, Wraps X call bare wrapped → (bare >>= read) = (wrapped >>= read)) :
    (execute call >>= fun result => settle (read result) : StructuredM A).run.Blind
      (StructuredCall.IsIssued reports) (Wraps X) := by
  rw [run_execute]
  exact blind_read issued one

theorem blind_getResource (resourceId : String) (required : Bool) :
    (getResource X resourceId required).run.Blind (StructuredCall.IsIssued reports) (Wraps X) :=
  blind_read ⟨resourceId, rfl⟩ fun _ _ => readRecord_wraps ignores_resource _ _ _

theorem blind_getOrphan (candidateId : String) (required : Bool) :
    (getOrphan X candidateId required).run.Blind (StructuredCall.IsIssued reports) (Wraps X) :=
  blind_read ⟨candidateId, rfl⟩ fun _ _ => readRecord_wraps ignores_orphan _ _ _

theorem blind_putResource {resource : StoredResourceV1 X} (published : resource.state = .published) :
    (putResource resource).run.Blind (StructuredCall.IsIssued reports) (Wraps X) := by
  refine blind_execute ⟨⟨_, keyOf_resource resource⟩, fun _ => ?_, by simp⟩ fun _ _ =>
    recordOf_wraps ignores_resource _
  unfold StoredResourceFields.toRecord
  rw [published]
  rfl

theorem blind_latestChannel (key : ChannelKey) (required : Bool) :
    (latestChannel X key required).run.Blind (StructuredCall.IsIssued reports) (Wraps X) :=
  blind_execute trivial fun _ _ => readLatest_wraps

theorem blind_putChannel (pointer : ResourceChannelV1) :
    (putChannel X pointer).run.Blind (StructuredCall.IsIssued reports) (Wraps X) :=
  blind_execute ⟨⟨_, keyOf_channel pointer⟩, by simp, by simp⟩ fun _ _ =>
    recordOf_wraps ignores_channel _

theorem storedOrphan_wraps {orphan : OrphanCandidateV1 X} {data : Mapping}
    {bare wrapped : Except PyError OperationResult}
    (wraps : Wraps X (.put .orphanCandidates data) bare wrapped) :
    storedOrphan orphan bare = storedOrphan orphan wrapped := by
  have ignores : IgnoresAdded .orphanCandidates (parseOrphan X) := ignores_orphan
  have read := recordOf_wraps ignores "structured orphan put result" wraps
  rcases wraps.cases with ⟨error, rfl, rfl⟩ | ⟨first, second, resources, rfl, rfl, -⟩
  · rfl
  · exact congrArg settle read

theorem blind_putOrphan {orphan : OrphanCandidateV1 X} (reported : reports (orphan.toRecord X)) :
    (putOrphan orphan).run.Blind (StructuredCall.IsIssued reports) (Wraps X) := by
  refine ⟨⟨⟨_, keyOf_orphan orphan⟩, by simp, fun _ => reported⟩, fun bare wrapped wraps => ?_, ?_⟩
  · exact congrArg ExceptT.run (storedOrphan_wraps wraps)
  intro answer
  change (storedOrphan orphan answer).run.Blind _ _
  unfold storedOrphan
  split
  · trivial
  · split
    · refine blind_bind (blind_getOrphan _ _) fun found => ?_
      cases found with
      | none => trivial
      | some existing =>
        dsimp only
        split <;> trivial
    · trivial

theorem blind_publication {same : StoredResourceFields X → StoredResourceFields X → Bool}
    {candidate : StoredResourceV1 X} (published : candidate.state = .published) :
    (publication same candidate).run.Blind (StructuredCall.IsIssued reports) (Wraps X) := by
  refine blind_bind (blind_putResource published) fun stored => ?_
  unfold publishProvenance
  split
  · split
    · trivial
    · next record carried =>
      refine blind_bind (blind_execute ?_ fun _ _ => readProvenance_wraps) fun _ => trivial
      exact ⟨⟨_, keyOf_provenance carried⟩, by simp, by simp⟩
  · trivial

theorem blind_currentTimestamp : (currentTimestamp : PyM X String).run.Blind (Call.IsUniform sources reports) Call.Alike :=
  blind_bind (blind_invoke trivial fun _ _ => id) fun _ => trivial

theorem blind_requiredResource (resourceId : String) :
    (requiredResource X resourceId).run.Blind (Call.IsUniform sources reports) Call.Alike := by
  refine blind_bind (blind_lift (blind_getResource _ _)) fun found => ?_
  cases found <;> trivial

theorem blind_deprecateResource (resource : StoredResourceV1 X) :
    (deprecateResource resource).run.Blind (Call.IsUniform sources reports) Call.Alike := by
  unfold deprecateResource
  split
  · trivial
  · refine blind_invoke ?_ fun _ _ => id
    exact blind_execute ⟨rfl, ⟨_, rfl⟩, rfl⟩ fun _ _ => deprecationResult_wraps

theorem uses_deprecateResource (resource : StoredResourceV1 X) :
    (deprecateResource resource).run.Uses (Call.IsIssued sources reports) :=
  (blind_deprecateResource resource).uses.mono fun _ => Call.IsUniform.issued

theorem blind_deprecateWith (require : StoredResourceV1 X → Except PyError Unit)
    (identity : ResourceIdentity) :
    (deprecateWith require identity).run.Blind (Call.IsUniform sources reports) Call.Alike := by
  refine blind_bind (blind_requiredResource _) fun resource => ?_
  refine blind_settle_bind fun _ _ => ?_
  split
  · trivial
  · refine blind_attempt_bind (blind_deprecateResource _) fun result => ?_
    cases result with
    | ok stored => trivial
    | error error =>
      dsimp only
      split
      · refine blind_bind (blind_lift (blind_getResource _ _)) fun found => ?_
        cases found with
        | none => trivial
        | some winner =>
          dsimp only
          split <;> trivial
      · trivial

theorem blind_get («namespace» kind name channel : JsonValue) (required : Bool) :
    (ChannelRepository.get X «namespace» kind name channel required).run.Blind (Call.IsUniform sources reports) Call.Alike :=
  blind_settle_bind fun _ _ => blind_settle_bind fun _ _ => blind_settle_bind fun _ _ =>
    blind_settle_bind fun _ _ => blind_lift (blind_latestChannel _ _)

theorem blind_resolveChannel (require : StoredResourceV1 X → Except PyError Unit)
    («namespace» kind name channel : JsonValue) :
    (resolveChannel require «namespace» kind name channel).run.Blind (Call.IsUniform sources reports) Call.Alike := by
  refine blind_bind (blind_get _ _ _ _ _) fun found => ?_
  cases found with
  | none => trivial
  | some pointer =>
    exact blind_bind (blind_requiredResource _) fun _ => blind_settle_bind fun _ _ => trivial

theorem blind_selectTarget (target : PromotionTarget X) :
    (ChannelRepository.selectTarget target).run.Blind (Call.IsUniform sources reports) Call.Alike := by
  cases target with
  | resource resource => trivial
  | reference reference =>
    refine blind_bind (blind_lift (blind_getResource _ _)) fun found => ?_
    cases found with
    | none => trivial
    | some resource =>
      dsimp only
      split <;> trivial
  | identity identity =>
    refine blind_bind (blind_lift (blind_getResource _ _)) fun found => ?_
    cases found <;> trivial

theorem blind_promote (target : PromotionTarget X) (channel expectedPointerVersion actor : JsonValue)
    (expectedProfile : Option ResourceProfile) :
    (ChannelRepository.promote target channel expectedPointerVersion actor
      expectedProfile).run.Blind (Call.IsUniform sources reports) Call.Alike := by
  refine blind_settle_bind fun expected _ => blind_bind (blind_selectTarget _) fun resource => ?_
  refine blind_settle_bind fun _ _ => blind_settle_bind fun selected _ => ?_
  refine blind_bind (blind_get _ _ _ _ _) fun current => ?_
  split
  · trivial
  · refine blind_bind blind_currentTimestamp fun updatedAt => blind_settle_bind fun requested _ => ?_
    refine blind_attempt_bind (blind_lift (blind_putChannel _)) fun result => ?_
    cases result with
    | ok winner =>
      dsimp only
      split <;> trivial
    | error error =>
      dsimp only
      split <;> trivial

theorem uses_promote (target : PromotionTarget X) (channel expectedPointerVersion actor : JsonValue)
    (expectedProfile : Option ResourceProfile) :
    (ChannelRepository.promote target channel expectedPointerVersion actor
      expectedProfile).run.Uses (Call.IsIssued sources reports) :=
  (blind_promote target channel expectedPointerVersion actor expectedProfile).uses.mono fun _ =>
    Call.IsUniform.issued

theorem blind_promotePublished (profile : ResourceProfile) (resource : StoredResourceV1 X)
    (channel expectedPointerVersion actor : JsonValue) :
    (promotePublished profile resource channel expectedPointerVersion actor).run.Blind (Call.IsUniform sources reports) Call.Alike := by
  unfold promotePublished
  split
  · split <;> trivial
  · split
    · trivial
    · exact blind_bind (blind_promote _ _ _ _ _) fun _ => trivial

theorem blind_existingReceipt (profile : ResourceProfile)
    (same : StoredResourceFields X → StoredResourceFields X → Bool)
    (candidate existing : StoredResourceV1 X) (channel expectedPointerVersion actor : JsonValue) :
    (existingReceipt profile same candidate existing channel expectedPointerVersion
      actor).run.Blind (Call.IsUniform sources reports) Call.Alike := by
  unfold existingReceipt
  split
  · exact blind_bind (blind_promotePublished _ _ _ _ _) fun _ => trivial
  · trivial

theorem returns_candidate_configuration (request : ConfigurationRequest X) :
    (ConfigurationPublisher.candidate request).run.Returns
      (Returning fun candidate => candidate.state = .published) :=
  returns_bind fun _ => returns_bind fun _ => returns_bind fun _ => returns_bind fun _ =>
    returns_bind fun _ => returns_bind fun _ => returns_bind fun _ => returns_bind fun _ =>
      returns_settle fun _ created => (StoredResourceV1.isBuilt_of_create created).state

theorem blind_publishConfiguration (request : ConfigurationRequest X) :
    (ConfigurationPublisher.publish request).run.Blind (Call.IsUniform sources reports) Call.Alike := by
  refine blind_bind_returns ?_ (returns_candidate_configuration request) fun candidate published => ?_
  · refine blind_settle_bind fun _ _ => blind_settle_bind fun _ _ => ?_
    refine blind_bind (blind_invoke trivial fun _ _ => id) fun _ => blind_settle_bind fun _ _ => ?_
    refine blind_settle_bind fun _ _ => blind_settle_bind fun _ _ => blind_settle_bind fun _ _ => ?_
    exact blind_bind blind_currentTimestamp fun _ => trivial
  · refine blind_bind (blind_lift (blind_getResource _ _)) fun found => ?_
    cases found with
    | some existing => exact blind_existingReceipt _ _ _ _ _ _ _
    | none =>
      refine blind_attempt_bind (blind_invoke (blind_publication published) fun _ _ => id) fun result => ?_
      cases result with
      | ok stored => exact blind_bind (blind_promotePublished _ _ _ _ _) fun _ => trivial
      | error error =>
        dsimp only
        split
        · refine blind_bind (blind_lift (blind_getResource _ _)) fun found => ?_
          cases found with
          | some winner => exact blind_existingReceipt _ _ _ _ _ _ _
          | none => trivial
        · trivial

theorem uses_publishConfiguration (request : ConfigurationRequest X) :
    (ConfigurationPublisher.publish request).run.Uses (Call.IsIssued sources reports) :=
  (blind_publishConfiguration request).uses.mono fun _ => Call.IsUniform.issued

theorem blind_candidate (request : ArtifactRequest X) (content : ArtifactPublisher.Content)
    (objectRef : Option ObjectReference) :
    (ArtifactPublisher.candidate request content objectRef).run.Blind (Call.IsUniform sources reports) Call.Alike := by
  cases objectRef with
  | none => trivial
  | some reference =>
    exact blind_settle_bind fun _ _ => blind_bind blind_currentTimestamp fun _ => trivial

theorem returns_candidate (request : ArtifactRequest X) (content : ArtifactPublisher.Content)
    (objectRef : Option ObjectReference) :
    (ArtifactPublisher.candidate request content objectRef).run.Returns
      (Returning fun candidate => candidate.state = .published) := by
  cases objectRef with
  | none => trivial
  | some reference =>
    exact returns_bind fun _ => returns_bind fun _ => returns_settle fun _ created =>
      (StoredResourceV1.isBuilt_of_create created).state

theorem blind_putObject (request : ArtifactRequest X) (content : ArtifactPublisher.Content)
    (payload : PayloadReference) :
    (ArtifactPublisher.putObject request content payload).run.Blind (Call.IsUniform sources reports) Call.Alike := by
  refine blind_attempt_bind (blind_bind (blind_invoke trivial fun _ _ => id) fun _ => trivial) fun result => ?_
  have verified : ∀ metadata idempotent, (do
      settle (ArtifactPublisher.verifyObjectMetadata X metadata content)
      return (metadata, idempotent) : PyM X (ObjectMetadata × Bool)).run.Blind (Call.IsUniform sources reports) Call.Alike := fun _ _ => blind_settle_bind fun _ _ => trivial
  cases result with
  | ok metadata => exact verified metadata false
  | error error =>
    dsimp only
    split
    · refine blind_bind (blind_settle_bind fun _ _ => ?_) fun metadata => verified metadata true
      exact blind_bind (blind_invoke trivial fun _ _ => id) fun _ => trivial
    · trivial

theorem blind_incomplete (candidate : StoredResourceV1 X) (error : PyError) :
    (ArtifactPublisher.incomplete candidate error).run.Blind (Call.IsUniform sources fun _ => True) Call.Alike := by
  refine blind_bind ?_ fun _ => trivial
  unfold ArtifactPublisher.recordOrphan
  split
  · trivial
  · refine blind_bind blind_currentTimestamp fun _ => blind_settle_bind fun orphan _ => ?_
    refine blind_attempt_bind (blind_lift (blind_putOrphan trivial)) fun result => ?_
    cases result <;> trivial

theorem blind_publishMetadata (request : ArtifactRequest X) {candidate : StoredResourceV1 X}
    (published : candidate.state = .published) (idempotent : Bool) :
    (ArtifactPublisher.publishMetadata request candidate idempotent).run.Blind (Call.IsUniform sources fun _ => True) Call.Alike := by
  refine blind_attempt_bind (blind_invoke (blind_publication published) fun _ _ => id) fun result => ?_
  cases result with
  | ok stored => exact blind_bind (blind_promotePublished _ _ _ _ _) fun _ => trivial
  | error error =>
    dsimp only
    split
    · trivial
    · split
      · refine blind_bind (blind_lift (blind_getResource _ _)) fun found => ?_
        cases found with
        | some winner => exact blind_existingReceipt _ _ _ _ _ _ _
        | none => exact blind_incomplete _ _
      · exact blind_incomplete _ _

theorem blind_publishExisting (request : ArtifactRequest X) (content : ArtifactPublisher.Content)
    (existing : StoredResourceV1 X) :
    (ArtifactPublisher.publishExisting request content existing).run.Blind
      (Call.IsUniform sources reports) Call.Alike := by
  unfold ArtifactPublisher.publishExisting
  split
  · trivial
  · exact blind_bind (blind_candidate _ _ _) fun _ => blind_existingReceipt _ _ _ _ _ _ _

theorem blind_publishRegistered (request : ArtifactRequest X) (content : ArtifactPublisher.Content)
    (payload : PayloadReference) :
    (ArtifactPublisher.publishRegistered request content payload).run.Blind (Call.IsUniform sources fun _ => True) Call.Alike := by
  refine blind_bind (blind_lift (blind_getResource _ _)) fun found => ?_
  cases found with
  | some existing => exact blind_publishExisting _ _ _
  | none =>
    refine blind_bind (blind_putObject _ _ _) fun put => ?_
    exact blind_bind_returns (blind_candidate _ _ _) (returns_candidate _ _ _)
      fun candidate published => blind_publishMetadata request published _

/-- The sources a payload registers. -/
def ArtifactPayload.Registers (sources : PayloadSource → Prop) : ArtifactPayload → Prop
  | .bytes raw => sources (.ofBytes raw)
  | .source supplier | .factory supplier | .stream supplier => sources supplier
  | .reference _ | .unsupported => True

theorem blind_registerPayload {payload : ArtifactPayload} (registers : payload.Registers sources)
    (expectedDigest expectedLength : JsonValue) :
    (registerPayload payload expectedDigest expectedLength : PyM X _).run.Blind (Call.IsUniform sources reports) Call.Alike := by
  have declared : ∀ {source : PayloadSource}, sources source →
      (registerDeclared source expectedDigest expectedLength : PyM X _).run.Blind (Call.IsUniform sources reports) Call.Alike := fun known =>
    blind_settle_bind fun _ _ => blind_settle_bind fun _ _ =>
      blind_bind (blind_invoke known fun _ _ => id) fun _ => trivial
  cases payload with
  | bytes raw =>
    exact blind_settle_bind fun _ _ => blind_bind (blind_invoke registers fun _ _ => id) fun _ => trivial
  | reference reference => exact blind_settle_bind fun _ _ => blind_settle_bind fun _ _ => trivial
  | source source => exact declared registers
  | factory source => exact declared registers
  | stream source => exact declared registers
  | unsupported => exact blind_settle_bind fun _ _ => blind_settle_bind fun _ _ => trivial

theorem blind_publishArtifact {request : ArtifactRequest X}
    (registers : request.payload.Registers sources) :
    (ArtifactPublisher.publish request).run.Blind (Call.IsUniform sources fun _ => True) Call.Alike := by
  refine blind_settle_bind fun _ _ => blind_settle_bind fun _ _ => ?_
  refine blind_bind (blind_registerPayload registers _ _) fun registered => ?_
  refine blind_ensuring (blind_publishRegistered _ _ _) ?_
  unfold ArtifactPublisher.releaseOwned
  split
  · exact blind_invoke trivial fun _ _ => id
  · trivial

theorem uses_publishArtifact {request : ArtifactRequest X}
    (registers : request.payload.Registers sources) :
    (ArtifactPublisher.publish request).run.Uses (Call.IsIssued sources fun _ => True) :=
  (blind_publishArtifact registers).uses.mono fun _ => Call.IsUniform.issued

theorem blind_scanItems (record : Bool) (items : List ObjectMetadata) :
    (ArtifactConsumer.scanItems record items : PyM X _).run.Blind (Call.IsUniform sources fun _ => True) Call.Alike := by
  induction items with
  | nil => trivial
  | cons item rest ih =>
    unfold ArtifactConsumer.scanItems
    split
    · exact ih
    · refine blind_bind (blind_lift (blind_getResource _ _)) fun found => ?_
      cases found with
      | some existing => exact ih
      | none =>
        refine blind_bind ?_ fun candidate => ?_
        · exact blind_settle_bind fun _ _ => blind_bind (blind_invoke trivial fun _ _ => id) fun _ =>
            blind_settle_bind fun _ _ => trivial
        · cases record with
          | true =>
            exact blind_bind (blind_lift (blind_putOrphan trivial)) fun _ => blind_bind ih fun _ => trivial
          | false => exact blind_bind trivial fun _ => blind_bind ih fun _ => trivial

/-- The sources a request registers. -/
def Request.Registers (sources : PayloadSource → Prop) : Request X → Prop
  | .publishArtifact request => request.payload.Registers sources
  | _ => True

theorem Request.blind_program {request : Request X} (registers : request.Registers sources) :
    request.program.run.Blind (Call.IsUniform sources fun _ => True) Call.Alike := by
  cases request with
  | publishConfiguration request => exact blind_publishConfiguration request
  | publishArtifact request => exact blind_publishArtifact registers
  | promote target channel expected actor profile => exact blind_promote _ _ _ _ _
  | «deprecate» profile identity =>
    rw [Request.program_deprecate]
    exact blind_deprecateWith _ _
  | consumerChannel profile «namespace» kind name channel =>
    rw [Request.program_channel]
    exact blind_resolveChannel _ _ _ _ _
  | discoverOrphans limit cursor record =>
    refine blind_bind (blind_bind (blind_invoke trivial fun _ _ => id) fun _ => trivial) fun page => ?_
    exact blind_bind (blind_scanItems _ _) fun _ => trivial

theorem Request.uses_program {request : Request X} (registers : request.Registers sources) :
    request.program.run.Uses (Call.IsIssued sources fun _ => True) :=
  (Request.blind_program registers).uses.mono fun _ => Call.IsUniform.issued

theorem ArtifactPayload.registers_any (payload : ArtifactPayload) :
    payload.Registers fun _ => True := by
  cases payload <;> trivial

theorem registers_any (request : Request X) : request.Registers fun _ => True := by
  cases request with
  | publishArtifact request => exact request.payload.registers_any
  | _ => trivial

end

end ConfigArtifact
