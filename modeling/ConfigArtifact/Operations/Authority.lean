import ConfigArtifact.Artifact.Reading
import ConfigArtifact.Contracts.Requirements
import ConfigArtifact.Deployment

/-! What each operation has to be granted.

Whatever an operation is answered, it calls no other methods than these. The
lemmas follow the operations down to their calls; each asks for the capabilities
of its own calls, and of those of the operations it is made of.
-/

set_option autoImplicit false

namespace ConfigArtifact

open Interaction Fallible MetadataRepository

variable {X : Platform} {granted : Capability → Prop}

/-- The program needs nothing else than what is granted. -/
abbrev Needs {A : Type} (program : PyM X A) (granted : Capability → Prop) : Prop :=
  program.run.Uses (Call.IsGranted granted)

theorem needs_lift {A : Type} {body : StructuredM A}
    (uses : body.run.Uses (StructuredCall.IsGranted granted)) :
    Needs (StructuredM.lift body : PyM X A) granted :=
  Program.Uses.embed uses

theorem uses_execute {A : Type} {call : StructuredCall} {next : OperationResult → StructuredM A}
    (allowed : granted call.capability)
    (rest : ∀ result, (next result).run.Uses (StructuredCall.IsGranted granted)) :
    (execute call >>= next).run.Uses (StructuredCall.IsGranted granted) :=
  uses_bind (uses_invoke allowed) rest

theorem uses_attempt_execute {A : Type} {call : StructuredCall}
    {next : Except PyError OperationResult → StructuredM A} (allowed : granted call.capability)
    (rest : ∀ result, (next result).run.Uses (StructuredCall.IsGranted granted)) :
    (attempt (execute call) >>= next).run.Uses (StructuredCall.IsGranted granted) :=
  uses_attempt_bind (uses_invoke allowed) rest

theorem uses_getResource (resourceId : String) (required : Bool) (get : granted (.get .metadata)) :
    (getResource X resourceId required).run.Uses (StructuredCall.IsGranted granted) :=
  uses_attempt_execute get fun _ => trivial

theorem uses_listResources («namespace» kind name profile : Option String)
    (state : Option ResourceState) (limit : Int) (cursor : Option String)
    (query : granted (.query .metadata)) :
    (listResources X «namespace» kind name profile state limit cursor).run.Uses (StructuredCall.IsGranted granted) :=
  uses_execute query fun _ => trivial

theorem uses_latestResource («namespace» kind name : String) (profile : Option String)
    (query : granted (.query .metadata)) :
    (latestResource X «namespace» kind name profile).run.Uses (StructuredCall.IsGranted granted) := by
  refine uses_bind (uses_listResources _ _ _ _ _ _ _ query) fun page => ?_
  split <;> trivial

theorem uses_latestChannel (key : ChannelKey) (required : Bool) (query : granted (.query .channels)) :
    (latestChannel X key required).run.Uses (StructuredCall.IsGranted granted) :=
  uses_execute query fun _ => trivial

theorem uses_putOrphan (orphan : OrphanCandidateV1 X) (put : granted (.put .orphanCandidates))
    (get : granted (.get .orphanCandidates)) :
    (putOrphan orphan).run.Uses (StructuredCall.IsGranted granted) := by
  refine uses_attempt_execute put fun result => ?_
  unfold storedOrphan
  split
  · trivial
  · split
    · refine uses_bind (uses_attempt_execute get fun _ => trivial) fun found => ?_
      cases found with
      | none => trivial
      | some existing =>
        dsimp only
        split <;> trivial
    · trivial

theorem uses_publication (same : StoredResourceFields X → StoredResourceFields X → Bool)
    (candidate : StoredResourceV1 X) (put : granted (.put .metadata))
    (mirror : granted (.put .provenance)) :
    (publication same candidate).run.Uses (StructuredCall.IsGranted granted) := by
  refine uses_bind (uses_execute put fun _ => trivial) fun stored => ?_
  unfold publishProvenance
  split
  · split
    · trivial
    · exact uses_bind (uses_execute mirror fun _ => trivial) fun _ => trivial
  · trivial

theorem needs_currentTimestamp : Needs (currentTimestamp : PyM X String) granted :=
  uses_bind (uses_invoke trivial) fun _ => trivial

theorem needs_inTransaction {body : StructuredM (StoredResourceV1 X)}
    (begins : granted (.transaction .metadata))
    (uses : body.run.Uses (StructuredCall.IsGranted granted)) :
    Needs (inTransaction body) granted :=
  uses_invoke ⟨begins, uses⟩

theorem needs_requiredResource (resourceId : String) (get : granted (.get .metadata)) :
    Needs (requiredResource X resourceId) granted := by
  refine uses_bind (needs_lift (uses_getResource _ _ get)) fun found => ?_
  cases found <;> trivial

theorem needs_get («namespace» kind name channel : JsonValue) (required : Bool)
    (query : granted (.query .channels)) :
    Needs (ChannelRepository.get X «namespace» kind name channel required) granted :=
  uses_settle_bind fun _ _ => uses_settle_bind fun _ _ => uses_settle_bind fun _ _ =>
    uses_settle_bind fun _ _ => needs_lift (uses_latestChannel _ _ query)

theorem needs_resolveChannel (require : StoredResourceV1 X → Except PyError Unit)
    («namespace» kind name channel : JsonValue) (query : granted (.query .channels))
    (get : granted (.get .metadata)) :
    Needs (resolveChannel require «namespace» kind name channel) granted := by
  refine uses_bind (needs_get _ _ _ _ _ query) fun found => ?_
  cases found with
  | none => trivial
  | some pointer =>
    exact uses_bind (needs_requiredResource _ get) fun _ => uses_settle_bind fun _ _ => trivial

theorem needs_deprecateWith (require : StoredResourceV1 X → Except PyError Unit)
    (identity : ResourceIdentity) (get : granted (.get .metadata))
    (patch : granted (.patch .metadata)) (begins : granted (.transaction .metadata)) :
    Needs (deprecateWith require identity) granted := by
  refine uses_bind (needs_requiredResource _ get) fun resource => ?_
  refine uses_settle_bind fun _ _ => ?_
  split
  · trivial
  · have patched : Needs (deprecateResource resource) granted := by
      unfold deprecateResource
      split
      · trivial
      · exact needs_inTransaction begins (uses_execute patch fun _ => trivial)
    refine uses_attempt_bind patched fun result => ?_
    cases result with
    | ok stored => trivial
    | error error =>
      dsimp only
      split
      · refine uses_bind (needs_lift (uses_getResource _ _ get)) fun found => ?_
        cases found with
        | none => trivial
        | some winner =>
          dsimp only
          split <;> trivial
      · trivial

theorem needs_selectTarget (target : PromotionTarget X) (get : granted (.get .metadata)) :
    Needs (ChannelRepository.selectTarget target) granted := by
  cases target with
  | resource resource => trivial
  | reference reference =>
    refine uses_bind (needs_lift (uses_getResource _ _ get)) fun found => ?_
    cases found with
    | none => trivial
    | some resource =>
      dsimp only
      split <;> trivial
  | identity identity =>
    refine uses_bind (needs_lift (uses_getResource _ _ get)) fun found => ?_
    cases found <;> trivial

theorem needs_promoteSelected {target : PromotionTarget X}
    (selects : Needs (ChannelRepository.selectTarget target) granted)
    (channel expectedPointerVersion actor : JsonValue) (profile : Option ResourceProfile)
    (query : granted (.query .channels)) (put : granted (.put .channels)) :
    Needs (ChannelRepository.promote target channel expectedPointerVersion actor profile)
      granted := by
  refine uses_settle_bind fun expected _ => uses_bind selects fun resource => ?_
  refine uses_settle_bind fun _ _ => uses_settle_bind fun selected _ => ?_
  refine uses_bind (needs_get _ _ _ _ _ query) fun current => ?_
  split
  · trivial
  · refine uses_bind needs_currentTimestamp fun updatedAt => uses_settle_bind fun requested _ => ?_
    refine uses_attempt_bind (needs_lift (uses_execute put fun _ => trivial)) fun result => ?_
    cases result with
    | ok winner =>
      dsimp only
      split <;> trivial
    | error error =>
      dsimp only
      split <;> trivial

theorem needs_promotePublished (profile : ResourceProfile) (resource : StoredResourceV1 X)
    (channel expectedPointerVersion actor : JsonValue) (query : granted (.query .channels))
    (put : granted (.put .channels)) :
    Needs (promotePublished profile resource channel expectedPointerVersion actor) granted := by
  unfold promotePublished
  split
  · split <;> trivial
  · split
    · trivial
    · have selects : Needs (ChannelRepository.selectTarget (.resource resource)) granted := trivial
      exact uses_bind (needs_promoteSelected selects _ _ _ _ query put) fun _ => trivial

theorem needs_existingReceipt (profile : ResourceProfile)
    (same : StoredResourceFields X → StoredResourceFields X → Bool)
    (candidate existing : StoredResourceV1 X) (channel expectedPointerVersion actor : JsonValue)
    (query : granted (.query .channels)) (put : granted (.put .channels)) :
    Needs (existingReceipt profile same candidate existing channel expectedPointerVersion actor)
      granted := by
  unfold existingReceipt
  split
  · exact uses_bind (needs_promotePublished _ _ _ _ _ query put) fun _ => trivial
  · trivial

/-- What publications of either profile need. -/
structure MayPublish (granted : Capability → Prop) : Prop where
  get : granted (.get .metadata)
  put : granted (.put .metadata)
  mirror : granted (.put .provenance)
  begins : granted (.transaction .metadata)
  query : granted (.query .channels)
  point : granted (.put .channels)

theorem needs_publishConfiguration (request : ConfigurationRequest X) (may : MayPublish granted) :
    Needs (ConfigurationPublisher.publish request) granted := by
  refine uses_bind ?_ fun candidate => ?_
  · refine uses_settle_bind fun _ _ => uses_settle_bind fun _ _ => ?_
    refine uses_bind (uses_invoke trivial) fun _ => uses_settle_bind fun _ _ => ?_
    refine uses_settle_bind fun _ _ => uses_settle_bind fun _ _ => uses_settle_bind fun _ _ => ?_
    exact uses_bind needs_currentTimestamp fun _ => trivial
  · refine uses_bind (needs_lift (uses_getResource _ _ may.get)) fun found => ?_
    cases found with
    | some existing => exact needs_existingReceipt _ _ _ _ _ _ _ may.query may.point
    | none =>
      refine uses_attempt_bind (needs_inTransaction may.begins
        (uses_publication _ _ may.put may.mirror)) fun result => ?_
      cases result with
      | ok stored =>
        exact uses_bind (needs_promotePublished _ _ _ _ _ may.query may.point) fun _ => trivial
      | error error =>
        dsimp only
        split
        · refine uses_bind (needs_lift (uses_getResource _ _ may.get)) fun found => ?_
          cases found with
          | some winner => exact needs_existingReceipt _ _ _ _ _ _ _ may.query may.point
          | none => trivial
        · trivial

/-- What artifact publication needs besides. -/
structure MayStore (granted : Capability → Prop) : Prop extends MayPublish granted where
  store : granted .objectPut
  stat : granted .objectStat
  report : granted (.put .orphanCandidates)
  reported : granted (.get .orphanCandidates)

theorem needs_candidate (request : ArtifactRequest X) (content : ArtifactPublisher.Content)
    (objectRef : Option ObjectReference) :
    Needs (ArtifactPublisher.candidate request content objectRef) granted := by
  cases objectRef with
  | none => trivial
  | some reference =>
    exact uses_settle_bind fun _ _ => uses_bind needs_currentTimestamp fun _ => trivial

theorem needs_putObject (request : ArtifactRequest X) (content : ArtifactPublisher.Content)
    (payload : PayloadReference) (may : MayStore granted) :
    Needs (ArtifactPublisher.putObject request content payload) granted := by
  refine uses_attempt_bind (uses_bind (uses_invoke may.store) fun _ => trivial) fun result => ?_
  have verified : ∀ metadata idempotent, Needs (do
      settle (ArtifactPublisher.verifyObjectMetadata X metadata content)
      return (metadata, idempotent) : PyM X (ObjectMetadata × Bool)) granted := fun _ _ =>
    uses_settle_bind fun _ _ => trivial
  cases result with
  | ok metadata => exact verified metadata false
  | error error =>
    dsimp only
    split
    · refine uses_bind (uses_settle_bind fun _ _ => ?_) fun metadata => verified metadata true
      exact uses_bind (uses_invoke may.stat) fun _ => trivial
    · trivial

theorem needs_incomplete (candidate : StoredResourceV1 X) (error : PyError)
    (may : MayStore granted) : Needs (ArtifactPublisher.incomplete candidate error) granted := by
  refine uses_bind ?_ fun _ => trivial
  unfold ArtifactPublisher.recordOrphan
  split
  · trivial
  · refine uses_bind needs_currentTimestamp fun _ => uses_settle_bind fun orphan _ => ?_
    refine uses_attempt_bind (needs_lift (uses_putOrphan _ may.report may.reported)) fun result => ?_
    cases result <;> trivial

theorem needs_publishMetadata (request : ArtifactRequest X) (candidate : StoredResourceV1 X)
    (idempotent : Bool) (may : MayStore granted) :
    Needs (ArtifactPublisher.publishMetadata request candidate idempotent) granted := by
  refine uses_attempt_bind (needs_inTransaction may.begins
    (uses_publication _ _ may.put may.mirror)) fun result => ?_
  cases result with
  | ok stored =>
    exact uses_bind (needs_promotePublished _ _ _ _ _ may.query may.point) fun _ => trivial
  | error error =>
    dsimp only
    split
    · trivial
    · split
      · refine uses_bind (needs_lift (uses_getResource _ _ may.get)) fun found => ?_
        cases found with
        | some winner => exact needs_existingReceipt _ _ _ _ _ _ _ may.query may.point
        | none => exact needs_incomplete _ _ may
      · exact needs_incomplete _ _ may

theorem needs_publishRegistered (request : ArtifactRequest X) (content : ArtifactPublisher.Content)
    (payload : PayloadReference) (may : MayStore granted) :
    Needs (ArtifactPublisher.publishRegistered request content payload) granted := by
  refine uses_bind (needs_lift (uses_getResource _ _ may.get)) fun found => ?_
  cases found with
  | some existing =>
    dsimp only
    unfold ArtifactPublisher.publishExisting
    split
    · trivial
    · exact uses_bind (needs_candidate _ _ _) fun _ =>
        needs_existingReceipt _ _ _ _ _ _ _ may.query may.point
  | none =>
    refine uses_bind (needs_putObject _ _ _ may) fun put => ?_
    exact uses_bind (needs_candidate _ _ _) fun candidate => needs_publishMetadata _ _ _ may

theorem needs_registerPayload (payload : ArtifactPayload) (expectedDigest expectedLength : JsonValue) :
    Needs (registerPayload payload expectedDigest expectedLength : PyM X _) granted := by
  have declared : ∀ source : PayloadSource,
      Needs (registerDeclared source expectedDigest expectedLength : PyM X _) granted := fun _ =>
    uses_settle_bind fun _ _ => uses_settle_bind fun _ _ => uses_bind (uses_invoke trivial) fun _ =>
      trivial
  cases payload with
  | bytes raw => exact uses_settle_bind fun _ _ => uses_bind (uses_invoke trivial) fun _ => trivial
  | reference reference => exact uses_settle_bind fun _ _ => uses_settle_bind fun _ _ => trivial
  | source source => exact declared source
  | factory source => exact declared source
  | stream source => exact declared source
  | unsupported => exact uses_settle_bind fun _ _ => uses_settle_bind fun _ _ => trivial

theorem needs_publishArtifact (request : ArtifactRequest X) (may : MayStore granted) :
    Needs (ArtifactPublisher.publish request) granted := by
  refine uses_settle_bind fun _ _ => uses_settle_bind fun _ _ => ?_
  refine uses_bind (needs_registerPayload _ _ _) fun registered => ?_
  refine uses_ensuring (needs_publishRegistered _ _ _ may) ?_
  unfold ArtifactPublisher.releaseOwned
  split
  · exact uses_invoke trivial
  · trivial

theorem needs_scanItems (record : Bool) (items : List ObjectMetadata) (get : granted (.get .metadata))
    (reports : record = true → granted (.put .orphanCandidates) ∧ granted (.get .orphanCandidates)) :
    Needs (ArtifactConsumer.scanItems record items : PyM X _) granted := by
  induction items with
  | nil => trivial
  | cons item rest ih =>
    unfold ArtifactConsumer.scanItems
    split
    · exact ih
    · refine uses_bind (needs_lift (uses_getResource _ _ get)) fun found => ?_
      cases found with
      | some existing => exact ih
      | none =>
        refine uses_bind ?_ fun candidate => ?_
        · exact uses_settle_bind fun _ _ => uses_bind (uses_invoke trivial) fun _ =>
            uses_settle_bind fun _ _ => trivial
        · cases record with
          | true =>
            obtain ⟨put, again⟩ := reports rfl
            exact uses_bind (needs_lift (uses_putOrphan _ put again)) fun _ =>
              uses_bind ih fun _ => trivial
          | false => exact uses_bind trivial fun _ => uses_bind ih fun _ => trivial

theorem needs_discoverOrphans (limit : Int) (cursor : Option String) (record : Bool)
    (list : granted .objectList) (get : granted (.get .metadata))
    (reports : record = true → granted (.put .orphanCandidates) ∧ granted (.get .orphanCandidates)) :
    Needs (ArtifactConsumer.discoverOrphans limit cursor record : PyM X _) granted := by
  refine uses_bind (uses_bind (uses_invoke list) fun _ => trivial) fun page => ?_
  exact uses_bind (needs_scanItems _ _ get reports) fun _ => trivial

theorem needs_verifiedRead (resource : StoredResourceV1 X) {fetch : ObjectReference → PyM X ObjectRead}
    (fetches : ∀ reference, Needs (fetch reference) granted) :
    Needs (ArtifactConsumer.verifiedRead resource fetch) granted := by
  refine uses_settle_bind fun reference _ => uses_attempt_bind (fetches reference) fun result => ?_
  cases result with
  | error error => trivial
  | ok result =>
    dsimp only
    split
    · exact uses_bind (uses_invoke trivial) fun _ => trivial
    · trivial

theorem needs_consuming {A : Type} (payload : PayloadReference)
    (body : PayloadStream → Except PyError A) :
    Needs (ArtifactConsumer.consuming payload body : PyM X A) granted :=
  uses_ensuring (uses_bind (uses_invoke trivial) fun _ => trivial) (uses_invoke trivial)

theorem needs_open {A : Type} (patience : Nat) (resource : StoredResourceV1 X) (block : Block A)
    (get : granted .objectGet) : Needs (ArtifactConsumer.open patience resource block) granted :=
  uses_bind (needs_verifiedRead resource fun _ => uses_bind (uses_invoke get) fun _ => trivial)
    fun _ => needs_consuming _ _

theorem needs_rangeRead (support : RangeSupport) (resource : StoredResourceV1 X) (byteRange : ByteRange)
    (readRange : granted .objectReadRange) :
    Needs (ArtifactConsumer.rangeRead support resource byteRange) granted :=
  uses_bind (needs_verifiedRead resource fun _ => uses_bind (uses_invoke readRange) fun _ => trivial)
    fun _ => uses_settle_bind fun _ _ => uses_bind (needs_consuming _ _) fun _ =>
      uses_settle_bind fun _ _ => trivial

theorem needs_stat (resource : StoredResourceV1 X) (stat : granted .objectStat) :
    Needs (ArtifactConsumer.stat resource) granted := by
  refine uses_settle_bind fun reference _ => ?_
  refine uses_attempt_bind (uses_bind (uses_invoke stat) fun _ => trivial) fun result => ?_
  cases result with
  | error error => trivial
  | ok metadata => exact uses_settle_bind fun _ _ => trivial

end ConfigArtifact
