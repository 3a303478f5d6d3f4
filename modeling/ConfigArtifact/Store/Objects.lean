import ConfigArtifact.Artifact.Publisher
import ConfigArtifact.Store.Transactions

/-! What the Object, payload and validator calls conclude and change. -/

set_option autoImplicit false

namespace ConfigArtifact

open Interaction Fallible Relation MetadataRepository

variable {X : Platform} {P : Policy X} {first s t u : World} {faults : Prop}
  {history : List (Event (runtime X) World)}

theorem Evolves.payload? (evolves : Evolves X s t) {token : String}
    (registered : s.payload? token ≠ none) : t.payload? token = s.payload? token := by
  obtain ⟨source, found⟩ := Option.ne_none_iff_exists'.mp registered
  rw [found, evolves.payloads token source found]

theorem Delivers.registered {payload : PayloadReference} {content : Bytes}
    (delivers : Delivers s payload content) : s.payload? payload.token ≠ none := by
  obtain ⟨source, found, -⟩ := delivers
  rw [found]
  exact Option.some_ne_none source

theorem IsReplayable.later {payload : PayloadReference} {digest : String} {length : Nat}
    (replayable : IsReplayable X s payload digest length) (evolves : Evolves X s t) :
    IsReplayable X t payload digest length := by
  obtain ⟨⟨content, delivers⟩, intact⟩ := replayable
  have same := evolves.payload? delivers.registered
  refine ⟨⟨content, ?_⟩, fun other delivered => intact other ?_⟩
  · unfold Delivers at *
    rwa [same]
  · unfold Delivers at *
    rwa [same] at delivered

/-- What an artifact publication asks the Object store to commit. -/
structure ObjectRequest where
  resourceId : String
  payload : PayloadReference
  mediaType : String
  digest : String
  byteLength : Nat
  userMetadata : StringMapping
  creationContext : Mapping
  provenance : Mapping

namespace ObjectRequest

def objectId (request : ObjectRequest) : String := objectIdOf request.resourceId

def call (request : ObjectRequest) : ObjectCall :=
  .put request.objectId request.payload request.mediaType request.digest request.byteLength
    request.userMetadata request.creationContext request.provenance

/-- The metadata of the Object a put commits. -/
def metadata (X : Platform) (request : ObjectRequest) : ObjectMetadata :=
  committedMetadata X request.objectId request.digest request.byteLength request.mediaType
    request.userMetadata request.creationContext request.provenance

/-- The Object a put commits from some content. -/
def stored (X : Platform) (request : ObjectRequest) (content : Bytes) : StoredObject :=
  ⟨request.metadata X, content⟩

end ObjectRequest

theorem metadataOf_data {metadata : ObjectMetadata} (accepted : X.checkMetadata metadata = .ok ())
    (resources : List ResourceRef) (description : String) :
    (Except.ok ⟨.object (objectData X metadata), resources⟩ >>= fun result =>
      ObjectRepository.metadataOf X result description) = .ok metadata := by
  have parsed := X.parse_metadata accepted
  refine bind_ok.mpr ⟨_, rfl, bind_ok.mpr ⟨_, rfl, ?_⟩⟩
  change orInvalid _ (X.parseObjectMetadata (X.objectMetadataToDict metadata)) = _
  rw [parsed]
  rfl

/-- What an Object put tells, and what it has changed. -/
def ObjectPut (X : Platform) (faults : Prop) (request : ObjectRequest) (t u : World) :
    Except PyError ObjectMetadata → Prop
  | .ok metadata => ∃ content, X.checkMetadata (request.metadata X) = .ok () ∧
      IsIntact X request.digest request.byteLength content ∧
      t.object? request.objectId = none ∧ metadata = (request.stored X content).metadata ∧
      u = t.setObject request.objectId (request.stored X content)
  | .error error => faults ∨ u = t ∧ (t.object? request.objectId ≠ none ∧
      error.isObjectConflict = true ∨
      ¬IsReplayable X t request.payload request.digest request.byteLength ∨
      X.checkMetadata (request.metadata X) = .error error)

theorem run_putObject (request : ObjectRequest) :
    (ObjectRepository.put request.objectId request.payload request.mediaType request.digest
      request.byteLength request.userMetadata request.creationContext request.provenance :
      PyM X _).run = .call (Call.object request.call) fun reply => .done (reply >>= fun result =>
        ObjectRepository.metadataOf X result "Object put result") := by
  apply congrArg (Program.call _)
  funext reply
  cases reply <;> rfl

theorem isArtifactObject_stored {request : ObjectRequest} {content : Bytes}
    (accepted : X.checkMetadata (request.metadata X) = .ok ())
    (intact : IsIntact X request.digest request.byteLength content)
    (owned : request.userMetadata.lookup "resourceId" = some request.resourceId)
    (valid : isResourceId request.resourceId = true) :
    IsArtifactObject X request.resourceId (request.stored X content) :=
  ⟨rfl, intact, accepted, owned, valid⟩

/-- Committing a request's bytes where no Object is yet is a change of the store. -/
theorem ObjectRequest.commits (request : ObjectRequest) {content : Bytes}
    (owned : request.userMetadata.lookup "resourceId" = some request.resourceId)
    (valid : isResourceId request.resourceId = true)
    (accepted : X.checkMetadata (request.metadata X) = .ok ())
    (intact : IsIntact X request.digest request.byteLength content)
    (absent : s.object? request.objectId = none)
    (permitted : P.commits (request.stored X content)) :
    Change P s (s.setObject request.objectId (request.stored X content)) :=
  .committed absent (isArtifactObject_stored accepted intact owned valid) permitted

theorem safe_putObject {A : Type} (request : ObjectRequest)
    {next : Except PyError ObjectMetadata → Program (runtime X) A}
    {post : Postcondition (runtime X) World A}
    (owned : request.userMetadata.lookup "resourceId" = some request.resourceId)
    (valid : isResourceId request.resourceId = true)
    (permitted : ∀ content, IsIntact X request.digest request.byteLength content →
      P.commits (request.stored X content))
    (rest : ∀ t u, (following P first).invariant t → (following P first).invariant u →
      Changes P s u → ∀ event, event.before = t → event.after = u → u.tables = t.tables →
      ∀ result, ObjectPut X faults request t u result →
      (next result).Safe (following P first) (serving X faults) post (history ++ [event]) u) :
    ((ObjectRepository.put request.objectId request.payload request.mediaType request.digest
      request.byteLength request.userMetadata request.creationContext request.provenance :
      PyM X _).run.bind next).Safe (following P first) (serving X faults) post history s := by
  refine safe_call (run_putObject request) ?_
  intro t moved kept reply u answered
  have committed : ∀ content, X.checkMetadata (request.metadata X) = .ok () →
      IsIntact X request.digest request.byteLength content → t.object? request.objectId = none →
      Change P t (t.setObject request.objectId (request.stored X content)) :=
    fun content accepted intact absent =>
      request.commits owned valid accepted intact absent (permitted content intact)
  have still : ∀ event, event.before = t → event.after = t → ∀ error,
      ObjectPut X faults request t t (.error error) →
      (next (.error error)).Safe (following P first) (serving X faults) post (history ++ [event]) t :=
    fun event before after error put =>
      rest t t kept kept moved event before after rfl (.error error) put
  rcases serving_plain answered trivial with conforms | ⟨faulted, error, rfl, effect⟩
  · rcases conforms with ⟨accepted, ⟨content, resources, -, intact, absent, rfl, rfl⟩ |
      ⟨rfl, present, error, rfl, conflict⟩ | ⟨rfl, broken, error, rfl⟩⟩ | ⟨error, refused, rfl, rfl⟩
    · have step := following_step kept (committed content accepted intact absent)
      refine ⟨step.1, step.2, rest t _ kept step.1 (moved.trans step.2) _ rfl rfl rfl _ ?_⟩
      rw [metadataOf_data accepted]
      exact ⟨content, accepted, intact, absent, rfl, rfl⟩
    · exact ⟨kept, .refl, still _ rfl rfl error (Or.inr ⟨rfl, Or.inl ⟨present, conflict⟩⟩)⟩
    · exact ⟨kept, .refl, still _ rfl rfl error (Or.inr ⟨rfl, Or.inr (Or.inl broken)⟩)⟩
    · exact ⟨kept, .refl, still _ rfl rfl error (Or.inr ⟨rfl, Or.inr (Or.inr refused)⟩)⟩
  · rcases effect with rfl | ⟨other, conforms⟩
    · exact ⟨kept, .refl, still _ rfl rfl error (Or.inl faulted)⟩
    · rcases conforms with ⟨accepted, ⟨content, resources, -, intact, absent, rfl, -⟩ | ⟨rfl, -⟩ |
        ⟨rfl, -⟩⟩ | ⟨_, -, rfl, -⟩
      · have step := following_step kept (committed content accepted intact absent)
        exact ⟨step.1, step.2, rest t _ kept step.1 (moved.trans step.2) _ rfl rfl rfl (.error error)
          (Or.inl faulted)⟩
      · exact ⟨kept, .refl, still _ rfl rfl error (Or.inl faulted)⟩
      · exact ⟨kept, .refl, still _ rfl rfl error (Or.inl faulted)⟩
      · exact ⟨kept, .refl, still _ rfl rfl error (Or.inl faulted)⟩

/-- What an Object stat tells. -/
def Statted (faults : Prop) (s : World) (reference : ObjectReference) :
    Except PyError ObjectMetadata → Prop
  | .ok metadata => ∃ object, s.find? reference = some object ∧ object.metadata = metadata
  | .error error => faults ∨ s.find? reference = none ∧ isMissingObject error = true

theorem run_stat (reference : ObjectReference) :
    (ObjectRepository.stat reference : PyM X _).run =
      .call (Call.object (.stat reference)) fun reply => .done (reply >>= fun result =>
        ObjectRepository.metadataOf X result "Object stat result") := by
  apply congrArg (Program.call _)
  funext reply
  cases reply <;> rfl

theorem safe_stat {A : Type} {reference : ObjectReference}
    {next : Except PyError ObjectMetadata → Program (runtime X) A}
    {post : Postcondition (runtime X) World A}
    (rest : ∀ t, (following P first).invariant t → Changes P s t → ∀ event,
      event.before = t → event.after = t → ∀ result, Statted faults t reference result →
      (next result).Safe (following P first) (serving X faults) post (history ++ [event]) t) :
    ((ObjectRepository.stat reference : PyM X _).run.bind next).Safe (following P first)
      (serving X faults) post history s := by
  refine safe_call (run_stat reference) ?_
  intro t moved kept reply u answered
  rcases serving_plain answered trivial with ⟨rfl, conforms⟩ | ⟨faulted, error, rfl, effect⟩
  · refine ⟨kept, .refl, rest u kept moved _ rfl rfl _ ?_⟩
    cases found : u.find? reference with
    | some object =>
      rw [found] at conforms
      obtain ⟨resources, rfl⟩ := conforms
      rw [metadataOf_data (kept.1.accepted _ _ (Option.filter_eq_some_iff.mp found).1)]
      exact ⟨object, found, rfl⟩
    | none =>
      rw [found] at conforms
      obtain ⟨error, rfl, missing⟩ := conforms
      exact Or.inr ⟨found, missing⟩
  · obtain rfl : u = t := by rcases effect with same | ⟨_, same, -⟩ <;> exact same
    exact ⟨kept, .refl, rest u kept moved _ rfl rfl _ (Or.inl faulted)⟩

/-- What registering a payload tells. -/
def Registered (faults : Prop) (source : PayloadSource) (u : World) :
    Except PyError PayloadReference → Prop
  | .ok reference => u.payload? reference.token = some source
  | .error _ => faults

theorem safe_registerSource {A : Type} {source : PayloadSource} {digest : String} {length : Nat}
    {next : Except PyError PayloadReference → Program (runtime X) A}
    {post : Postcondition (runtime X) World A}
    (rest : ∀ t u, (following P first).invariant u → Changes P s u → ∀ event,
      event.before = t → event.after = u → u.tables = t.tables →
      ∀ result, Registered faults source u result →
      (next result).Safe (following P first) (serving X faults) post (history ++ [event]) u) :
    ((invoke (Call.registerPayload source digest length : Call X) : PyM X _).run.bind next).Safe
      (following P first) (serving X faults) post history s := by
  intro t moved kept reply u answered
  rcases serving_plain answered trivial with ⟨token, fresh, rfl, rfl⟩ | ⟨faulted, error, rfl, effect⟩
  · have change : Change P t (t.setPayload token source) := .registered fresh
    have step := following_step kept change
    exact ⟨step.1, step.2, rest t _ step.1 (moved.trans step.2) _ rfl rfl rfl (.ok _)
      (World.payload?_setPayload_self _ _ _)⟩
  · rcases effect with rfl | ⟨other, token, fresh, rfl, -⟩
    · exact ⟨kept, .refl, rest u u kept moved _ rfl rfl rfl (.error error) faulted⟩
    · have change : Change P t (t.setPayload token source) := .registered fresh
      have step := following_step kept change
      exact ⟨step.1, step.2, rest t _ step.1 (moved.trans step.2) _ rfl rfl rfl (.error error) faulted⟩

/-- A call that only reads, answered by a value the state does not decide. -/
theorem safe_validate {A : Type} {payload : JsonValue} {schema : PayloadSchemaRef}
    {next : Except PyError JsonValue → Program (runtime X) A}
    {post : Postcondition (runtime X) World A}
    (rest : ∀ t, (following P first).invariant t → Changes P s t → ∀ event,
      event.before = t → event.after = t → ∀ result,
      (result = X.validate payload schema.namespace schema.name schema.version ∨
        faults ∧ ∃ error, result = .error error) →
      (next result).Safe (following P first) (serving X faults) post (history ++ [event]) t) :
    ((invoke (Call.validate payload schema : Call X) : PyM X _).run.bind next).Safe
      (following P first) (serving X faults) post history s := by
  intro t moved kept reply u answered
  rcases serving_plain answered trivial with ⟨rfl, same⟩ | ⟨faulted, error, failed, effect⟩
  · exact ⟨kept, .refl, rest u kept moved _ rfl rfl reply (Or.inl same)⟩
  · obtain rfl : u = t := by rcases effect with same | ⟨_, same, -⟩ <;> exact same
    exact ⟨kept, .refl, rest u kept moved _ rfl rfl reply (Or.inr ⟨faulted, error, failed⟩)⟩

theorem safe_releaseOwned {A : Type} {registered : RegisteredPayload}
    {next : Except PyError Unit → Program (runtime X) A} {post : Postcondition (runtime X) World A}
    (kept : (following P first).invariant s)
    (rest : ∀ t, (following P first).invariant t → Changes P s t → ∀ more, Quiet more →
      ∀ result : Except PyError Unit, (faults ∨ result = .ok ()) →
      (next result).Safe (following P first) (serving X faults) post (history ++ more) t) :
    ((ArtifactPublisher.releaseOwned registered : PyM X Unit).run.bind next).Safe
      (following P first) (serving X faults) post history s := by
  unfold ArtifactPublisher.releaseOwned
  cases registered.owned with
  | false =>
    have := rest s kept .refl [] quiet_nil (.ok ()) (Or.inr rfl)
    rw [List.append_nil] at this
    exact this
  | true =>
    intro t moved kept reply u answered
    rcases serving_plain answered trivial with ⟨rfl, same⟩ | ⟨faulted, error, failed, effect⟩
    · exact ⟨kept, .refl, rest u kept moved _ (quiet_nil.snoc rfl) reply (Or.inr same)⟩
    · obtain rfl : u = t := by rcases effect with same | ⟨_, same, -⟩ <;> exact same
      exact ⟨kept, .refl, rest u kept moved _ (quiet_nil.snoc rfl) reply (Or.inl faulted)⟩

end ConfigArtifact
