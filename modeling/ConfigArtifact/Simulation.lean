import ConfigArtifact.Operations.Footprint
import ConfigArtifact.Reference

/-! Deployments run by a schedule. -/

set_option autoImplicit false

namespace ConfigArtifact

open Interaction

variable {X : Platform} {ι : Type} [DecidableEq ι]

/-- Clients of a deployment that admits every request. -/
abbrev anyRequest : World → Request X → Prop := fun _ _ => True

/-- The clients after the turns of a schedule, where all payloads yield the same bytes. -/
def simulate (X : Platform) (content : Bytes) (schedule : List (Turn ι (Request X))) (world : World) :
    Clients X ι :=
  (Pool.initial world).play (deployment (reliable X) anyRequest) (answer X (.constant content)) schedule

theorem simulate_append {content : Bytes} (before after : List (Turn ι (Request X))) (world : World) :
    simulate X content (before ++ after) world =
      (simulate X content before world).play (deployment (reliable X) anyRequest)
        (answer X (.constant content)) after :=
  List.foldl_append

/-- The requests of a schedule register payloads of these bytes only. -/
def Registering (content : Bytes) (schedule : List (Turn ι (Request X))) : Prop :=
  ∀ request ∈ Pool.starts schedule, request.Registers fun source => source = .ofBytes content

omit [DecidableEq ι] in
theorem Registering.serviceable {content : Bytes} {schedule : List (Turn ι (Request X))}
    (registering : Registering content schedule) : ∀ request ∈ Pool.starts schedule,
      Pool.Serviceable (deployment (reliable X) anyRequest) (Call.Carries content) request :=
  fun request member => ⟨fun _ => trivial, (Request.uses_program (registering request member)).mono
    fun _ issued => issued.carries⟩

/-- What a schedule simulates is reached by a deployment without faults that admits its
requests. -/
theorem simulate_admitted {content : Bytes} {schedule : List (Turn ι (Request X))} {world : World}
    {admits : World → Request X → Prop} (uniform : IsUniform content world)
    (registering : Registering content schedule)
    (admitted : ∀ request ∈ Pool.starts schedule, ∀ s, admits s request) :
    Pool.Reachable (deployment (reliable X) admits) world (simulate X content schedule world) :=
  (@Pool.play_steps _ _ _ _ _ _ (deployment (reliable X) admits) _ _ _ _ (answer_constant content) schedule
    (Pool.uses_initial world) uniform fun request member =>
      ⟨admitted request member, (registering.serviceable request member).2⟩).1

theorem simulate_reachable {content : Bytes} {schedule : List (Turn ι (Request X))} {world : World}
    (uniform : IsUniform content world) (registering : Registering content schedule) :
    Pool.Reachable (deployment (reliable X) anyRequest) world (simulate X content schedule world) :=
  simulate_admitted uniform registering fun _ _ _ => trivial

/-- A simulation goes on from where a shorter one ended. -/
theorem simulate_steps {content : Bytes} {before after : List (Turn ι (Request X))} {world : World}
    (uniform : IsUniform content world) (registering : Registering content before)
    (continued : Registering content after) :
    Pool.Steps (deployment (reliable X) anyRequest) (simulate X content before world)
      (simulate X content (before ++ after) world) := by
  obtain ⟨-, uses, kept⟩ := Pool.play_steps (answer_constant content) before
    (Pool.uses_initial world) uniform registering.serviceable
  rw [simulate_append]
  exact (Pool.play_steps (answer_constant content) after uses kept continued.serviceable).1

/-- Every client of a deployment without faults can be served to its end. -/
theorem deployment_finishes {first : World} {admits : World → Request X → Prop} {pool : Clients X ι}
    (reachable : Pool.Reachable (deployment (reliable X) admits) first pool) {i : ι}
    {request : Request X} {program : Program (runtime X) request.Result}
    (selected : pool.threads i = some ⟨request, program⟩) :
    ∃ next value, Pool.Steps (deployment (reliable X) admits) pool next ∧
      next.Finished i request value := by
  have bodies : ∀ request : Request X,
      ((deployment (reliable X) admits).body request).Uses Call.IsAnswerable := fun request =>
    (request.uses_program (registers_any request)).mono fun _ issued => issued.answerable
  have uses := ((Pool.uses_initial first).steps reachable bodies) i request program selected
  have conform : (answer X Delivery.any).Conform (deployment (reliable X) admits).env
    Call.IsAnswerable fun _ => True := answer_any
  obtain ⟨next, value, steps, finished, -⟩ := Pool.finishes conform selected uses trivial
  exact ⟨next, value, steps, finished⟩

/-- The client returns when it is served. -/
def returned (request : Request X) (result : request.Result) : Bool := result.isOk

/-- The client raises when it is served. -/
def raised (request : Request X) (result : request.Result) : Bool := !result.isOk

omit [DecidableEq ι] in
theorem ok_of_returned {pool : Clients X ι} {i : ι} {request : Request X}
    (serves : pool.request? i = some request) (ended : pool.ends i returned = true) :
    ∃ value, pool.Finished i request (.ok value) := by
  obtain ⟨result, finished, passed⟩ := Pool.finished_of_ends serves ended
  cases result with
  | ok value => exact ⟨value, finished⟩
  | error error => cases passed

omit [DecidableEq ι] in
theorem error_of_raised {pool : Clients X ι} {i : ι} {request : Request X}
    (serves : pool.request? i = some request) (ended : pool.ends i raised = true) :
    ∃ error, pool.Finished i request (.error error) := by
  obtain ⟨result, finished, passed⟩ := Pool.finished_of_ends serves ended
  cases result with
  | ok value => cases passed
  | error error => exact ⟨error, finished⟩

theorem simulate_request {content : Bytes} (before after : List (Turn ι (Request X))) {world : World}
    {i : ι} {request : Request X}
    (serves : (simulate X content before world).request? i = some request) :
    (simulate X content (before ++ after) world).request? i = some request := by
  rw [simulate_append]
  exact Pool.play_request serves after

namespace Reference

def identity : ResourceIdentity where
  «namespace» := "team"
  kind := "feature"
  name := "flags"
  version := "1"
  namespace_valid := by constructor <;> decide
  kind_valid := by constructor <;> decide
  name_valid := by constructor <;> decide
  version_valid := by decide

/-- A configuration with an empty payload. -/
def configuration : ConfigurationRequest Platform.reference where
  «namespace» := .str "team"
  kind := .str "feature"
  name := .str "flags"
  version := .str "1"
  payload := .object []
  schema := .value (.str "team.flags@1")
  actor := .str "alice"

/-- An artifact of the same identity. -/
def artifact : ArtifactRequest Platform.reference where
  «namespace» := .str "team"
  kind := .str "feature"
  name := .str "flags"
  version := .str "1"
  payload := .bytes emptyObject
  actor := .str "alice"

theorem isBounded_version : isBounded "1" 128 = true := by decide

def schema : PayloadSchemaRef where
  «namespace» := "team"
  name := "flags"
  version := "1"
  namespace_valid := by constructor <;> decide
  name_valid := by constructor <;> decide
  version_valid := isBounded_version

/-- What publishing the configuration stores. -/
def resource : StoredResourceV1 Platform.reference where
  identity := identity
  profile := .configuration
  state := .published
  mediaType := "application/json"
  digest := "sha256:44136fa355b3678a1146ad16f7e8649e94fb4fc21fe77e8310c060f61caaff8a"
  byteLength := 2
  createdBy := "alice"
  createdAt := "2026-01-01T00:00:00.000000Z"
  objectRef := none
  payload := some []
  payloadSchema := some schema
  labels := []
  annotations := []
  provenance := none
  supersedes := none
  immutable := true
  versionOrder := none
  recordVersion := some (.number 1)
  valid := {
    mediaType := by decide
    digest := by decide
    createdBy := by decide
    createdAt := by decide
    labels := ⟨by decide, by decide, by decide⟩
    annotations := by decide
    supersedes := by decide
    immutable_iff := by decide
    content := ⟨rfl, rfl, [], emptyObject, rfl, by decide, by decide, by decide, by decide⟩ }

/-- A promotion of the configuration to a channel that no one has promoted to. -/
def promotion : Request Platform.reference :=
  .promote (.resource resource) (.str "stable") (.int 0) (.str "bob") none

/-- A world that holds one resource. -/
def holding (resource : StoredResourceV1 Platform.reference) : World :=
  World.empty.setRow .metadata resource.resourceId ⟨resource.toRecord, .number 1⟩

theorem stores_holding {resource : StoredResourceV1 Platform.reference}
    (version : resource.recordVersion = some (.number 1)) : Stores (holding resource) resource :=
  ⟨_, World.row?_setRow_self _ _ _ _, rfl, version⟩

theorem consistent_holding : Consistent Platform.reference (holding resource) := by
  have published : Change (Policy.unrestricted Platform.reference) World.empty
      (World.empty.publish resource (.number 1) (.number 1)) :=
    .published rfl rfl rfl (fun artifact => by cases artifact) trivial
  exact published.consistent (fresh_empty Platform.reference).consistent

/-- Two resources, the second one written after the first. -/
def holdingBoth (first next : StoredResourceV1 Platform.reference) : World :=
  (holding first).setRow .metadata next.resourceId ⟨next.toRecord, .number 1⟩

section

variable {first next : StoredResourceV1 Platform.reference}
  (versioned : first.recordVersion = some (.number 1))
  (nextVersioned : next.recordVersion = some (.number 1))

include versioned nextVersioned

theorem holdingBoth_rows {key : String} {row : Row}
    (found : (holdingBoth first next).row? .metadata key = some row) :
    key = next.resourceId ∧ row.Holds next ∨ key = first.resourceId ∧ row.Holds first := by
  unfold holdingBoth holding at found
  rw [World.row?_setRow] at found
  split at found
  · next here =>
    cases found
    exact Or.inl ⟨here.2, rfl, nextVersioned⟩
  · rw [World.row?_setRow] at found
    split at found
    · next here =>
      cases found
      exact Or.inr ⟨here.2, rfl, versioned⟩
    · cases found

theorem stores_holdingBoth (apart : first.resourceId ≠ next.resourceId) :
    Stores (holdingBoth first next) first ∧ Stores (holdingBoth first next) next := by
  constructor
  · refine ⟨⟨first.toRecord, .number 1⟩, ?_, rfl, versioned⟩
    rw [holdingBoth, World.row?_setRow, if_neg (fun here => apart here.2), holding,
      World.row?_setRow_self]
  · exact ⟨⟨next.toRecord, .number 1⟩, World.row?_setRow_self _ _ _ _, rfl, nextVersioned⟩

end

/-- The second version of the configuration, published at the same instant. -/
def second : StoredResourceV1 Platform.reference :=
  { resource with
    identity := { identity with version := "2", version_valid := by decide }
    valid := { resource.valid with } }

/-- The second version, with an order of its own. -/
def newer : StoredResourceV1 Platform.reference :=
  { second with versionOrder := some 2, valid := { second.valid with } }

theorem resourceId_second : resource.resourceId ≠ second.resourceId := by decide +kernel

theorem plan_configuration : ConfigurationPublisher.plan configuration =
    .ok (ConfigurationPublisher.candidateArguments configuration identity schema "application/json"
      [] [] emptyObject) := by
  refine bind_ok.mpr ⟨identity, by decide +kernel, bind_ok.mpr ⟨schema, by decide +kernel, ?_⟩⟩
  refine bind_ok.mpr ⟨.object [], rfl, bind_ok.mpr ⟨[], by decide +kernel, ?_⟩⟩
  refine bind_ok.mpr ⟨emptyObject, by decide +kernel, ?_⟩
  exact bind_ok.mpr ⟨_, by decide +kernel, bind_ok.mpr ⟨[], by decide +kernel, rfl⟩⟩

theorem isCandidate_configuration :
    ConfigurationPublisher.IsCandidate configuration (resource.withVersion none) :=
  ⟨_, referenceTime, "2026-01-01T00:00:00.000000Z", plan_configuration, by decide +kernel,
    StoredResourceV1.create_iff.mpr (by decide +kernel)⟩

end Reference

end ConfigArtifact
