import ConfigArtifact.Guarantees.Shapes
import ConfigArtifact.Interaction.Conclusion
import ConfigArtifact.Operations.Authority
import ConfigArtifact.Operations.Rewriting
import ConfigArtifact.Simulation

/-! What an operation has not been granted, it does not do.

The provider declares what the package needs, and each operation needs only a
part of it. Whatever the stores answer and wherever a call fails, rows and Objects
that no operation is granted to write stay as they are.
-/

set_option autoImplicit false

namespace ConfigArtifact

open Interaction Fallible MetadataRepository

variable {X : Platform} {s t u : World} {granted : Capability → Prop}

/-- The operations of the publishers and the consumers, with those that read artifacts. -/
inductive PublicOperation (X : Platform) where
  | plain (operation : Operation X)
  | stat (resource : StoredResourceV1 X)
  | read (patience : Nat) (resource : StoredResourceV1 X)
  | rangeRead (support : RangeSupport) (resource : StoredResourceV1 X) (byteRange : ByteRange)

namespace PublicOperation

abbrev Outcome : PublicOperation X → Type
  | .plain operation => operation.Outcome
  | .stat _ => ObjectMetadata
  | .read _ _ | .rangeRead _ _ _ => Bytes

abbrev Result (operation : PublicOperation X) : Type := Except PyError operation.Outcome

def program : (operation : PublicOperation X) → PyM X operation.Outcome
  | .plain operation => operation.program
  | .stat resource => ArtifactConsumer.stat resource
  | .read patience resource => ArtifactConsumer.read patience resource
  | .rangeRead support resource byteRange => ArtifactConsumer.rangeRead support resource byteRange

/-- What recording an orphan calls. -/
def reporting : List Capability := [.put .orphanCandidates, .get .orphanCandidates]

/-- What publications of either profile call. -/
def publishing : List Capability :=
  [.get .metadata, .put .metadata, .put .provenance, .transaction .metadata, .query .channels,
    .put .channels]

def storing : List Capability := publishing ++ reporting ++ [.objectPut, .objectStat]

def promoting : List Capability := [.get .metadata, .query .channels, .put .channels]

def deprecating : List Capability := [.get .metadata, .patch .metadata, .transaction .metadata]

def resolving : List Capability := [.query .channels, .get .metadata]

def scanning : Bool → List Capability
  | false => [.objectList, .get .metadata]
  | true => [.objectList, .get .metadata] ++ reporting

/-- All that an operation has to be granted. -/
def authority : PublicOperation X → List Capability
  | .plain (.serve (.publishConfiguration _)) => publishing
  | .plain (.serve (.publishArtifact _)) => storing
  | .plain (.serve (.promote _ _ _ _ _)) => promoting
  | .plain (.serve (.deprecate _ _)) => deprecating
  | .plain (.serve (.consumerChannel _ _ _ _ _)) => resolving
  | .plain (.serve (.discoverOrphans _ _ record)) => scanning record
  | .plain (.exact _ _) => [.get .metadata]
  | .plain (.latest _ _ _ _) | .plain (.listResources _ _ _ _ _ _ _) => [.query .metadata]
  | .plain (.listOrphans _ _ _) => [.query .orphanCandidates]
  | .plain (.getOrphan _ _) => [.get .orphanCandidates]
  | .stat _ => [.objectStat]
  | .read _ _ => [.objectGet]
  | .rangeRead _ _ _ => [.objectReadRange]

end PublicOperation

theorem mayPublish_publishing : MayPublish (· ∈ PublicOperation.publishing) := by
  constructor <;> decide

theorem mayStore_storing : MayStore (· ∈ PublicOperation.storing) where
  get := by decide
  put := by decide
  mirror := by decide
  begins := by decide
  query := by decide
  point := by decide
  store := by decide
  stat := by decide
  report := by decide
  reported := by decide

/-- A request calls nothing that it has not been granted. -/
theorem Request.needs_authority (request : Request X) :
    Needs request.program (· ∈ (PublicOperation.plain (.serve request)).authority) := by
  cases request with
  | publishConfiguration request => exact needs_publishConfiguration request mayPublish_publishing
  | publishArtifact request => exact needs_publishArtifact request mayStore_storing
  | promote target channel expected actor profile =>
    have may : Capability.get .metadata ∈ PublicOperation.promoting ∧
      .query .channels ∈ PublicOperation.promoting ∧ .put .channels ∈ PublicOperation.promoting := by
        decide
    exact needs_promoteSelected (needs_selectTarget _ may.1) _ _ _ _ may.2.1 may.2.2
  | «deprecate» profile identity =>
    have may : Capability.get .metadata ∈ PublicOperation.deprecating ∧
      .patch .metadata ∈ PublicOperation.deprecating ∧
      .transaction .metadata ∈ PublicOperation.deprecating := by decide
    rw [Request.program_deprecate]
    exact needs_deprecateWith _ _ may.1 may.2.1 may.2.2
  | consumerChannel profile «namespace» kind name channel =>
    have may : Capability.query .channels ∈ PublicOperation.resolving ∧
      .get .metadata ∈ PublicOperation.resolving := by decide
    rw [Request.program_channel]
    exact needs_resolveChannel _ _ _ _ _ may.1 may.2
  | discoverOrphans limit cursor record =>
    have may : Capability.objectList ∈ PublicOperation.scanning record ∧
      .get .metadata ∈ PublicOperation.scanning record := by
        cases record <;> decide
    have recording : Capability.put .orphanCandidates ∈ PublicOperation.scanning true ∧
      .get .orphanCandidates ∈ PublicOperation.scanning true := by decide
    refine needs_discoverOrphans _ _ _ may.1 may.2 fun records => ?_
    subst records
    exact recording

theorem PublicOperation.needs_authority (operation : PublicOperation X) :
    Needs operation.program (· ∈ operation.authority) := by
  cases operation with
  | plain operation =>
    cases operation with
    | serve request => exact request.needs_authority
    | exact profile identity =>
      have exact : ∀ require : StoredResourceV1 X → Except PyError Unit, Needs (do
          let resource ← requiredResource X (identity.resourceId X)
          settle (require resource)
          return { resource } : PyM X (ResolvedResource X)) (· ∈ [Capability.get .metadata]) := fun _ =>
        uses_bind (needs_requiredResource _ (List.mem_singleton_self _)) fun _ =>
          uses_settle_bind fun _ _ => trivial
      cases profile
      · exact exact ConfigurationConsumer.requireConfiguration
      · exact exact requireArtifact
    | latest profile «namespace» kind name =>
      have latest : ∀ (text : Option String) (require : StoredResourceV1 X → Except PyError Unit),
          Needs (do
            let resource ← StructuredM.lift (latestResource X «namespace» kind name text)
            settle (require resource)
            return { resource } : PyM X (ResolvedResource X)) (· ∈ [Capability.query .metadata]) :=
        fun _ _ => uses_bind (needs_lift (uses_latestResource _ _ _ _ (List.mem_singleton_self _)))
          fun _ => uses_settle_bind fun _ _ => trivial
      cases profile
      · exact latest _ ConfigurationConsumer.requireConfiguration
      · exact latest _ requireArtifact
    | listResources «namespace» kind name profile state limit cursor =>
      exact needs_lift (uses_listResources _ _ _ _ _ _ _ (List.mem_singleton_self _))
    | listOrphans state limit cursor =>
      exact needs_lift (uses_execute (List.mem_singleton_self _) fun _ => trivial)
    | getOrphan candidateId required =>
      exact needs_lift (uses_attempt_execute (List.mem_singleton_self _) fun _ => trivial)
  | stat resource => exact needs_stat resource (List.mem_singleton_self _)
  | read patience resource => exact needs_open patience resource _ (List.mem_singleton_self _)
  | rangeRead support resource byteRange =>
    exact needs_rangeRead support resource byteRange (List.mem_singleton_self _)

theorem PublicOperation.isDeclared {operation : PublicOperation X} {capability : Capability}
    (needed : capability ∈ operation.authority) : capability.isDeclared = true := by
  have declared : ∀ capability ∈ publishing ++ storing ++ promoting ++ deprecating ++ resolving ++
      scanning false ++ scanning true ++ [.get .metadata, .query .metadata, .query .orphanCandidates,
        .get .orphanCandidates, .objectStat, .objectGet, .objectReadRange],
      capability.isDeclared = true := by decide
  apply declared
  simp only [List.mem_append]
  cases operation with
  | plain operation =>
    cases operation with
    | serve request =>
      cases request with
      | discoverOrphans limit cursor record => cases record <;> simp_all [authority]
      | _ => simp_all [authority]
    | _ => simp_all [authority]
  | _ => simp_all [authority]

/-- What is not granted has not been done. -/
structure Frames (granted : Capability → Prop) (s t : World) : Prop where
  rows : ∀ collection, ¬granted (.put collection) → ¬granted (.patch collection) →
    ∀ key, t.row? collection key = s.row? collection key
  objects : ¬granted .objectPut → ∀ objectId, t.object? objectId = s.object? objectId

namespace Frames

theorem refl (granted : Capability → Prop) (s : World) : Frames granted s s :=
  ⟨fun _ _ _ _ => rfl, fun _ _ => rfl⟩

theorem trans (one : Frames granted s t) (two : Frames granted t u) : Frames granted s u where
  rows := fun collection inserts patches key =>
    (two.rows collection inserts patches key).trans (one.rows collection inserts patches key)
  objects := fun commits objectId => (two.objects commits objectId).trans (one.objects commits objectId)

theorem mono {wider : Capability → Prop} (frames : Frames granted s t)
    (covers : ∀ capability, granted capability → wider capability) : Frames wider s t where
  rows := fun collection inserts patches => frames.rows collection (fun grants => inserts (covers _ grants))
    fun grants => patches (covers _ grants)
  objects := fun commits => frames.objects fun grants => commits (covers _ grants)

/-- A row is only written by a call that may write to its collection. -/
theorem setRow {collection : Collection} {key : String} {row : Row}
    (writes : granted (.put collection) ∨ granted (.patch collection)) :
    Frames granted s (s.setRow collection key row) where
  rows := by
    intro other inserts patches key'
    rw [World.row?_setRow, if_neg]
    rintro ⟨rfl, -⟩
    exact writes.elim inserts patches
  objects := fun _ _ => rfl

end Frames

theorem frames_conforming {call : StructuredCall} {reply : Except PyError OperationResult}
    (isGranted : call.IsGranted granted) (answered : conforming X call s reply t) :
    Frames granted s t := by
  cases call with
  | get collection filter =>
    obtain ⟨rfl, -⟩ := answered
    exact .refl _ _
  | query collection filter orderBy limit cursor =>
    obtain ⟨rfl, -⟩ := answered
    exact .refl _ _
  | put collection data =>
    obtain ⟨key, -, inserted⟩ := answered
    split at inserted
    · obtain ⟨rfl, -⟩ := inserted
      exact .refl _ _
    · obtain ⟨version, -, rfl, -⟩ := inserted
      exact .setRow (.inl isGranted)
  | patch collection filter changes expected =>
    obtain ⟨key, -, patched⟩ := answered
    split at patched
    · obtain ⟨rfl, -⟩ := patched
      exact .refl _ _
    · split at patched
      · obtain ⟨version, data, -, -, rfl, -, -⟩ := patched
        exact .setRow (.inr isGranted)
      · obtain ⟨rfl, -⟩ := patched
        exact .refl _ _

theorem frames_structured {call : StructuredCall} (reply : Except PyError OperationResult)
    (isGranted : call.IsGranted granted) (answered : (conforming X).unreliable call s reply t) :
    Frames granted s t := by
  rcases answered with rfl | ⟨other, conforms⟩
  · exact .refl _ _
  · exact frames_conforming isGranted conforms

theorem frames_conformingObjects {call : ObjectCall} {reply : Except PyError OperationResult}
    (isGranted : granted call.capability) (answered : conformingObjects X call s reply t) :
    Frames granted s t := by
  refine ⟨fun collection _ _ => conformingObjects_rows answered collection, fun commits => ?_⟩
  cases call with
  | put objectId payload mediaType digest length userMetadata creationContext provenance =>
    exact absurd isGranted commits
  | stat reference =>
    obtain ⟨rfl, -⟩ := answered
    exact fun _ => rfl
  | get reference =>
    unfold conformingObjects at answered
    dsimp only at answered
    split at answered
    · obtain ⟨token, resources, -, rfl, -⟩ := answered
      exact fun _ => rfl
    · obtain ⟨rfl, -⟩ := answered
      exact fun _ => rfl
  | readRange reference range =>
    rcases answered with rfl | ⟨token, source, -, rfl⟩ <;> exact fun _ => rfl
  | list start limit cursor =>
    obtain ⟨rfl, -⟩ := answered
    exact fun _ => rfl

/-- One call, whatever becomes of it and whatever it is answered. -/
theorem frames_untrusted {call : Call X} (reply : Except PyError call.Result)
    (isGranted : call.IsGranted granted) (answered : untrusted X call s reply t) :
    Frames granted s t := by
  rcases answered with rfl | ⟨other, effect⟩
  · exact .refl _ _
  cases call with
  | structured call => exact frames_structured other isGranted effect
  | transaction body =>
    obtain ⟨state, runs, ended⟩ := effect
    have frames : Frames granted s state :=
      Program.Runs.relates (Frames.refl granted) Frames.trans
        (fun call t reply u permitted answer => frames_structured reply permitted answer)
        isGranted.2 runs
    cases other with
    | ok value =>
      obtain rfl : t = state := ended
      exact frames
    | error error =>
      obtain rfl : t = s := ended
      exact .refl _ _
  | object call =>
    rcases effect with rfl | ⟨another, conforms⟩
    · exact .refl _ _
    · exact frames_conformingObjects isGranted conforms
  | registerPayload source digest length =>
    obtain ⟨token, -, rfl, -⟩ := effect
    exact ⟨fun _ _ _ _ => rfl, fun _ _ => rfl⟩
  | clock | utcNow | validate payload schema | openPayload payload | releasePayload payload =>
    obtain ⟨rfl, -⟩ := effect
    exact .refl _ _

/-- Clients of all that the package exposes. -/
def exposed (env : Environment (runtime X) World) (admits : World → PublicOperation X → Prop) :
    Service (runtime X) World (PublicOperation X) PublicOperation.Result where
  env := env
  body := fun operation => operation.program.run
  admits := admits

section

variable {ι : Type} [DecidableEq ι] {admits : World → PublicOperation X → Prop} {first : World}
  {pool : Pool (runtime X) World (PublicOperation X) PublicOperation.Result ι}

theorem issued_of_exposed {env : Environment (runtime X) World}
    (reachable : Pool.Reachable (exposed env admits) first pool) {i : ι}
    {operation : PublicOperation X} {program : Program (runtime X) operation.Result}
    (serves : pool.threads i = some ⟨operation, program⟩) :
    ∀ event ∈ pool.history i, event.request.IsGranted (· ∈ operation.authority) :=
  Pool.issued_of_reachable reachable serves operation.needs_authority

theorem frames_of_reachable (reachable : Pool.Reachable (exposed (untrusted X) admits) first pool) :
    Frames (fun capability => ∃ s operation, admits s operation ∧ capability ∈ operation.authority)
      first pool.state := by
  induction reachable with
  | refl => exact .refl _ _
  | @tail before _ earlier step ih =>
    have reached := Relation.ReflTransGen.tail earlier step
    cases step with
    | start idle admitted => exact ih
    | @run i operation call resume reply after running answered =>
      let event : Event (runtime X) World := ⟨before.state, call, reply, after⟩
      have called : event ∈ (before.advance i operation (resume reply) event).history i := by
        rw [Pool.advance_history, if_pos rfl]
        exact List.mem_append_right _ (List.mem_singleton_self _)
      have serves : (before.advance i operation (resume reply) event).threads i =
          some ⟨operation, resume reply⟩ := by
        rw [Pool.advance_threads, if_pos rfl]
      have isGranted := issued_of_exposed reached serves event called
      obtain ⟨s, admitted⟩ := Pool.admitted_of_reachable earlier i _ _ running
      exact ih.trans ((frames_untrusted reply isGranted answered).mono fun capability needed =>
        ⟨s, operation, admitted, needed⟩)

/-- Clients only call what their operations are granted, of which the provider has declared
everything, and leave alone what none of them is granted to write, whatever they are answered. -/
theorem effects_authorized (reachable : Pool.Reachable (exposed (untrusted X) admits) first pool) :
    (∀ i operation program, pool.threads i = some ⟨operation, program⟩ →
      ∀ event ∈ pool.history i, event.request.IsGranted (· ∈ operation.authority)) ∧
    (∀ (operation : PublicOperation X), ∀ capability ∈ operation.authority,
      capability.isDeclared = true) ∧
    Frames (fun capability => ∃ s operation, admits s operation ∧ capability ∈ operation.authority)
      first pool.state :=
  ⟨fun _ _ _ serves => issued_of_exposed reachable serves,
    fun _ _ => PublicOperation.isDeclared, frames_of_reachable reachable⟩

end

namespace Reference

def lookup : PublicOperation Platform.reference := .plain (.exact .configuration identity)

/-- The one call of the lookup fails. -/
def failedLookup : Event (runtime Platform.reference) World where
  before := World.empty
  request := .structured (.get .metadata [("resourceId", .str (identity.resourceId Platform.reference))])
  reply := .error (.runtimeError "unavailable")
  after := World.empty

end Reference

/-- A lookup that fails has called what it is granted, and changed nothing. -/
theorem effects_authorized_lookup :
    ∃ pool : Pool (runtime Platform.reference) World (PublicOperation Platform.reference)
        PublicOperation.Result Unit, Reference.failedLookup ∈ pool.history () ∧
      Reference.failedLookup.request.IsGranted (· ∈ Reference.lookup.authority) ∧
      Frames (· ∈ Reference.lookup.authority) World.empty pool.state := by
  let admits : World → PublicOperation Platform.reference → Prop :=
    fun _ operation => operation = Reference.lookup
  obtain ⟨resume, calls⟩ : ∃ resume, Reference.lookup.program.run =
    .call Reference.failedLookup.request resume := ⟨_, rfl⟩
  let started : Pool (runtime Platform.reference) World (PublicOperation Platform.reference)
      PublicOperation.Result Unit :=
    (Pool.initial World.empty).launch () Reference.lookup Reference.lookup.program.run
  have starts : Pool.Step (exposed (untrusted Platform.reference) admits) (Pool.initial World.empty)
      started := .start rfl rfl
  have selected : started.threads () =
      some ⟨Reference.lookup, .call Reference.failedLookup.request resume⟩ := by
    rw [Pool.launch_threads, if_pos rfl, calls]
  let failed := started.advance () Reference.lookup (resume Reference.failedLookup.reply)
    Reference.failedLookup
  have fails : Pool.Step (exposed (untrusted Platform.reference) admits) started failed :=
    .run selected (.inl rfl)
  have called : Reference.failedLookup ∈ failed.history () := by
    rw [Pool.advance_history, if_pos rfl]
    exact List.mem_append_right _ (List.mem_singleton_self _)
  obtain ⟨issued, -, frames⟩ := effects_authorized ((Relation.ReflTransGen.single starts).tail fails)
  refine ⟨failed, called, ?_, ?_⟩
  · exact issued () _ _ (by rw [Pool.advance_threads, if_pos rfl]) _ called
  · refine frames.mono ?_
    rintro capability ⟨_, operation, rfl, needed⟩
    exact needed

end ConfigArtifact
