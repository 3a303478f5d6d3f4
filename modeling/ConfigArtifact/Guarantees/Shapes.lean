import ConfigArtifact.Operations.Footprint
import ConfigArtifact.Simulation

/-! Both shapes of structured results mean the same.

Of two stores in one state, one answers with bare logical records and the other
wraps each record in a Record envelope. Clients of either do the same: the same
calls with the same effects, the same errors, the same results.
-/

set_option autoImplicit false

namespace ConfigArtifact

open Interaction Fallible MetadataRepository

variable {X : Platform} {reports : Mapping → Prop}

/-- A store whose every answer carries bare logical records, or none. -/
def AnswersBare (X : Platform) (records : Environment structured World) : Prop :=
  ∀ call s bare t, records call s bare t → ∃ wrapped, Wraps X call bare wrapped

/-- The store in the same state that wraps each record in a Record envelope. -/
def inEnvelopes (X : Platform) (records : Environment structured World) :
    Environment structured World :=
  fun call s wrapped t => ∃ bare, records call s bare t ∧ Wraps X call bare wrapped

/-- The runtime over a structured store; if faults may happen, any call may also fail without
effect, or take effect and then report an error. -/
def overStore (X : Platform) (records : Environment structured World)
    (objects : Environment objectCatalog World) (faults : Prop) : Environment (runtime X) World :=
  fun request s reply t => deployed X records objects request s reply t ∨
    faults ∧ (deployed X records objects).interrupted request s reply t

theorem Call.Alike.error (request : Call X) (error : PyError) :
    Call.Alike request (.error error) (.error error) := by
  cases request <;> rfl

section

variable {records other : Environment structured World} {objects : Environment objectCatalog World}
  {sources : PayloadSource → Prop} {form : Likeness structured} {alike : Likeness (runtime X)}

/-- A deployment restates another if its structured store does. -/
theorem restates_deployed (restates : Restates records other (StructuredCall.IsIssued reports) form)
    (blind : ∀ body : Program structured (Except PyError (StoredResourceV1 X)),
      body.Blind (StructuredCall.IsIssued reports) (Wraps X) →
        body.Blind (StructuredCall.IsIssued reports) form)
    (calls : ∀ call first second, form call first second → alike (.structured call) first second)
    (refl : ∀ request : Call X, (∀ call, request ≠ .structured call) → ∀ reply,
      alike request reply reply) :
    Restates (deployed X records objects) (deployed X other objects) (Call.IsUniform sources reports)
      alike := by
  intro request uniform s first t answered
  cases request with
  | structured call =>
    obtain ⟨second, answered, same⟩ := restates call uniform s first t answered
    exact ⟨second, answered, calls call first second same⟩
  | transaction body =>
    obtain ⟨state, runs, ended⟩ := answered
    exact ⟨first, ⟨state, (blind body uniform).runs restates runs, ended⟩, refl _ (by simp) first⟩
  | object call => exact ⟨first, answered, refl _ (by simp) first⟩
  | clock => exact ⟨first, answered, refl _ (by simp) first⟩
  | utcNow => exact ⟨first, answered, refl _ (by simp) first⟩
  | validate payload schema => exact ⟨first, answered, refl _ (by simp) first⟩
  | registerPayload source digest length => exact ⟨first, answered, refl _ (by simp) first⟩
  | openPayload payload => exact ⟨first, answered, refl _ (by simp) first⟩
  | releasePayload payload => exact ⟨first, answered, refl _ (by simp) first⟩

theorem Call.Alike.refl {request : Call X} (plain : ∀ call, request ≠ .structured call)
    (reply : Except PyError request.Result) : Call.Alike request reply reply := by
  cases request with
  | structured call => exact absurd rfl (plain call)
  | _ => rfl

theorem restates_over {faults : Prop}
    (restates : Restates (deployed X records objects) (deployed X other objects)
      (Call.IsUniform sources reports) alike)
    (errors : ∀ request error, alike request (.error error) (.error error)) :
    Restates (overStore X records objects faults) (overStore X other objects faults)
      (Call.IsUniform sources reports) alike := by
  intro request uniform s first t answered
  rcases answered with answered | ⟨faulted, answered⟩
  · obtain ⟨second, answered, same⟩ := restates request uniform s first t answered
    exact ⟨second, .inl answered, same⟩
  · obtain ⟨second, answered, same⟩ :=
      restates_interrupted restates errors request uniform s first t answered
    exact ⟨second, .inr ⟨faulted, answered⟩, same⟩

end

/-- What a client may ask for, reads included. -/
inductive Operation (X : Platform) where
  | serve (request : Request X)
  | exact (profile : ResourceProfile) (identity : ResourceIdentity)
  | latest (profile : ResourceProfile) («namespace» kind name : String)
  | listResources («namespace» kind name profile : Option String) (state : Option ResourceState)
      (limit : Int) (cursor : Option String)
  | listOrphans (state : Option OrphanState) (limit : Int) (cursor : Option String)
  | getOrphan (candidateId : String) (required : Bool)

namespace Operation

abbrev Outcome : Operation X → Type
  | .serve request => request.Outcome
  | .exact .. => ResolvedResource X
  | .latest .. => ResolvedResource X
  | .listResources .. => ResourcePage X
  | .listOrphans .. => OrphanPage X
  | .getOrphan .. => Option (OrphanCandidateV1 X)

abbrev Result (operation : Operation X) : Type := Except PyError operation.Outcome

/-- The program that serves an operation. -/
def program : (operation : Operation X) → PyM X operation.Outcome
  | .serve request => request.program
  | .exact .configuration identity => ConfigurationConsumer.exact identity
  | .exact .artifact identity => ArtifactConsumer.exact identity
  | .latest .configuration «namespace» kind name => ConfigurationConsumer.latest «namespace» kind name
  | .latest .artifact «namespace» kind name => ArtifactConsumer.latest «namespace» kind name
  | .listResources «namespace» kind name profile state limit cursor =>
    StructuredM.lift (MetadataRepository.listResources X «namespace» kind name profile state limit
      cursor)
  | .listOrphans state limit cursor =>
    StructuredM.lift (MetadataRepository.listOrphans X state limit cursor)
  | .getOrphan candidateId required =>
    StructuredM.lift (MetadataRepository.getOrphan X candidateId required)

end Operation

theorem blind_listResources («namespace» kind name profile : Option String)
    (state : Option ResourceState) (limit : Int) (cursor : Option String) :
    (listResources X «namespace» kind name profile state limit cursor).run.Blind
      (StructuredCall.IsIssued reports) (Wraps X) := by
  refine blind_execute trivial fun _ _ => query_wraps "structured resource query result"
    (fun items next => do
      let resources ← items.mapM (pageItem (parseResource X) "resource page item")
      .ok (⟨resources, next⟩ : ResourcePage X)) ?_
  intro rows envelopes wraps next
  rw [mapM_wraps ignores_resource _ wraps]

theorem blind_listOrphans (state : Option OrphanState) (limit : Int) (cursor : Option String) :
    (listOrphans X state limit cursor).run.Blind (StructuredCall.IsIssued reports) (Wraps X) := by
  refine blind_execute trivial fun _ _ => query_wraps "structured orphan query result"
    (fun items next => do
      let orphans ← items.mapM (pageItem (parseOrphan X) "orphan page item")
      .ok (⟨orphans, next⟩ : OrphanPage X)) ?_
  intro rows envelopes wraps next
  rw [mapM_wraps ignores_orphan _ wraps]

theorem blind_latestResource («namespace» kind name : String) (profile : Option String) :
    (latestResource X «namespace» kind name profile).run.Blind (StructuredCall.IsIssued reports) (Wraps X) := by
  refine blind_bind (blind_listResources _ _ _ _ _ _ _) fun page => ?_
  cases page.items <;> trivial

theorem Operation.blind_program (operation : Operation X) :
    operation.program.run.Blind (Call.IsUniform (fun _ => True) fun _ => True) Call.Alike := by
  cases operation with
  | serve request => exact Request.blind_program (registers_any request)
  | exact profile identity =>
    cases profile with
    | configuration =>
      exact blind_bind (blind_requiredResource _) fun _ => blind_settle_bind fun _ _ => trivial
    | artifact =>
      exact blind_bind (blind_requiredResource _) fun _ => blind_settle_bind fun _ _ => trivial
  | latest profile «namespace» kind name =>
    cases profile with
    | configuration =>
      exact blind_bind (blind_lift (blind_latestResource _ _ _ _)) fun _ =>
        blind_settle_bind fun _ _ => trivial
    | artifact =>
      exact blind_bind (blind_lift (blind_latestResource _ _ _ _)) fun _ =>
        blind_settle_bind fun _ _ => trivial
  | listResources «namespace» kind name profile state limit cursor =>
    exact blind_lift (blind_listResources _ _ _ _ _ _ _)
  | listOrphans state limit cursor => exact blind_lift (blind_listOrphans _ _ _)
  | getOrphan candidateId required => exact blind_lift (blind_getOrphan _ _)

/-- Clients that read and write through one runtime. -/
def clientsOf (env : Environment (runtime X) World) (admits : World → Operation X → Prop) :
    Service (runtime X) World (Operation X) Operation.Result where
  env := env
  body := fun operation => operation.program.run
  admits := admits

abbrev Readers (X : Platform) (ι : Type) :=
  Pool (runtime X) World (Operation X) Operation.Result ι

/-- The error a reply raises. -/
def errorOf {A : Type} : Except PyError A → Option PyError
  | .ok _ => none
  | .error error => some error

/-- Which client issued which call in which state, what it raised, and what state it left. -/
def trace {ι : Type} (pool : Readers X ι) : List (ι × World × Call X × Option PyError × World) :=
  pool.log.map fun entry => (entry.1, entry.2.before, entry.2.request,
    @errorOf (Call.Result entry.2.request) entry.2.reply, entry.2.after)

/-- A pool over bare records and one over envelopes are told apart by nothing but the answers. -/
theorem trace_alike {ι : Type} {alike : Likeness (runtime X)} {pool other : Readers X ι}
    (errors : ∀ (request : Call X) (first second : Except PyError request.Result),
      alike request first second → errorOf first = errorOf second)
    (same : Pool.Alike alike pool other) : trace pool = trace other := by
  unfold trace
  have logs := same.log
  generalize pool.log = first at logs
  generalize other.log = second at logs
  induction logs with
  | nil => rfl
  | @cons entry later _ _ alike _ ih =>
    obtain ⟨client, event⟩ := entry
    obtain ⟨client', event'⟩ := later
    obtain ⟨rfl, alike⟩ := alike
    cases alike with
    | intro similar =>
      rw [List.map_cons, List.map_cons, ih]
      dsimp only
      rw [errors _ _ _ similar]

theorem errorOf_alike (request : Call X) (first second : Except PyError request.Result)
    (alike : Call.Alike request first second) : errorOf first = errorOf second := by
  cases request with
  | structured call =>
    rcases Wraps.cases alike with ⟨error, rfl, rfl⟩ | ⟨_, _, _, rfl, rfl, -⟩ <;> rfl
  | _ =>
    cases alike
    rfl

/-- Whatever the clients have done over a store of bare records they may have done over the one
that wraps them, and the other way round: the same state, the same calls raising the same
errors, and the same programs left, those of the finished clients being their results. -/
theorem shapes_agree {ι : Type} [DecidableEq ι] {records : Environment structured World}
    (bare : AnswersBare X records) (objects : Environment objectCatalog World) (faults : Prop)
    (admits : World → Operation X → Prop) (first state : World)
    (threads : ι → Option (Thread (runtime X) (Operation X) Operation.Result))
    (events : List (ι × World × Call X × Option PyError × World)) :
    (∃ pool : Readers X ι,
      Pool.Reachable (clientsOf (overStore X records objects faults) admits) first pool ∧
      pool.state = state ∧ pool.threads = threads ∧ trace pool = events) ↔
    ∃ pool : Readers X ι,
      Pool.Reachable (clientsOf (overStore X (inEnvelopes X records) objects faults) admits) first
        pool ∧
      pool.state = state ∧ pool.threads = threads ∧ trace pool = events := by
  constructor
  · rintro ⟨pool, reachable, rfl, rfl, rfl⟩
    have calls : Restates records (inEnvelopes X records)
        (StructuredCall.IsIssued fun _ => True) (Wraps X) := by
      intro call _ s reply t answered
      obtain ⟨wrapped, wraps⟩ := bare call s reply t answered
      exact ⟨wrapped, ⟨reply, answered, wraps⟩, wraps⟩
    have restates := @restates_over X (fun _ => True) records (inEnvelopes X records) objects (fun _ => True)
      Call.Alike faults (restates_deployed calls (fun _ => id) (fun _ _ _ => id)
        fun _ plain reply => Call.Alike.refl plain reply) Call.Alike.error
    obtain ⟨other, steps, same⟩ := Pool.Alike.steps restates Operation.blind_program
      (Pool.alike_initial first) (fun _ _ _ selected => by cases selected) reachable
    exact ⟨other, steps, same.state, same.threads, (trace_alike errorOf_alike same).symm⟩
  · rintro ⟨pool, reachable, rfl, rfl, rfl⟩
    have calls : Restates (inEnvelopes X records) records (StructuredCall.IsIssued fun _ => True)
        (Likeness.flip (Wraps X)) := by
      -- Each answer of the wrapping store is one of the bare store, wrapped.
      rintro call _ s wrapped t ⟨reply, answered, wraps⟩
      exact ⟨reply, answered, wraps⟩
    have restates := @restates_over X (fun _ => True) (inEnvelopes X records) records objects (fun _ => True)
      (Likeness.flip Call.Alike) faults (restates_deployed calls (fun _ blind => blind.flip)
        (fun _ _ _ => id) fun _ plain reply => Call.Alike.refl plain reply) Call.Alike.error
    obtain ⟨other, steps, same⟩ := Pool.Alike.steps restates
      (fun operation => operation.blind_program.flip)
      (Pool.alike_initial first) (fun _ _ _ selected => by cases selected) reachable
    exact ⟨other, steps, same.state, same.threads, (trace_alike
      (fun request first second alike => (errorOf_alike request second first alike).symm) same).symm⟩

/-- The answers of a store that carry bare records. -/
def bareRecords (X : Platform) (records : Environment structured World) :
    Environment structured World :=
  fun call s bare t => records call s bare t ∧ ∃ wrapped, Wraps X call bare wrapped

namespace Reference

/-- All resources, ten at most. -/
def listing : Operation Platform.reference := .listResources none none none none none 10 none

def listingCall : StructuredCall :=
  .query .metadata [] [⟨"versionOrder", true⟩, ⟨"createdAt", true⟩] 10 none

def rowOf (resource : StoredResourceV1 Platform.reference) : Row := ⟨resource.toRecord, .number 1⟩

/-- A row beside its version, and nothing else. -/
def bareRow (resource : StoredResourceV1 Platform.reference) : JsonValue :=
  presented Platform.reference .metadata resource.resourceId (rowOf resource)

def envelopeOf (resource : StoredResourceV1 Platform.reference) : JsonValue :=
  .object (present Platform.reference .metadata resource.resourceId (rowOf resource)
    (.envelope "2026-01-01T00:00:00Z" "2026-01-01T00:00:00Z" true))

theorem wrapsRecord_bareRow (resource : StoredResourceV1 Platform.reference) :
    WrapsRecord Platform.reference .metadata resource.resourceId (bareRow resource)
      (envelopeOf resource) :=
  @WrapsRecord.intro _ _ _ (rowOf resource) [] _ _ _ (isPlain_resource resource)
    ⟨List.nil_sublist _, by simp⟩ ⟨rfl, rfl⟩

/-- Both versions, the one with an order first. -/
def listedReply : OperationResult := ⟨pageData [bareRow newer, bareRow resource] .null, []⟩

theorem listing_answered : bareRecords Platform.reference (conforming Platform.reference) listingCall
    (holdingBoth resource newer) (.ok listedReply) (holdingBoth resource newer) := by
  have rows : (holdingBoth resource newer).rows .metadata = [rowOf newer, rowOf resource] := by
    decide +kernel
  refine ⟨⟨rfl, [rowOf newer, rowOf resource], _, [], ?_, ?_, ?_, rfl⟩, ?_⟩
  · rw [rows]
    exact .refl _
  · exact List.pairwise_pair.mpr (by decide +kernel)
  · exact .cons ⟨newer.resourceId, by decide +kernel, presents_presented _ _ _⟩
      (.cons ⟨resource.resourceId, by decide +kernel, presents_presented _ _ _⟩ .nil)
  · refine ⟨.ok ⟨pageData [envelopeOf newer, envelopeOf resource] .null, []⟩, rfl, _, _, _, rfl, rfl, ?_⟩
    exact .cons ⟨_, wrapsRecord_bareRow newer⟩ (.cons ⟨_, wrapsRecord_bareRow resource⟩ .nil)

/-- What the listing makes of an answer. -/
def pageFrom (reply : Except PyError OperationResult) :
    Except PyError (ResourcePage Platform.reference) := do
  let result ← reply
  let (items, next) ← pageOf result "structured resource query result"
  let resources ← items.mapM (pageItem (parseResource Platform.reference) "resource page item")
  .ok ⟨resources, next⟩

def listingProgram : Program (runtime Platform.reference) listing.Result :=
  .call (.structured listingCall) fun reply => .done (pageFrom reply)

theorem run_listing : listing.program.run = listingProgram := by
  apply congrArg (Program.call _)
  funext reply
  cases reply <;> rfl

theorem pageFrom_listedReply : pageFrom (.ok listedReply) = .ok ⟨[newer, resource], none⟩ := by
  have parsed : ∀ resource : StoredResourceV1 Platform.reference,
      resource.recordVersion = some (.number 1) →
      pageItem (parseResource Platform.reference) "resource page item" (bareRow resource) =
        .ok resource := fun resource versioned =>
    pageItem_presented (Row.Holds.reads ⟨rfl, versioned⟩) (presents_presented _ _ _)
  change ([bareRow newer, bareRow resource].mapM
    (pageItem (parseResource Platform.reference) "resource page item") >>= fun resources =>
      Except.ok (⟨resources, none⟩ : ResourcePage Platform.reference)) = _
  rw [List.mapM_cons, parsed newer rfl, List.mapM_cons, parsed resource rfl]
  rfl

end Reference

open Reference in
/-- A client lists the two versions that a store of bare records holds, or one of envelopes. -/
theorem shapes_agree_listing :
    (∃ pool : Readers Platform.reference Unit,
      Pool.Reachable (clientsOf (overStore Platform.reference
        (bareRecords Platform.reference (conforming Platform.reference))
        (conformingObjects Platform.reference) True) fun _ _ => True)
        (holdingBoth resource newer) pool ∧
      pool.state = holdingBoth resource newer ∧
      pool.threads = (fun _ => some ⟨listing, .done (.ok ⟨[newer, resource], none⟩)⟩) ∧
      trace pool = [((), holdingBoth resource newer, .structured listingCall, none,
        holdingBoth resource newer)]) ∧
    ∃ pool : Readers Platform.reference Unit,
      Pool.Reachable (clientsOf (overStore Platform.reference (inEnvelopes Platform.reference
        (bareRecords Platform.reference (conforming Platform.reference)))
        (conformingObjects Platform.reference) True) fun _ _ => True)
        (holdingBoth resource newer) pool ∧
      pool.state = holdingBoth resource newer ∧
      pool.threads = (fun _ => some ⟨listing, .done (.ok ⟨[newer, resource], none⟩)⟩) ∧
      trace pool = [((), holdingBoth resource newer, .structured listingCall, none,
        holdingBoth resource newer)] := by
  refine (and_iff_left_of_imp
    (shapes_agree (fun _ _ _ _ answered => answered.2) _ _ _ _ _ _ _).mp).mpr ?_
  let service := clientsOf (overStore Platform.reference
    (bareRecords Platform.reference (conforming Platform.reference))
    (conformingObjects Platform.reference) True) fun _ _ => True
  let launched : Readers Platform.reference Unit :=
    (Pool.initial (holdingBoth resource newer)).launch () listing (service.body listing)
  have started : Pool.Step service (Pool.initial (holdingBoth resource newer)) launched :=
    .start rfl trivial
  have selected : launched.threads () = some ⟨listing, listingProgram⟩ := by
    rw [Pool.launch_threads, if_pos rfl, ← run_listing]
    rfl
  have answered : service.env (.structured listingCall) launched.state (.ok listedReply)
      (holdingBoth resource newer) := Or.inl listing_answered
  have ran : Pool.Step service launched _ := .run selected answered
  refine ⟨_, .tail (.single started) ran, rfl, ?_, rfl⟩
  funext i
  rw [Pool.advance_threads, if_pos (Subsingleton.elim _ _)]
  rw [pageFrom_listedReply]
  rfl

end ConfigArtifact
