import ConfigArtifact.Operations.Alone.Promotion
import ConfigArtifact.Operations.ConfigurationPublication

/-! What a configuration publication does when nothing else runs.

It builds its candidate, finds the row of its identity or commits one, and only
then looks at the channel it was to promote.
-/

set_option autoImplicit false

namespace ConfigArtifact

open Interaction Fallible MetadataRepository
open StoredResourceFields (sameConfiguration)

variable {X : Platform} {s t u : World} {env : Environment (runtime X) World}

/-- The stores hold the same rows and Objects as before. -/
structure Unwritten (s t : World) : Prop where
  tables : t.tables = s.tables
  objects : t.objects = s.objects

theorem Unwritten.refl (s : World) : Unwritten s s := ⟨rfl, rfl⟩

theorem Unwritten.trans (first : Unwritten s t) (second : Unwritten t u) : Unwritten s u :=
  ⟨second.tables.trans first.tables, second.objects.trans first.objects⟩

theorem World.row?_of_tables (same : t.tables = s.tables) (collection : Collection) (key : String) :
    t.row? collection key = s.row? collection key := by
  unfold World.row?
  rw [same]

theorem Unwritten.row? (unwritten : Unwritten s t) (collection : Collection) (key : String) :
    t.row? collection key = s.row? collection key := World.row?_of_tables unwritten.tables _ _

theorem Unwritten.object? (unwritten : Unwritten s t) (objectId : String) :
    t.object? objectId = s.object? objectId := by
  unfold World.object?
  rw [unwritten.objects]

theorem Unwritten.stores (unwritten : Unwritten s t) {resource : StoredResourceV1 X} :
    Stores t resource ↔ Stores s resource := by
  unfold Stores
  rw [unwritten.row?]

/-- A call that only reads. -/
def Call.IsReading : Call X → Prop
  | .clock | .utcNow | .validate _ _ => True
  | _ => False

theorem Covered.reads (covered : Covered env) (request : Call X) (before : World)
    (reply : Except PyError request.Result) (after : World) (reading : request.IsReading)
    (answered : env request before reply after) : after = before := by
  have answered := covered request before reply after answered
  cases request with
  | clock => exact answered.1
  | utcNow => exact answered.1
  | validate payload schema => exact answered.1
  | _ => cases reading

theorem Covered.still {A : Type} (covered : Covered env) {program : Program (runtime X) A}
    (uses : program.Uses Call.IsReading) {result : A} (runs : program.Runs env s result t) :
    t = s := by
  have still : ∀ request before reply after, request.IsReading →
      env request before reply after → before = after :=
    fun request before reply after reading answered =>
      (covered.reads request before reply after reading answered).symm
  exact (Program.Runs.relates (fun _ => rfl) (fun first second => first.trans second) still uses
    runs).symm

theorem reads_currentTimestamp : (currentTimestamp : PyM X String).run.Uses Call.IsReading :=
  uses_bind (uses_invoke trivial) fun _ => trivial

/-- A publication alone, once its transaction is answered. -/
theorem runs_publication (covered : Covered env) (consistent : Consistent X s)
    {same : StoredResourceFields X → StoredResourceFields X → Bool} (reflexive : IgnoresVersion same)
    {candidate : StoredResourceV1 X} {result : Except PyError (StoredResourceV1 X)}
    (runs : (inTransaction (publication same candidate) : PyM X _).run.Runs env s result t) :
    Committed False candidate s t result := by
  obtain ⟨reply, middle, answered, rfl, rfl⟩ := runs
  have answered := @serving_of_reliable X False _ _ _ _ (covered _ _ _ _ answered)
  rcases serving_transaction answered with ⟨stored, runs, reported⟩ | ⟨rfl, error, rfl, reason⟩
  · obtain ⟨version, stamp, absent, -, rfl, rfl⟩ := publication_commits reflexive runs
    rcases reported with rfl | ⟨faulted, -⟩
    · exact ⟨version, stamp, absent, rfl, rfl⟩
    · exact faulted.elim
  · rcases reason with faulted | ⟨state, runs⟩
    · exact faulted.elim
    · exact Or.inr ⟨rfl, publication_raises reflexive consistent runs⟩

/-- Stores stay consistent when a resource is published where there is none. -/
theorem Consistent.publish (consistent : Consistent X s) {resource : StoredResourceV1 X}
    (absent : s.row? .metadata resource.resourceId = none) (published : resource.state = .published)
    (backed : resource.profile = .artifact → IsBacked s resource) (version stamp : RecordVersion) :
    Consistent X (s.publish resource version stamp) := by
  have unproved : s.row? .provenance resource.resourceId = none := by
    cases found : s.row? .provenance resource.resourceId with
    | none => rfl
    | some row => exact absurd absent (consistent.provenance _ row found)
  have change : Change (Policy.unrestricted X) s (s.publish resource version stamp) :=
    .published absent unproved published backed trivial
  exact change.consistent consistent

/-- A publication over a row of its identity, once it has compared the two. -/
theorem runs_existingReceipt {profile : ResourceProfile}
    {same : StoredResourceFields X → StoredResourceFields X → Bool}
    {candidate existing : StoredResourceV1 X} {channel expectedPointerVersion actor : JsonValue}
    {result : Except PyError (PublicationReceipt X)}
    (runs : (existingReceipt profile same candidate existing channel expectedPointerVersion
      actor).run.Runs env s result t) :
    same candidate.toStoredResourceFields existing.toStoredResourceFields = false ∧ t = s ∧
      result = .error (identityConflict (some candidate.identity.canonical)) ∨
    same candidate.toStoredResourceFields existing.toStoredResourceFields = true ∧
      ∃ promoted, (promotePublished profile existing channel expectedPointerVersion actor).run.Runs
        env s promoted t ∧ result = promoted >>= fun promoted => .ok {
          resource := existing, idempotent := true, objectCommitted := profile = .artifact
          metadataCommitted := true, channel := promoted } := by
  unfold existingReceipt at runs
  split at runs
  · next matching =>
    obtain ⟨promoted, u, promotes, rest⟩ := runs_then runs
    refine Or.inr ⟨matching, promoted, ?_⟩
    cases promoted with
    | ok pointer =>
      obtain ⟨rfl, rfl⟩ := rest
      exact ⟨promotes, rfl⟩
    | error error =>
      obtain ⟨rfl, rfl⟩ := rest
      exact ⟨promotes, rfl⟩
  · next different =>
    obtain ⟨rfl, rfl⟩ := runs
    exact Or.inl ⟨Bool.eq_false_iff.mpr different, rfl, rfl⟩

theorem existingReceipt_unchanged (covered : Covered env) (consistent : Consistent X s)
    {profile : ResourceProfile} {same : StoredResourceFields X → StoredResourceFields X → Bool}
    {candidate existing : StoredResourceV1 X} {channel expectedPointerVersion actor : JsonValue}
    {error : PyError} (runs : (existingReceipt profile same candidate existing channel
      expectedPointerVersion actor).run.Runs env s (.error error) t) : t = s := by
  rcases runs_existingReceipt runs with ⟨-, rfl, -⟩ | ⟨-, promoted, promotes, raised⟩
  · rfl
  · cases promoted with
    | ok pointer => cases raised
    | error other => exact promotePublished_unchanged covered consistent promotes

namespace ConfigurationPublisher

theorem plan_eq {request : ConfigurationRequest X} {arguments : String → StoredResourceArguments X}
    (planned : plan request = .ok arguments) (first second : String) :
    arguments second = { arguments first with createdAt := .str second } := by
  obtain ⟨_, _, _, _, _, _, _, -, -, -, -, -, -, -, rfl⟩ := plan_ok planned
  rfl

/-- What is built at one time is built at any. -/
theorem IsCandidate.valid {request : ConfigurationRequest X} {resource : StoredResourceV1 X}
    (candidate : IsCandidate request resource) : IsValid request := by
  obtain ⟨arguments, time, createdAt, planned, timed, created⟩ := candidate
  refine ⟨arguments, planned, fun later createdAt' timed' => ?_⟩
  rw [plan_eq planned createdAt createdAt']
  exact StoredResourceV1.create_later (utcTimestampOfDatetime_ok timed)
    (utcTimestampOfDatetime_ok timed') (plan_eq planned createdAt createdAt ▸ created)

theorem IsCandidate.identity {request : ConfigurationRequest X} {resource : StoredResourceV1 X}
    (candidate : IsCandidate request resource) :
    ResourceIdentity.create request.namespace request.kind request.name request.version =
      .ok resource.identity := by
  obtain ⟨arguments, time, createdAt, planned, -, created⟩ := candidate
  obtain ⟨identity, _, _, _, _, _, _, named, -, -, -, -, -, -, rfl⟩ := plan_ok planned
  have built := (StoredResourceV1.isBuilt_of_create created).identity
  rwa [named, ← identity.create_self]

theorem IsCandidate.actor {request : ConfigurationRequest X} {resource : StoredResourceV1 X}
    (candidate : IsCandidate request resource) :
    boundedString request.actor "actor" 512 = .ok resource.createdBy := by
  obtain ⟨arguments, time, createdAt, planned, -, created⟩ := candidate
  obtain ⟨_, _, _, _, _, _, _, -, -, -, -, -, -, -, rfl⟩ := plan_ok planned
  exact (StoredResourceV1.isBuilt_of_create created).createdBy

theorem reads_candidate (request : ConfigurationRequest X) :
    (candidate request).run.Uses Call.IsReading := by
  refine uses_settle_bind fun _ _ => uses_settle_bind fun _ _ => ?_
  refine uses_bind (uses_invoke trivial) fun _ => uses_settle_bind fun _ _ => ?_
  refine uses_settle_bind fun _ _ => uses_settle_bind fun _ _ => uses_settle_bind fun _ _ => ?_
  exact uses_bind reads_currentTimestamp fun _ => trivial

theorem runs_candidate (covered : Covered env) (consistent : Consistent X s)
    {request : ConfigurationRequest X} {result : Except PyError (StoredResourceV1 X)}
    (runs : (candidate request).run.Runs env s result t) : t = s ∧ Planned False request result := by
  refine ⟨covered.still (reads_candidate request) runs, ?_⟩
  have kept : (following (Policy.unrestricted X) s).invariant s := ⟨consistent, .refl⟩
  have safe : (candidate request).run.Safe (following (Policy.unrestricted X) s) (serving X False)
      (fun _ _ result => Planned False request result) [] s := by
    rw [← Program.bind_done (candidate request).run]
    exact safe_candidate kept fun _ _ _ _ _ result planned _ _ _ => planned
  obtain ⟨-, -, own, planned⟩ := (safe.narrow fun request before reply after answered =>
    serving_of_reliable request before reply after (covered _ _ _ _ answered)).runs kept
      (fun _ _ moved => moved) runs
  exact planned

/-- What a publication does, until it comes to its channel. -/
inductive Publishes (env : Environment (runtime X) World) (s : World)
    (request : ConfigurationRequest X) : Except PyError (PublicationReceipt X) → World → Prop
  | refused {error : PyError} (invalid : ¬IsValid request) : Publishes env s request (.error error) s
  | found {candidate existing : StoredResourceV1 X} {result : Except PyError (PublicationReceipt X)}
      {t : World} (planned : IsCandidate request candidate) (stores : Stores s existing)
      (named : existing.resourceId = candidate.resourceId)
      (runs : (existingReceipt .configuration sameConfiguration candidate existing request.channel
        request.expectedPointerVersion request.actor).run.Runs env s result t) :
      Publishes env s request result t
  | committed {candidate : StoredResourceV1 X} {version stamp : RecordVersion}
      {promoted : Except PyError (Option ResourceChannelV1)} {t : World}
      (planned : IsCandidate request candidate)
      (absent : s.row? .metadata candidate.resourceId = none)
      (runs : (promotePublished .configuration (candidate.withVersion (some version)) request.channel
        request.expectedPointerVersion request.actor).run.Runs env
        (s.publish candidate version stamp) promoted t) :
      Publishes env s request (promoted >>= fun promoted => .ok {
        resource := candidate.withVersion (some version), idempotent := false
        objectCommitted := false, metadataCommitted := true, channel := promoted }) t

theorem runs_publish (covered : Covered env) (consistent : Consistent X s)
    {request : ConfigurationRequest X} {result : Except PyError (PublicationReceipt X)}
    (runs : (publish request).run.Runs env s result t) : Publishes env s request result t := by
  unfold publish at runs
  obtain ⟨first, u, builds, runs⟩ := runs_then runs
  obtain ⟨rfl, planned⟩ := runs_candidate covered consistent builds
  cases first with
  | error error =>
    obtain ⟨rfl, rfl⟩ := runs
    exact .refused (planned.resolve_left id)
  | ok candidate =>
    have planned : IsCandidate request candidate := planned
    rw [andThen_ok] at runs
    obtain ⟨first, v, looks, runs⟩ := runs_then runs
    obtain ⟨rfl, looked⟩ := runs_getResource covered.honest consistent looks
    match first, looked with
    | .error error, impossible => exact absurd (impossible.resolve_left id).1 (by simp)
    | .ok (some existing), looked => exact .found planned looked.1 looked.2 runs
    | .ok none, looked =>
      have absent := looked.2.resolve_left id
      rw [andThen_ok, run_attempt_bind] at runs
      obtain ⟨first, w, commits, runs⟩ := (Program.runs_bind _ _ _ _ _ _).mp runs
      have committed := runs_publication covered consistent sameConfiguration_ignoresVersion commits
      cases first with
      | error error => exact absurd absent (committed.resolve_left id).2.1
      | ok stored =>
        obtain ⟨version, stamp, -, rfl, rfl⟩ := committed
        obtain ⟨promoted, x, promotes, rest⟩ := runs_then runs
        cases promoted with
        | ok pointer =>
          obtain ⟨rfl, rfl⟩ := rest
          exact .committed planned absent promotes
        | error error =>
          obtain ⟨rfl, rfl⟩ := rest
          exact .committed planned absent promotes

end ConfigurationPublisher

end ConfigArtifact
