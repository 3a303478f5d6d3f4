import ConfigArtifact.Publication
import ConfigArtifact.Store.Calls

/-! What the two transactions of the package conclude and change.

A publication inserts its metadata and provenance where no row is, or conflicts
with a row that is there. A deprecation patches the row its caller has read, or
conflicts with a deprecation that came first.
-/

set_option autoImplicit false

namespace ConfigArtifact

open Interaction Fallible Relation MetadataRepository

variable {X : Platform} {P : Policy X} {first s t u : World} {faults : Prop}

theorem run_putResource (resource : StoredResourceV1 X) :
    (putResource resource).run = .call (.put .metadata resource.toRecord) fun reply =>
      .done (reply >>= fun result =>
        recordOf result "structured resource put result" >>= parseResource X) := by
  apply congrArg (Program.call _)
  funext reply
  cases reply <;> rfl

theorem run_putProvenance (record : Mapping) :
    (putProvenance record).run = .call (.put .provenance record) fun reply =>
      .done (reply >>= readProvenance record) := by
  apply congrArg (Program.call _)
  funext reply
  cases reply <;> rfl

theorem run_deprecation (resource : StoredResourceV1 X) (version : RecordVersion) :
    (deprecation resource version).run =
      .call (.patch .metadata [("resourceId", .str resource.resourceId)]
        [("state", .str ResourceState.deprecated.value)] version) fun reply =>
          .done (reply >>= fun result => deprecationResult result resource) := by
  apply congrArg (Program.call _)
  funext reply
  cases reply <;> rfl

/-- A value equality that does not look at the record version. -/
def IgnoresVersion (same : StoredResourceFields X → StoredResourceFields X → Bool) : Prop :=
  ∀ (resource : StoredResourceV1 X) (version : Option RecordVersion),
    same resource.toStoredResourceFields (resource.withVersion version).toStoredResourceFields = true

theorem sameArtifact_ignoresVersion :
    IgnoresVersion (X := X) StoredResourceFields.sameArtifact :=
  fun resource _ => StoredResourceFields.sameArtifact_refl resource.toStoredResourceFields

theorem sameConfiguration_ignoresVersion :
    IgnoresVersion (X := X) StoredResourceFields.sameConfiguration :=
  fun resource _ => StoredResourceFields.sameConfiguration_refl resource.toStoredResourceFields

theorem putResource_found {resource : StoredResourceV1 X} {version : RecordVersion}
    {reply : Except PyError OperationResult}
    (found : Found X .metadata resource.resourceId ⟨resource.toRecord, version⟩ reply) :
    (reply >>= fun result => recordOf result "structured resource put result" >>= parseResource X) =
      .ok (resource.withVersion (some version)) := by
  obtain ⟨data, resources, rfl, presented⟩ := found
  exact recordOf_presented (reads_resource resource version) presented

section

variable {same : StoredResourceFields X → StoredResourceFields X → Bool}
  {candidate : StoredResourceV1 X}

/-- The provenance of a publication, once its metadata is put. -/
theorem run_publishProvenance (reflexive : IgnoresVersion same) (version : RecordVersion) :
    (publishProvenance same candidate (candidate.withVersion (some version))).run =
    match candidate.provenanceRecord with
    | none => .done (.ok (candidate.withVersion (some version)))
    | some record => .call (.put .provenance record) fun reply => .done
        (reply >>= readProvenance record >>= fun _ => .ok (candidate.withVersion (some version))) := by
  unfold publishProvenance
  rw [if_pos (reflexive candidate (some version)),
    show (candidate.withVersion (some version)).provenanceRecord = candidate.provenanceRecord from rfl]
  cases candidate.provenanceRecord with
  | none => rfl
  | some record =>
    dsimp only
    rw [run_bind, run_putProvenance]
    apply congrArg (Program.call _)
    funext reply
    rw [Program.done_bind]
    cases reply >>= readProvenance record <;> rfl

/-- A publication that commits has inserted its rows where none were. -/
theorem publication_commits (reflexive : IgnoresVersion same) {stored : StoredResourceV1 X}
    (runs : (publication same candidate).run.Runs (conforming X).interrupted t (.ok stored) u) :
    ∃ version stamp, t.row? .metadata candidate.resourceId = none ∧
      (candidate.provenanceRecord ≠ none → t.row? .provenance candidate.resourceId = none) ∧
      u = t.publish candidate version stamp ∧ stored = candidate.withVersion (some version) := by
  unfold publication at runs
  rw [run_bind, run_putResource] at runs
  obtain ⟨reply, middle, answered, runs⟩ := runs
  rcases answered with ⟨key, keyed, conforms⟩ | ⟨error, rfl, -⟩
  · obtain rfl : candidate.resourceId = key := Option.some.inj keyed
    cases held : t.row? .metadata candidate.resourceId with
    | some row =>
      rw [held] at conforms
      obtain ⟨-, error, rfl, -⟩ := conforms
      cases runs.1
    | none =>
      rw [held] at conforms
      obtain ⟨version, -, rfl, found⟩ := conforms
      dsimp only at runs
      rw [Program.done_bind, putResource_found found, andThen_ok, run_publishProvenance reflexive] at runs
      cases carried : candidate.provenanceRecord with
      | none =>
        rw [carried] at runs
        obtain ⟨returned, rfl⟩ := runs
        refine ⟨version, version, rfl, fun some => absurd rfl some, ?_, (Except.ok.inj returned).symm⟩
        unfold World.publish
        rw [carried]
      | some record =>
        rw [carried] at runs
        obtain ⟨reply, final, answered, returned, rfl⟩ := runs
        rcases answered with ⟨name, named, conforms⟩ | ⟨error, rfl, -⟩
        · obtain rfl : candidate.resourceId = name :=
            Option.some.inj ((keyOf_provenance carried).symm.trans named)
          -- The metadata row is another than the one that the provenance is put under.
          have apart : (t.setRow .metadata candidate.resourceId ⟨candidate.toRecord, version⟩).row?
              .provenance candidate.resourceId = t.row? .provenance candidate.resourceId := by
            simp [World.row?_setRow]
          rw [apart] at conforms
          cases present : t.row? .provenance candidate.resourceId with
          | some row =>
            rw [present] at conforms
            obtain ⟨-, error, rfl, -⟩ := conforms
            cases returned
          | none =>
            rw [present] at conforms
            obtain ⟨stamp, -, rfl, -⟩ := conforms
            obtain ⟨_, _, returned⟩ := bind_ok.mp returned
            refine ⟨version, stamp, rfl, fun _ => rfl, ?_, (Except.ok.inj returned).symm⟩
            unfold World.publish
            rw [carried]
        · cases returned
  · cases runs.1

/-- A publication that raises without a fault has met a row that was there. -/
theorem publication_raises (reflexive : IgnoresVersion same) (consistent : Consistent X t)
    {error : PyError}
    (runs : (publication same candidate).run.Runs (conforming X) t (.error error) u) :
    t.row? .metadata candidate.resourceId ≠ none ∧ error.hasCategory .conflict = true ∧
      error.hasType .identityConflict = false := by
  unfold publication at runs
  rw [run_bind, run_putResource] at runs
  obtain ⟨reply, middle, ⟨key, keyed, conforms⟩, runs⟩ := runs
  obtain rfl : candidate.resourceId = key := Option.some.inj keyed
  cases held : t.row? .metadata candidate.resourceId with
  | some row =>
    rw [held] at conforms
    obtain ⟨-, raised, rfl, conflict, other⟩ := conforms
    obtain ⟨returned, -⟩ := runs
    cases returned
    exact ⟨by simp, conflict, other⟩
  | none =>
    rw [held] at conforms
    obtain ⟨version, -, rfl, found⟩ := conforms
    dsimp only at runs
    rw [Program.done_bind, putResource_found found, andThen_ok, run_publishProvenance reflexive] at runs
    cases carried : candidate.provenanceRecord with
    | none =>
      rw [carried] at runs
      cases runs.1
    | some record =>
      rw [carried] at runs
      obtain ⟨reply, final, ⟨name, named, conforms⟩, returned, -⟩ := runs
      obtain rfl : candidate.resourceId = name :=
        Option.some.inj ((keyOf_provenance carried).symm.trans named)
      -- No provenance is there without metadata, so the second put meets no row.
      have bare : (t.setRow .metadata candidate.resourceId ⟨candidate.toRecord, version⟩).row?
          .provenance candidate.resourceId = none := by
        rw [World.row?_setRow, if_neg (by simp)]
        by_contra present
        obtain ⟨row, present⟩ := Option.ne_none_iff_exists'.mp present
        exact consistent.provenance _ row present held
      rw [bare] at conforms
      obtain ⟨stamp, -, -, data, resources, rfl, presented⟩ := conforms
      have accepted := readProvenance_presented resources carried presented
      change (readProvenance record ⟨data, resources⟩ >>= _) = _ at returned
      cases read : readProvenance record ⟨data, resources⟩ with
      | ok value =>
        rw [read] at returned
        cases returned
      | error error =>
        rw [read] at accepted
        cases accepted

/-- What a publication tells, and what it has changed. -/
def Committed (faults : Prop) (candidate : StoredResourceV1 X) (t u : World) :
    Except PyError (StoredResourceV1 X) → Prop
  | .ok stored => ∃ version stamp, t.row? .metadata candidate.resourceId = none ∧
      u = t.publish candidate version stamp ∧ stored = candidate.withVersion (some version)
  | .error error => faults ∨ u = t ∧ t.row? .metadata candidate.resourceId ≠ none ∧
      error.hasCategory .conflict = true ∧ error.hasType .identityConflict = false

theorem safe_publication {A : Type}
    {next : Except PyError (StoredResourceV1 X) → Program (runtime X) A}
    {post : Postcondition (runtime X) World A} {history : List (Event (runtime X) World)}
    (reflexive : IgnoresVersion same) (published : candidate.state = .published)
    (backed : ∀ t, Changes P s t → candidate.profile = .artifact → IsBacked t candidate)
    (permitted : P.publishes candidate)
    (rest : ∀ t u, (following P first).invariant t → (following P first).invariant u →
      Changes P s t → ∀ event, event.before = t → event.after = u →
      ∀ result, Committed faults candidate t u result →
      (next result).Safe (following P first) (serving X faults) post (history ++ [event]) u) :
    ((inTransaction (publication same candidate) : PyM X _).run.bind next).Safe
      (following P first) (serving X faults) post history s := by
  intro t moved kept reply u answered
  rcases serving_transaction answered with ⟨stored, runs, reported⟩ | ⟨rfl, error, rfl, reason⟩
  · obtain ⟨version, stamp, absent, -, rfl, rfl⟩ := publication_commits reflexive runs
    have bare : t.row? .provenance candidate.resourceId = none := by
      by_contra present
      obtain ⟨row, present⟩ := Option.ne_none_iff_exists'.mp present
      exact kept.1.provenance _ row present absent
    have change : Change P t (t.publish candidate version stamp) :=
      .published absent bare published (backed t moved) permitted
    have step := following_step kept change
    refine ⟨step.1, step.2, rest t _ kept step.1 moved _ rfl rfl reply ?_⟩
    rcases reported with rfl | ⟨faulted, error, rfl⟩
    · exact ⟨version, stamp, absent, rfl, rfl⟩
    · exact Or.inl faulted
  · refine ⟨kept, .refl, rest u u kept kept moved _ rfl rfl (.error error) ?_⟩
    rcases reason with faulted | ⟨state, runs⟩
    · exact Or.inl faulted
    · exact Or.inr ⟨rfl, publication_raises reflexive kept.1 runs⟩

end

/-- The row a resource was read from holds what the resource has become. -/
theorem Succeeds.row {resource later : StoredResourceV1 X} (stores : Stores t later)
    (succeeds : Succeeds resource later) : ∃ row, t.row? .metadata resource.resourceId = some row ∧
      row.Holds later := by
  obtain ⟨row, found, holds⟩ := stores
  exact ⟨row, succeeds.resourceId ▸ found, holds⟩

section

variable {resource later : StoredResourceV1 X} {version : RecordVersion}

/-- A deprecation that commits has patched the row as its caller had read it. -/
theorem deprecation_commits (published : resource.state = .published)
    (read : resource.recordVersion = some version) (stores : Stores t later)
    (succeeds : Succeeds resource later) {stored : StoredResourceV1 X}
    (runs : (deprecation resource version).run.Runs (conforming X).interrupted t (.ok stored) u) :
    later = resource ∧ ∃ renewed, renewed ≠ version ∧
      u = t.deprecate resource (immutable_of_published published) renewed ∧
      stored = resource.deprecatedAt (immutable_of_published published) renewed := by
  rw [run_deprecation] at runs
  obtain ⟨reply, middle, answered, returned, rfl⟩ := runs
  rcases answered with ⟨key, keyed, conforms⟩ | ⟨error, rfl, -⟩
  · obtain rfl : resource.resourceId = key := Option.some.inj keyed
    obtain ⟨row, found, holds⟩ := succeeds.row stores
    simp only [found] at conforms
    split at conforms
    · next matching =>
      obtain ⟨renewed, data, valid, fresh, rfl, presented, rfl⟩ := conforms
      -- The row still has the version that its caller has read, so it is what was read.
      obtain rfl : later = resource :=
        succeeds.eq_of_version (by rw [holds.2, matching, read])
      rw [matching] at fresh
      rw [holds.1] at presented ⊢
      have accepted := deprecationResult_presented (immutable_of_published published) read fresh
        valid presented
      exact ⟨rfl, renewed, fresh, rfl, (Except.ok.inj (accepted.symm.trans returned)).symm⟩
    · obtain ⟨-, error, rfl, -⟩ := conforms
      cases returned
  · cases returned

/-- A deprecation that raises without a fault has met one that came first. -/
theorem deprecation_raises (published : resource.state = .published)
    (read : resource.recordVersion = some version) (stores : Stores t later)
    (succeeds : Succeeds resource later) {error : PyError}
    (runs : (deprecation resource version).run.Runs (conforming X) t (.error error) u) :
    later.state = .deprecated ∧ error.hasCategory .conflict = true := by
  rw [run_deprecation] at runs
  obtain ⟨reply, middle, ⟨key, keyed, conforms⟩, returned, rfl⟩ := runs
  obtain rfl : resource.resourceId = key := Option.some.inj keyed
  obtain ⟨row, found, holds⟩ := succeeds.row stores
  simp only [found] at conforms
  split at conforms
  · next matching =>
    obtain ⟨renewed, data, valid, fresh, rfl, presented, rfl⟩ := conforms
    obtain rfl : later = resource := succeeds.eq_of_version (by rw [holds.2, matching, read])
    rw [matching] at fresh
    rw [holds.1] at presented
    have accepted := deprecationResult_presented (immutable_of_published published) read fresh
      valid presented
    cases accepted.symm.trans returned
  · next moved =>
    obtain ⟨-, raised, rfl, conflict, -⟩ := conforms
    cases returned
    refine ⟨?_, conflict⟩
    rcases succeeds with rfl | ⟨-, -, deprecated, -⟩
    · exact absurd (Option.some.inj (holds.2.symm.trans read)) moved
    · exact deprecated

/-- What a deprecation tells, and what it has changed. -/
def Deprecated (faults : Prop) (resource : StoredResourceV1 X) (t u : World) :
    Except PyError (StoredResourceV1 X) → Prop
  | .ok stored => ∃ immutable version, Stores t resource ∧
      u = t.deprecate resource immutable version ∧ stored = resource.deprecatedAt immutable version
  | .error error => faults ∨ u = t ∧ error.hasCategory .conflict = true ∧
      ∃ later, Stores t later ∧ Succeeds resource later ∧ later.state = .deprecated

theorem safe_deprecateResource {A : Type}
    {next : Except PyError (StoredResourceV1 X) → Program (runtime X) A}
    {post : Postcondition (runtime X) World A} {history : List (Event (runtime X) World)}
    (published : resource.state = .published) (stored : Stores s resource)
    (permitted : P.deprecates resource)
    (rest : ∀ t u, (following P first).invariant t → (following P first).invariant u →
      Changes P s t → ∀ event, event.before = t → event.after = u →
      ∀ result, Deprecated faults resource t u result →
      (next result).Safe (following P first) (serving X faults) post (history ++ [event]) u) :
    ((deprecateResource resource).run.bind next).Safe (following P first) (serving X faults) post
      history s := by
  obtain ⟨row, -, -, read⟩ := id stored
  unfold deprecateResource
  rw [read]
  intro t moved kept reply u answered
  obtain ⟨later, current, succeeds⟩ := (Changes.evolves moved).stored resource stored
  rcases serving_transaction answered with ⟨stored, runs, reported⟩ | ⟨rfl, error, rfl, reason⟩
  · obtain ⟨rfl, renewed, fresh, rfl, rfl⟩ :=
      deprecation_commits published read current succeeds runs
    have renewal : some renewed ≠ later.recordVersion := by
      rw [read]
      simpa using fresh
    have change : Change P t (t.deprecate later (immutable_of_published published) renewed) :=
      .deprecated _ current published renewal permitted
    have step := following_step kept change
    refine ⟨step.1, step.2, rest t _ kept step.1 moved _ rfl rfl reply ?_⟩
    rcases reported with rfl | ⟨faulted, error, rfl⟩
    · exact ⟨_, renewed, current, rfl, rfl⟩
    · exact Or.inl faulted
  · refine ⟨kept, .refl, rest u u kept kept moved _ rfl rfl (.error error) ?_⟩
    rcases reason with faulted | ⟨state, runs⟩
    · exact Or.inl faulted
    · obtain ⟨deprecated, conflict⟩ := deprecation_raises published read current succeeds runs
      exact Or.inr ⟨rfl, conflict, later, current, succeeds, deprecated⟩

end

end ConfigArtifact
