import ConfigArtifact.Simulation

/-! Deprecation trusts no answer of its store.

The answer to the patch is checked inside the transaction that issues it, so an
answer that is not the deprecated row of a new version leaves nothing behind.
-/

set_option autoImplicit false

namespace ConfigArtifact

open Interaction Fallible MetadataRepository

variable {X : Platform} {s t : World}

/-- What the caller of a deprecation may take from the resource it is given. -/
structure IsDeprecated (resource stored : StoredResourceV1 X) : Prop where
  record : pyEq (.object stored.toRecord) (.object
    (Mapping.set resource.toRecord "state" (.str ResourceState.deprecated.value))) = true
  version : ∃ version, stored.recordVersion = some version ∧ version ≠ .text "" ∧
    (∀ number, version = .number number → 0 ≤ number) ∧ resource.recordVersion ≠ some version

theorem isStaleVersion_renews {previous version : Option RecordVersion}
    (fresh : isStaleVersion previous version = false) :
    ∃ renewed, version = some renewed ∧ renewed ≠ .text "" ∧
      (∀ number, renewed = .number number → 0 ≤ number) ∧ previous ≠ some renewed := by
  unfold isStaleVersion at fresh
  split at fresh
  · cases fresh
  · next renewed =>
    simp only [Bool.or_eq_false_iff, decide_eq_false_iff_not] at fresh
    refine ⟨renewed, rfl, fresh.1.1, ?_, fun same => fresh.1.2 same.symm⟩
    rintro number rfl
    have bounded := fresh.2
    simp only [decide_eq_false_iff_not, not_lt] at bounded
    exact bounded

/-- Whatever the answer was, what is accepted of it is the deprecated resource. -/
theorem deprecationResult_ok {result : OperationResult} {resource stored : StoredResourceV1 X}
    (accepted : deprecationResult result resource = .ok stored) : IsDeprecated resource stored := by
  unfold deprecationResult at accepted
  split at accepted
  · obtain ⟨_, _, accepted⟩ := bind_ok.mp accepted
    obtain ⟨record, _, accepted⟩ := bind_ok.mp accepted
    obtain ⟨_, _, accepted⟩ := bind_ok.mp accepted
    obtain ⟨values, _, accepted⟩ := bind_ok.mp accepted
    obtain ⟨read, _, accepted⟩ := bind_ok.mp accepted
    obtain ⟨_, same, accepted⟩ := bind_ok.mp accepted
    obtain ⟨_, renewed, accepted⟩ := bind_ok.mp accepted
    cases accepted
    rw [raiseIf_ok, Bool.not_eq_false] at same
    rw [raiseIf_ok, Bool.not_eq_true] at renewed
    exact ⟨same, isStaleVersion_renews renewed⟩
  · cases accepted

/-- The row a conforming store makes of a draft is none that a constructor accepts. -/
theorem fromRecord_deprecated {resource stored : StoredResourceV1 X} {more : Mapping}
    (read : StoredResourceV1.fromRecord X
      (Mapping.set resource.toRecord "state" (.str ResourceState.deprecated.value) ++ more) = .ok stored) :
    resource.immutable = true := by
  obtain ⟨arguments, decoded, created⟩ := bind_ok.mp read
  have built := (StoredResourceV1.isBuilt_of_create created).immutable
  obtain ⟨_, _, decoded⟩ := bind_ok.mp decoded
  obtain ⟨_, _, decoded⟩ := bind_ok.mp decoded
  obtain ⟨_, _, decoded⟩ := bind_ok.mp decoded
  obtain ⟨_, _, decoded⟩ := bind_ok.mp decoded
  obtain ⟨_, _, decoded⟩ := bind_ok.mp decoded
  obtain ⟨_, _, decoded⟩ := bind_ok.mp decoded
  obtain ⟨_, _, decoded⟩ := bind_ok.mp decoded
  obtain ⟨state, stated, decoded⟩ := bind_ok.mp decoded
  obtain ⟨_, _, decoded⟩ := bind_ok.mp decoded
  obtain ⟨_, _, decoded⟩ := bind_ok.mp decoded
  obtain ⟨_, _, decoded⟩ := bind_ok.mp decoded
  cases decoded
  change StoredResourceV1.immutability state (.bool resource.immutable) = _ at built
  cases stated
  obtain ⟨same, published⟩ := StoredResourceV1.immutability_ok built
  rw [JsonValue.bool.inj same]
  exact published.mpr (by simp)

/-- The row a patch makes of the row that holds a resource. -/
def patchedRow (resource : StoredResourceV1 X) (version : RecordVersion) : Row :=
  ⟨Mapping.set resource.toRecord "state" (.str ResourceState.deprecated.value), version⟩

theorem isPlain_patched (resource : StoredResourceV1 X) (version : RecordVersion) :
    IsPlain .metadata (patchedRow resource version).values := by
  change ∀ key ∈ StoredResourceV1.recordFields, _
  decide

/-- The answer of a conforming store, in either shape, is accepted but for a draft. -/
theorem deprecationResult_conforming {resource : StoredResourceV1 X} {old version : RecordVersion}
    {data : JsonValue} (read : resource.recordVersion = some old) (renewed : version ≠ old)
    (valid : version.IsValid)
    (presented : Presents X .metadata resource.resourceId (patchedRow resource version) data) :
    (deprecationResult ⟨.array [data], [X.collectionRef .metadata]⟩ resource).isOk = true ↔
      resource.state ≠ .draft := by
  rw [← resource.valid.immutable_iff]
  constructor
  · intro accepted
    cases ended : deprecationResult ⟨.array [data], [X.collectionRef .metadata]⟩ resource with
    | error error =>
      rw [ended] at accepted
      cases accepted
    | ok stored =>
      obtain ⟨shape, shaped, rfl⟩ := presented
      obtain ⟨added, stamps, logical⟩ := logicalRecord_present X resource.resourceId
        "structured resource patch Record" (isPlain_patched resource version) shaped
      obtain ⟨_, _, ended⟩ := bind_ok.mp ended
      obtain ⟨record, mapped, ended⟩ := bind_ok.mp ended
      cases mapped
      obtain ⟨_, _, ended⟩ := bind_ok.mp ended
      obtain ⟨values, given, ended⟩ := bind_ok.mp ended
      cases logical.symm.trans given
      obtain ⟨parsed, accepted, -⟩ := bind_ok.mp ended
      obtain ⟨kept, stripped, read⟩ := bind_ok.mp (orInvalid_ok accepted)
      cases (withoutRecordTimestamps_added version (isPlain_patched resource version) stamps).symm.trans
        stripped
      exact fromRecord_deprecated read
  · intro immutable
    rw [deprecationResult_presented immutable read renewed valid presented]
    rfl

theorem deprecateResource_conforming {resource : StoredResourceV1 X} {version : RecordVersion}
    (read : resource.recordVersion = some version) (stores : Stores s resource)
    {result : Except PyError (StoredResourceV1 X)}
    (runs : (deprecateResource resource).run.Runs (reliable X) s result t) :
    result.isOk = true ↔ resource.state ≠ .draft := by
  unfold deprecateResource at runs
  rw [read] at runs
  obtain ⟨row, found, holds⟩ := stores
  obtain ⟨reply, middle, ⟨state, runs, ended⟩, rfl, rfl⟩ := runs
  rw [run_deprecation] at runs
  obtain ⟨answer, after, ⟨key, keyed, conforms⟩, returned, rfl⟩ := runs
  obtain rfl : resource.resourceId = key := Option.some.inj keyed
  have counted : row.version = version := Option.some.inj (holds.2.symm.trans read)
  simp only [found] at conforms
  rw [if_pos counted] at conforms
  obtain ⟨renewed, data, valid, fresh, rfl, presented, rfl⟩ := conforms
  rw [counted] at fresh
  rw [holds.1] at presented
  rw [← deprecationResult_conforming read fresh valid presented, ← returned]
  rfl

/-- A deprecation returns the deprecated resource or changes nothing, whatever its
store answers; a store that conforms makes it return but for a draft. -/
theorem deprecateResource_atomic (resource : StoredResourceV1 X) {version : RecordVersion}
    (read : resource.recordVersion = some version) :
    (∀ records objects s result t,
      (deprecateResource resource).run.Runs (deployed X records objects) s result t →
        match result with
        | .ok stored => IsDeprecated resource stored
        | .error _ => t = s) ∧
    ∀ s, Stores s resource → ∀ result t,
      (deprecateResource resource).run.Runs (reliable X) s result t →
        (result.isOk = true ↔ resource.state ≠ .draft) := by
  refine ⟨?_, fun s stores result t runs => deprecateResource_conforming read stores runs⟩
  intro records objects s result t runs
  unfold deprecateResource at runs
  rw [read] at runs
  obtain ⟨reply, middle, ⟨state, runs, ended⟩, rfl, rfl⟩ := runs
  rw [run_deprecation] at runs
  obtain ⟨answer, after, -, returned, rfl⟩ := runs
  cases reply with
  | error error => exact ended
  | ok stored =>
    obtain ⟨found, -, accepted⟩ := bind_ok.mp returned
    exact deprecationResult_ok accepted

/-- A run over the stores that answer every call. -/
theorem Reference.runs_deprecateResource (resource : StoredResourceV1 Platform.reference) (s : World) :
    ∃ result t, (deprecateResource resource).run.Runs (reliable Platform.reference) s result t :=
  ⟨_, _, (Program.runs_execute answer_any
    ((@uses_deprecateResource _ (fun _ => True) (fun _ => True) resource).mono fun _ issued => issued.answerable)
    trivial).1⟩

/-- Over a conforming store the configuration is deprecated. -/
theorem deprecateResource_atomic_configuration : ∃ stored t,
    (deprecateResource Reference.resource).run.Runs (reliable Platform.reference)
      (Reference.holding Reference.resource) (.ok stored) t ∧
    IsDeprecated Reference.resource stored := by
  have atomic := deprecateResource_atomic Reference.resource (show _ = some (.number 1) from rfl)
  obtain ⟨result, t, runs⟩ := Reference.runs_deprecateResource Reference.resource
    (Reference.holding Reference.resource)
  have returned := (atomic.2 _ (Reference.stores_holding rfl) result t runs).mpr (by decide)
  cases result with
  | error error => cases returned
  | ok stored => exact ⟨stored, t, runs, atomic.1 _ _ _ _ _ runs⟩

/-- A configuration that has not been published yet. -/
def Reference.draft : StoredResourceV1 Platform.reference where
  toStoredResourceFields :=
    { Reference.resource.toStoredResourceFields with state := .draft, immutable := false }
  valid := { Reference.resource.valid with immutable_iff := by decide }

/-- Over a conforming store that holds a draft, deprecating it raises. -/
theorem draft_not_deprecated : Stores (Reference.holding Reference.draft) Reference.draft ∧
    ∃ error t, (deprecateResource Reference.draft).run.Runs (reliable Platform.reference)
      (Reference.holding Reference.draft) (.error error) t := by
  refine ⟨Reference.stores_holding rfl, ?_⟩
  obtain ⟨result, t, runs⟩ := Reference.runs_deprecateResource Reference.draft
    (Reference.holding Reference.draft)
  have conforming := deprecateResource_conforming (show _ = some (.number 1) from rfl)
    (Reference.stores_holding rfl) runs
  cases result with
  | error error => exact ⟨error, t, runs⟩
  | ok stored => exact absurd (conforming.mp rfl) (by decide)

end ConfigArtifact
