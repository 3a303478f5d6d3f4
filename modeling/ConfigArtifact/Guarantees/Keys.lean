import ConfigArtifact.Contracts.Documents
import ConfigArtifact.Guarantees.CompareAndSet
import ConfigArtifact.Guarantees.History
import ConfigArtifact.Guarantees.Identities
import ConfigArtifact.Guarantees.Provenance

/-! The keys that the provider declares are kept by the ids that the package derives.

A row is stored under an id that is made of its key columns, so the store's own check of
the id is a check of every declared key: no record is ever refused, after its Object has
been committed, for a unique index that its id does not tell of. Columns that are not
declared as mutable stay as they were put.
-/

set_option autoImplicit false

namespace ConfigArtifact

open Interaction Relation

variable {X : Platform} {first s t : World} {admits : World → Request X → Prop}

/-- The values are those of a record that the package puts under the id. -/
def IsPutUnder (X : Platform) (id : String) (values : Mapping) : Collection → Prop
  | .metadata => ∃ resource : StoredResourceV1 X, values = resource.toRecord ∧ resource.resourceId = id
  | .channels => ∃ pointer : ResourceChannelV1, values = pointer.toRecord X ∧
      pointer.channelVersionId X = id
  | .provenance => ∃ resource : StoredResourceV1 X, resource.provenanceRecord = some values ∧
      resource.resourceId = id
  | .orphanCandidates => ∃ orphan : OrphanCandidateV1 X, values = orphan.toRecord X ∧
      orphan.candidateId X = id

def columnsOf (key : List String) (values : Mapping) : List JsonValue := key.map (entryOf values)

section

variable {collection : Collection} {id other : String} {values values' : Mapping}

theorem isPutUnder_row (consistent : Consistent X s) (mirrors : Mirrors X s) {row : Row}
    (found : s.row? collection id = some row) : IsPutUnder X id row.values collection := by
  cases collection with
  | metadata =>
    obtain ⟨resource, ⟨values, -⟩, keyed, -⟩ := consistent.metadata id row found
    exact ⟨resource, values, keyed⟩
  | channels =>
    obtain ⟨pointer, values, -, keyed⟩ := consistent.channels id row found
    exact ⟨pointer, values, keyed⟩
  | provenance =>
    obtain ⟨other, there⟩ := Option.ne_none_iff_exists'.mp (consistent.provenance id row found)
    obtain ⟨resource, -, stores, keyed, -⟩ := consistent.stores there
    have mirrored := mirrors resource stores
    rw [keyed, found] at mirrored
    exact ⟨resource, mirrored.symm, keyed⟩
  | orphanCandidates =>
    obtain ⟨orphan, values, -, keyed⟩ := consistent.orphans id row found
    exact ⟨orphan, values, keyed⟩

/-- Values that agree on a key agree on each of its columns. -/
theorem entryOf_of_columns {key : List String} (same : columnsOf key values = columnsOf key values') :
    ∀ field ∈ key, entryOf values field = entryOf values' field := by
  unfold columnsOf at same
  exact List.map_inj_left.mp same

theorem resourceId_of_columns {resource resource' : StoredResourceV1 X}
    (same : ∀ field ∈ ["namespace", "kind", "name", "version"],
      entryOf resource.toRecord field = entryOf resource'.toRecord field) :
    resource.resourceId = resource'.resourceId := by
  have space : resource.identity.namespace = resource'.identity.namespace :=
    JsonValue.str.inj (same "namespace" (by decide))
  have kind : resource.identity.kind = resource'.identity.kind :=
    JsonValue.str.inj (same "kind" (by decide))
  have name : resource.identity.name = resource'.identity.name :=
    JsonValue.str.inj (same "name" (by decide))
  have version : resource.identity.version = resource'.identity.version :=
    JsonValue.str.inj (same "version" (by decide))
  have canonical : resource.identity.canonical = resource'.identity.canonical := by
    unfold ResourceIdentity.canonical
    rw [space, kind, name, version]
  exact congrArg (ResourceIdentity.resourceId X) (ResourceIdentity.canonical_inj canonical)

theorem channelVersionId_of_columns {pointer pointer' : ResourceChannelV1}
    (same : ∀ field ∈ ["namespace", "kind", "name", "channel", "pointerVersion"],
      entryOf (pointer.toRecord X) field = entryOf (pointer'.toRecord X) field) :
    pointer.channelVersionId X = pointer'.channelVersionId X := by
  have space : pointer.key.namespace = pointer'.key.namespace :=
    JsonValue.str.inj (same "namespace" (by decide))
  have kind : pointer.key.kind = pointer'.key.kind := JsonValue.str.inj (same "kind" (by decide))
  have name : pointer.key.name = pointer'.key.name := JsonValue.str.inj (same "name" (by decide))
  have channel : pointer.key.channel = pointer'.key.channel :=
    JsonValue.str.inj (same "channel" (by decide))
  have version : pointer.pointerVersion = pointer'.pointerVersion :=
    natJson_injective (same "pointerVersion" (by decide))
  unfold ResourceChannelFields.channelVersionId
  rw [space, kind, name, channel, version]

/-- Records with the same values of a declared key are put under the same id. -/
theorem id_of_columns (record : IsPutUnder X id values collection)
    (record' : IsPutUnder X other values' collection) {key : List String}
    (declared : key ∈ (documentOf collection).uniqueKeys)
    (same : columnsOf key values = columnsOf key values') : id = other := by
  have columns := entryOf_of_columns same
  cases collection with
  | metadata =>
    obtain ⟨resource, rfl, rfl⟩ := record
    obtain ⟨resource', rfl, rfl⟩ := record'
    have keys : key = ["resourceId"] ∨ key = ["namespace", "kind", "name", "version"] := by
      simpa [documentOf, storedResourceDocument, SchemaDocument.uniqueKeys] using declared
    rcases keys with rfl | rfl
    · exact JsonValue.str.inj (columns "resourceId" (by decide))
    · exact resourceId_of_columns columns
  | channels =>
    obtain ⟨pointer, rfl, rfl⟩ := record
    obtain ⟨pointer', rfl, rfl⟩ := record'
    have keys : key = ["channelVersionId"] ∨
        key = ["namespace", "kind", "name", "channel", "pointerVersion"] := by
      simpa [documentOf, resourceChannelDocument, SchemaDocument.uniqueKeys] using declared
    rcases keys with rfl | rfl
    · exact JsonValue.str.inj (columns "channelVersionId" (by decide))
    · exact channelVersionId_of_columns columns
  | provenance =>
    obtain ⟨resource, carried, rfl⟩ := record
    obtain ⟨resource', carried', rfl⟩ := record'
    -- Both keys of a provenance row are the id of its resource.
    obtain ⟨provenance, -, rfl⟩ := Option.map_eq_some_iff.mp carried
    obtain ⟨provenance', -, rfl⟩ := Option.map_eq_some_iff.mp carried'
    have keys : key = ["provenanceId"] ∨ key = ["resourceId"] := by
      simpa [documentOf, provenanceDocument, SchemaDocument.uniqueKeys] using declared
    rcases keys with rfl | rfl
    · exact JsonValue.str.inj (columns "provenanceId" (by decide))
    · exact JsonValue.str.inj (columns "resourceId" (by decide))
  | orphanCandidates =>
    obtain ⟨orphan, rfl, rfl⟩ := record
    obtain ⟨orphan', rfl, rfl⟩ := record'
    obtain rfl : key = ["candidateId"] := by
      simpa [documentOf, orphanCandidateDocument, SchemaDocument.uniqueKeys] using declared
    exact JsonValue.str.inj (columns "candidateId" (by decide))

end

/-- A row stays, and so does each of its columns that is not declared as mutable. -/
theorem Evolves.immutable (evolves : Evolves X s t) (consistent : Consistent X s)
    {collection : Collection} {id : String} {row : Row} (found : s.row? collection id = some row) :
    ∃ later, t.row? collection id = some later ∧
      ∀ field, field ∉ (documentOf collection).mutableFields →
        later.values.lookup field = row.values.lookup field := by
  by_cases metadata : collection = .metadata
  · subst metadata
    obtain ⟨resource, holds, keyed, -⟩ := consistent.metadata id row found
    obtain ⟨last, ⟨later, kept, values, -⟩, succeeds⟩ :=
      evolves.stored resource ⟨row, keyed ▸ found, holds⟩
    refine ⟨later, ?_, fun field fixed => ?_⟩
    · rw [← keyed, ← succeeds.resourceId]
      exact kept
    · have same : last.toStoredResourceFields = _ := succeeds.same
      have other : (field == "state") = false := by simpa [documentOf, storedResourceDocument] using fixed
      rw [values, holds.1, same]
      simp only [StoredResourceFields.toRecord, List.lookup_cons, other]
      rfl
  · exact ⟨row, evolves.rows collection metadata id row found, fun _ _ => rfl⟩

section

variable {ι : Type} [DecidableEq ι] {pool : Clients X ι}

/-- Whatever fails, no two rows share a declared key, and only mutable columns change. -/
theorem schemas_respected (fresh : Fresh X first)
    (reachable : Pool.Reachable (deployment (faulty X) admits) first pool) :
    (∀ collection, ∀ key ∈ (documentOf collection).uniqueKeys, ∀ id row id' row',
      pool.state.row? collection id = some row → pool.state.row? collection id' = some row' →
      columnsOf key row.values = columnsOf key row'.values → id = id') ∧
    (∀ collection, ∀ key ∈ (documentOf collection).uniqueKeys, ∀ id values,
      IsPutUnder X id values collection → ∀ id' row, pool.state.row? collection id' = some row →
      columnsOf key values = columnsOf key row.values → pool.state.row? collection id ≠ none) ∧
    ∀ later, Pool.Steps (deployment (faulty X) admits) pool later → ∀ collection id row,
      pool.state.row? collection id = some row → ∃ last, later.state.row? collection id = some last ∧
        ∀ field, field ∉ (documentOf collection).mutableFields →
          last.values.lookup field = row.values.lookup field := by
  have covers := @deployment_sound X (Policy.unrestricted X) True False first (faulty X) admits ι _
    serving_of_faulty (serves_unrestricted admits) fresh.consistent
  have sound := covers reachable
  have consistent := sound.invariant.1
  have mirrors : Mirrors X pool.state := Changes.mirrors sound.moved fresh.mirrors
  refine ⟨?_, ?_, ?_⟩
  · intro collection key declared id row id' row' found found' same
    exact id_of_columns (isPutUnder_row consistent mirrors found)
      (isPutUnder_row consistent mirrors found') declared same
  · intro collection key declared id values record id' row found same
    obtain rfl := id_of_columns record (isPutUnder_row consistent mirrors found) declared same
    rw [found]
    exact Option.some_ne_none _
  · intro later steps collection id row found
    obtain ⟨more, traced⟩ := (covers (reachable.trans steps)).traced_steps steps
    exact (changes_of_traced traced).evolves.immutable consistent found

end

/-- The row of the configuration keeps all columns but its state when it is deprecated. -/
theorem schemas_respected_deprecation :
    let pool := simulate Platform.reference [] publishing World.empty
    let later := simulate Platform.reference [] (publishing ++ deprecating) World.empty
    let id := Reference.identity.resourceId Platform.reference
    ∃ row last, pool.state.row? .metadata id = some row ∧ later.state.row? .metadata id = some last ∧
      ∀ field, field ∉ ["state"] → last.values.lookup field = row.values.lookup field := by
  intro pool later id
  have published : Registering [] publishing := by
    intro request member
    rw [List.mem_singleton.mp member]
    trivial
  have deprecated : Registering [] deprecating := by
    intro request member
    rw [List.mem_singleton.mp member]
    trivial
  have reachable := (simulate_reachable (isUniform_empty []) published).mono faulty_of_reliable
  have steps := (simulate_steps (isUniform_empty []) published deprecated).mono faulty_of_reliable
  obtain ⟨row, found⟩ : ∃ row, pool.state.row? .metadata id = some row :=
    Option.isSome_iff_exists.mp (by decide +kernel)
  obtain ⟨-, -, stays⟩ := schemas_respected (fresh_empty _) reachable
  obtain ⟨last, kept, same⟩ := stays later steps .metadata id row found
  exact ⟨row, last, found, kept, same⟩

end ConfigArtifact
