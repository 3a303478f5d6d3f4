import ConfigArtifact.Guarantees.CompareAndSet

/-! Metadata and provenance stand or fall together.

A provenance row is what its resource's row says of its provenance. Both are
committed by one transaction, and nothing that happens to either later on
touches what they have in common.
-/

set_option autoImplicit false

namespace ConfigArtifact

open Interaction Relation

variable {X : Platform} {P : Policy X} {s t : World}

/-- The provenance row of every stored resource is the record its provenance makes, if it has any. -/
def Mirrors (X : Platform) (world : World) : Prop :=
  ∀ resource : StoredResourceV1 X, Stores world resource →
    (world.row? .provenance resource.resourceId).map Row.values = resource.provenanceRecord

theorem Fresh.mirrors (fresh : Fresh X s) : Mirrors X s := by
  rintro resource ⟨row, found, -⟩
  rw [fresh.rows] at found
  cases found

theorem Mirrors.congr (mirrors : Mirrors X s)
    (metadata : ∀ key, t.row? .metadata key = s.row? .metadata key)
    (provenance : ∀ key, t.row? .provenance key = s.row? .provenance key) : Mirrors X t := by
  rintro resource ⟨row, found, holds⟩
  rw [provenance]
  exact mirrors resource ⟨row, metadata _ ▸ found, holds⟩

theorem Mirrors.publish (mirrors : Mirrors X s) {added : StoredResourceV1 X}
    {version stamp : RecordVersion} (bare : s.row? .provenance added.resourceId = none) :
    Mirrors X (s.publish added version stamp) := by
  rintro resource ⟨row, found, holds⟩
  rw [row?_publish_metadata] at found
  rw [row?_publish_provenance]
  split at found
  · next same =>
    rw [if_pos same, same, bare, Option.or_none, Option.map_map]
    cases found
    obtain rfl := holds.unique (Row.holds_record added version)
    change (added.provenanceRecord.map fun record => record) = added.provenanceRecord
    exact Option.map_id'
  · next different =>
    rw [if_neg different]
    exact mirrors resource ⟨row, found, holds⟩

theorem Mirrors.deprecate (mirrors : Mirrors X s) {old : StoredResourceV1 X} (stores : Stores s old)
    (immutable : old.immutable = true) (version : RecordVersion) :
    Mirrors X (s.deprecate old immutable version) := by
  rintro resource ⟨row, found, holds⟩
  have still : (s.deprecate old immutable version).row? .provenance resource.resourceId =
      s.row? .provenance resource.resourceId := by simp [World.deprecate, World.row?_setRow]
  unfold World.deprecate at found
  rw [World.row?_setRow] at found
  rw [still]
  split at found
  · cases found
    obtain rfl := holds.unique (Row.holds_deprecated old immutable version)
    exact mirrors old stores
  · exact mirrors resource ⟨row, found, holds⟩

theorem Change.mirrors (change : Change P s t) (mirrors : Mirrors X s) : Mirrors X t := by
  cases change with
  | registered absent => exact mirrors.congr (fun _ => rfl) fun _ => rfl
  | committed absent object permitted => exact mirrors.congr (fun _ => rfl) fun _ => rfl
  | published absent bare published backed permitted => exact mirrors.publish bare
  | deprecated immutable stores published renewed permitted =>
    exact mirrors.deprecate stores immutable _
  | promoted absent follows target =>
    exact mirrors.congr (fun _ => by simp [World.promote, World.row?_setRow])
      fun _ => by simp [World.promote, World.row?_setRow]
  | reported absent =>
    exact mirrors.congr (fun _ => by simp [World.report, World.row?_setRow])
      fun _ => by simp [World.report, World.row?_setRow]

theorem Changes.mirrors (changes : Changes P s t) (mirrors : Mirrors X s) : Mirrors X t := by
  induction changes with
  | refl => exact mirrors
  | tail _ change ih => exact change.mirrors ih

/-- What the two rows of a resource say, read off the records they hold. -/
structure Agree (X : Platform) (world : World) (key : String) : Prop where
  present : (∃ row, world.row? .provenance key = some row) ↔
    ∃ row, world.row? .metadata key = some row ∧ entryOf row.values "provenance" ≠ .null
  same : ∀ row metadata, world.row? .provenance key = some row →
    world.row? .metadata key = some metadata → ∃ provenance : ProvenanceV1 X,
      entryOf metadata.values "provenance" = .object provenance.toDict ∧
      entryOf row.values "document" = .object provenance.toDict ∧
      entryOf row.values "createdAt" = entryOf metadata.values "createdAt"

theorem entryOf_provenance (resource : StoredResourceV1 X) :
    entryOf resource.toRecord "provenance" =
      optionalJson (fun provenance : ProvenanceV1 X => .object provenance.toDict) resource.provenance :=
  rfl

theorem Mirrors.agree (mirrors : Mirrors X s) (consistent : Consistent X s) (key : String) :
    Agree X s key where
  present := by
    constructor
    · rintro ⟨row, found⟩
      obtain ⟨metadata, stored⟩ := Option.ne_none_iff_exists'.mp (consistent.provenance key row found)
      obtain ⟨resource, holds, stores, rfl, -⟩ := consistent.stores stored
      have recorded := mirrors resource stores
      rw [found, Option.map_some] at recorded
      obtain ⟨provenance, carried, -⟩ := Option.map_eq_some_iff.mp recorded.symm
      refine ⟨metadata, stored, ?_⟩
      rw [holds.1, entryOf_provenance, carried]
      simp
    · rintro ⟨metadata, stored, carried⟩
      -- A row whose document is not null is of a resource that has provenance.
      obtain ⟨resource, holds, stores, rfl, -⟩ := consistent.stores stored
      have recorded := mirrors resource stores
      rw [holds.1, entryOf_provenance] at carried
      cases given : resource.provenance with
      | none =>
        rw [given] at carried
        exact absurd rfl carried
      | some provenance =>
        unfold StoredResourceV1.provenanceRecord at recorded
        rw [given, Option.map_some] at recorded
        obtain ⟨row, found, -⟩ := Option.map_eq_some_iff.mp recorded
        exact ⟨row, found⟩
  same := by
    intro row metadata found stored
    obtain ⟨resource, holds, stores, rfl, -⟩ := consistent.stores stored
    have recorded := mirrors resource stores
    rw [found, Option.map_some] at recorded
    obtain ⟨provenance, carried, written⟩ := Option.map_eq_some_iff.mp recorded.symm
    refine ⟨provenance, ?_, ?_, ?_⟩
    · rw [holds.1, entryOf_provenance, carried, optionalJson_some]
    · rw [← written]
      rfl
    · rw [← written, holds.1]
      rfl

section

variable {ι : Type} [DecidableEq ι] {first : World} {admits : World → Request X → Prop}

/-- Whatever fails and whoever stops, a provenance row is there exactly with a metadata
row that carries it. -/
theorem provenance_mirrors_metadata (fresh : Fresh X first) {pool : Clients X ι}
    (reachable : Pool.Reachable (deployment (faulty X) admits) first pool) (key : String) :
    Agree X pool.state key := by
  have sound : Pool.Sound (deployment (faulty X) admits) (following (Policy.unrestricted X) first)
      (Request.Ends True False (Policy.unrestricted X) first) first pool :=
    deployment_sound serving_of_faulty (serves_unrestricted admits) fresh.consistent reachable
  have moved : Changes (Policy.unrestricted X) first pool.state := sound.moved
  exact (moved.mirrors fresh.mirrors).agree sound.invariant.1 key

/-- Who built the configuration, as its publisher says. -/
def Reference.provenance : ProvenanceV1 Platform.reference where
  producer := "builder"
  producerVersion := "1"
  sourceDigests := []
  buildId := none
  validationVersion := none
  attributes := []
  valid := {
    producer := by decide
    producerVersion := by decide
    sourceDigests := ⟨by decide, by decide, by decide⟩
    digests := by decide
    buildId := by decide
    validationVersion := by decide
    attributes := by decide }

/-- A configuration is published with its provenance and then deprecated. -/
def provenanceRun : List (Turn Bool (Request Platform.reference)) :=
  Turn.alone false (.publishConfiguration
    { Reference.configuration with provenance := some Reference.provenance }) 4 ++
  Turn.alone true (.deprecate .configuration Reference.identity) 2

/-- The deprecated configuration has its provenance row, as its metadata row has it. -/
theorem provenance_mirrors_metadata_deprecation :
    let pool := simulate Platform.reference [] provenanceRun World.empty
    let key := Reference.identity.resourceId Platform.reference
    (∃ row, pool.state.row? .provenance key = some row) ∧
      ∃ row, pool.state.row? .metadata key = some row ∧
        entryOf row.values "state" = .str "DEPRECATED" ∧ entryOf row.values "provenance" ≠ .null := by
  intro pool key
  have registering : Registering [] provenanceRun := by
    intro request member
    rcases List.mem_pair.mp member with rfl | rfl <;> trivial
  have reachable := (simulate_reachable (isUniform_empty []) registering).mono faulty_of_reliable
  have agree := provenance_mirrors_metadata (fresh_empty _) reachable key
  have read : (pool.state.row? .metadata key).map (fun row =>
      (entryOf row.values "state", entryOf row.values "provenance")) =
        some (.str "DEPRECATED", .object Reference.provenance.toDict) := by decide +kernel
  obtain ⟨row, found, entries⟩ := Option.map_eq_some_iff.mp read
  obtain ⟨stated, carried⟩ := Prod.mk.inj entries
  have present : entryOf row.values "provenance" ≠ .null := by simp [carried]
  exact ⟨agree.present.mpr ⟨row, found, present⟩, row, found, stated, present⟩

end

end ConfigArtifact
