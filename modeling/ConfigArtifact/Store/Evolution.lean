import ConfigArtifact.Store.Change

/-! What every run of changes preserves.

Consistency is an invariant of each change, so of every run; what an earlier
state holds, a later one still holds, except that a published resource may have
been deprecated once. The versions of every channel stay without gaps.
-/

set_option autoImplicit false

namespace ConfigArtifact

open Relation

variable {X : Platform} {P : Policy X} {s t u : World}

theorem Row.holds_record (resource : StoredResourceV1 X) (version : RecordVersion) :
    (⟨resource.toRecord, version⟩ : Row).Holds (resource.withVersion (some version)) := ⟨rfl, rfl⟩

theorem Row.holds_deprecated (resource : StoredResourceV1 X) (immutable : resource.immutable = true)
    (version : RecordVersion) :
    (⟨(resource.deprecatedAt immutable version).toRecord, version⟩ : Row).Holds
      (resource.deprecatedAt immutable version) := ⟨rfl, rfl⟩

theorem Stores.unique {resource other : StoredResourceV1 X} (stores : Stores s resource)
    (again : Stores s other) (same : other.resourceId = resource.resourceId) : other = resource := by
  obtain ⟨row, found, holds⟩ := stores
  obtain ⟨row', found', holds'⟩ := again
  rw [same, found] at found'
  cases found'
  exact holds'.unique holds

theorem stores_of_row {key : String} {row : Row} {resource : StoredResourceV1 X}
    (found : s.row? .metadata key = some row) (holds : row.Holds resource)
    (keyed : resource.resourceId = key) : Stores s resource := ⟨row, keyed ▸ found, holds⟩

theorem immutable_of_published {resource : StoredResourceV1 X} (published : resource.state = .published) :
    resource.immutable = true := resource.valid.immutable_iff.mpr (by simp [published])

/-- What a resource may have become since it was stored. -/
def Succeeds (resource later : StoredResourceV1 X) : Prop :=
  later = resource ∨ SameRecord resource later ∧ resource.state = .published ∧
    later.state = .deprecated ∧ later.recordVersion ≠ resource.recordVersion

namespace Succeeds

variable {first second third : StoredResourceV1 X}

theorem same (succeeds : Succeeds first second) : SameRecord first second := by
  rcases succeeds with rfl | ⟨same, -⟩
  · exact .refl _
  · exact same

theorem resourceId (succeeds : Succeeds first second) : second.resourceId = first.resourceId :=
  succeeds.same.resourceId

theorem trans (one : Succeeds first second) (two : Succeeds second third) : Succeeds first third := by
  rcases one with rfl | ⟨same, published, deprecated, renewed⟩
  · exact two
  · rcases two with rfl | ⟨-, again, -⟩
    · exact Or.inr ⟨same, published, deprecated, renewed⟩
    · rw [deprecated] at again
      cases again

/-- A deprecated resource has no other successor. -/
theorem eq_of_deprecated (succeeds : Succeeds first second) (ended : first.state = .deprecated) :
    second = first := by
  rcases succeeds with same | ⟨-, published, -⟩
  · exact same
  · rw [ended] at published
    cases published

theorem eq_of_version (succeeds : Succeeds first second)
    (same : second.recordVersion = first.recordVersion) : second = first := by
  rcases succeeds with same | ⟨-, -, -, renewed⟩
  · exact same
  · exact absurd same renewed

end Succeeds

theorem Change.stored (change : Change P s t) {resource : StoredResourceV1 X}
    (stores : Stores s resource) : ∃ later, Stores t later ∧ Succeeds resource later := by
  obtain ⟨row, found, holds⟩ := stores
  rcases change.metadata resource.resourceId with same | ⟨_, _, _, absent, _⟩ |
    ⟨stored, immutable, version, keyed, stores, published, renewed, _, changed⟩
  · exact ⟨resource, ⟨row, same.trans found, holds⟩, Or.inl rfl⟩
  · rw [absent] at found
    cases found
  · obtain rfl := stores.unique ⟨row, found, holds⟩ keyed.symm
    refine ⟨resource.deprecatedAt immutable version, ⟨_, changed, Row.holds_deprecated _ _ _⟩, ?_⟩
    exact Or.inr ⟨sameRecord_deprecatedAt _ _ _, published, rfl, renewed⟩

theorem Change.keeps_metadata (change : Change P s t) {key : String}
    (found : s.row? .metadata key ≠ none) : t.row? .metadata key ≠ none := by
  rcases change.metadata key with same | ⟨_, _, _, absent, _⟩ | ⟨_, _, _, _, _, _, _, _, changed⟩
  · rwa [same]
  · exact absurd absent found
  · rw [changed]
    exact Option.some_ne_none _

theorem IsBacked.congr {resource other : StoredResourceV1 X} (backed : IsBacked s resource)
    (same : SameRecord resource other) : IsBacked s other := by
  obtain ⟨object, found, backs⟩ := backed
  unfold SameRecord at same
  refine ⟨object, by rwa [same], ?_, ?_, ?_, ?_⟩ <;> rw [same]
  · exact backs.reference
  · exact backs.digest
  · exact backs.byteLength
  · exact backs.mediaType

theorem IsBacked.later {resource : StoredResourceV1 X} (backed : IsBacked s resource)
    (change : Change P s t) : IsBacked t resource := by
  obtain ⟨object, found, backs⟩ := backed
  exact ⟨object, change.keeps_object found, backs⟩

/-- Every change keeps the stores consistent. -/
theorem Change.consistent (change : Change P s t) (consistent : Consistent X s) :
    Consistent X t where
  metadata := by
    intro key row found
    rcases change.metadata key with same | ⟨resource, version, keyed, -, published, -, -, changed⟩ |
      ⟨resource, immutable, version, keyed, -, -, -, -, changed⟩
    · exact consistent.metadata key row (same ▸ found)
    · rw [changed] at found
      cases found
      refine ⟨_, Row.holds_record resource version, keyed, ?_⟩
      change resource.state ≠ .draft
      simp [published]
    · rw [changed] at found
      cases found
      exact ⟨_, Row.holds_deprecated resource immutable version, keyed,
        fun draft => by cases draft⟩
  channels := by
    intro key row found
    rcases change.channels key with same | ⟨pointer, version, keyed, -, -, -, changed⟩
    · exact consistent.channels key row (same ▸ found)
    · rw [changed] at found
      cases found
      exact ⟨pointer.withVersion (some version), rfl, rfl, keyed⟩
  orphans := by
    intro key row found
    rcases change.orphans key with same | ⟨orphan, version, keyed, -, changed⟩
    · exact consistent.orphans key row (same ▸ found)
    · rw [changed] at found
      cases found
      exact ⟨orphan.withVersion (some version), rfl, rfl, keyed⟩
  provenance := by
    intro key row found
    rcases change.provenance key with same | ⟨_, _, _, _, _, _, _, published, _⟩
    · exact change.keeps_metadata (consistent.provenance key row (same ▸ found))
    · rw [published]
      exact Option.some_ne_none _
  objects := by
    intro objectId object found
    rcases change.objects objectId with same | ⟨resourceId, added, named, -, valid, -, changed⟩
    · exact consistent.objects objectId object (same ▸ found)
    · rw [changed] at found
      cases found
      rw [named]
      exact valid.reference
  intact := by
    intro objectId object found
    rcases change.objects objectId with same | ⟨resourceId, added, named, -, valid, -, changed⟩
    · exact consistent.intact objectId object (same ▸ found)
    · rw [changed] at found
      cases found
      exact valid.intact
  accepted := by
    intro objectId object found
    rcases change.objects objectId with same | ⟨resourceId, added, named, -, valid, -, changed⟩
    · exact consistent.accepted objectId object (same ▸ found)
    · rw [changed] at found
      cases found
      exact valid.accepted
  backed := by
    rintro resource ⟨row, found, holds⟩ artifact
    -- Published rows come with their Object, and a deprecation keeps the reference to it.
    rcases change.metadata resource.resourceId with same |
      ⟨added, version, -, -, -, backed, -, changed⟩ |
      ⟨old, immutable, version, -, stores, -, -, -, changed⟩
    · exact (consistent.backed resource ⟨row, same ▸ found, holds⟩ artifact).later change
    · rw [changed] at found
      cases found
      obtain rfl := holds.unique (Row.holds_record added version)
      exact ((backed artifact).congr (sameRecord_withVersion added _)).later change
    · rw [changed] at found
      cases found
      obtain rfl := holds.unique (Row.holds_deprecated old immutable version)
      exact ((consistent.backed old stores artifact).congr
        (sameRecord_deprecatedAt old immutable version)).later change

theorem Changes.consistent (changes : Changes P s t) (consistent : Consistent X s) :
    Consistent X t := by
  induction changes with
  | refl => exact consistent
  | tail _ change ih => exact change.consistent ih

/-- What a later state still holds of an earlier one. -/
structure Evolves (X : Platform) (s t : World) : Prop where
  stored : ∀ resource : StoredResourceV1 X, Stores s resource →
    ∃ later, Stores t later ∧ Succeeds resource later
  metadata : ∀ key, s.row? .metadata key ≠ none → t.row? .metadata key ≠ none
  rows : ∀ collection, collection ≠ .metadata → ∀ key row, s.row? collection key = some row →
    t.row? collection key = some row
  objects : ∀ objectId object, s.object? objectId = some object → t.object? objectId = some object
  payloads : ∀ token source, s.payload? token = some source → t.payload? token = some source

theorem Evolves.refl (X : Platform) (s : World) : Evolves X s s where
  stored := fun resource stores => ⟨resource, stores, Or.inl rfl⟩
  metadata := fun _ found => found
  rows := fun _ _ _ _ found => found
  objects := fun _ _ found => found
  payloads := fun _ _ found => found

theorem Evolves.trans (one : Evolves X s t) (two : Evolves X t u) : Evolves X s u where
  stored := by
    intro resource stores
    obtain ⟨middle, stores, first⟩ := one.stored resource stores
    obtain ⟨later, stores, second⟩ := two.stored middle stores
    exact ⟨later, stores, first.trans second⟩
  metadata := fun key found => two.metadata key (one.metadata key found)
  rows := fun collection other key row found =>
    two.rows collection other key row (one.rows collection other key row found)
  objects := fun objectId object found => two.objects objectId object (one.objects objectId object found)
  payloads := fun token source found => two.payloads token source (one.payloads token source found)

theorem Change.evolves (change : Change P s t) : Evolves X s t where
  stored := fun _ stores => change.stored stores
  metadata := fun _ found => change.keeps_metadata found
  rows := fun _ other _ _ found => change.kept other found
  objects := fun _ _ found => change.keeps_object found
  payloads := fun _ _ found => change.payloads found

/-- Whatever happens between two states, the later one holds what the earlier one held. -/
theorem Changes.evolves (changes : Changes P s t) : Evolves X s t := by
  induction changes with
  | refl => exact .refl X s
  | tail _ change ih => exact ih.trans change.evolves

theorem Evolves.points (evolves : Evolves X s t) {pointer : ResourceChannelV1}
    (points : Points X s pointer) : Points X t pointer := by
  obtain ⟨row, found, holds⟩ := points
  exact ⟨row, evolves.rows .channels (by decide) _ _ found, holds⟩

theorem Evolves.live (evolves : Evolves X s t) {resource : StoredResourceV1 X}
    (live : Live s resource) : Live t resource := by
  obtain ⟨stored, stores, same⟩ := live
  obtain ⟨later, stores, succeeds⟩ := evolves.stored stored stores
  exact ⟨later, stores, same.trans succeeds.same⟩

theorem Evolves.hasTarget (evolves : Evolves X s t) {pointer : ResourceChannelV1}
    (target : HasTarget X s pointer) : HasTarget X t pointer := by
  obtain ⟨resource, stores, keyed, names⟩ := target
  obtain ⟨later, stores, succeeds⟩ := evolves.stored resource stores
  refine ⟨later, stores, succeeds.resourceId.trans keyed, ?_⟩
  rwa [succeeds.same.identity]

/-- The pointer versions of every channel are the first ones, without gaps. -/
def GapFree (X : Platform) (world : World) : Prop :=
  ∀ key : ChannelKey, ∃ last : Nat, ∀ version : Nat,
    (∃ pointer, Points X world pointer ∧ pointer.key = key ∧ pointer.pointerVersion = version) ↔
      1 ≤ version ∧ version ≤ last

theorem Fresh.gapFree (fresh : Fresh X s) : GapFree X s := by
  refine fun key => ⟨0, fun version => ⟨?_, fun bounds => by omega⟩⟩
  rintro ⟨pointer, ⟨row, found, -⟩, -⟩
  rw [fresh.rows] at found
  cases found

/-- A row of the channels holds one pointer only. -/
theorem ResourceChannelV1.eq_of_record {pointer other : ResourceChannelV1}
    (same : pointer.toRecord X = other.toRecord X)
    (versions : pointer.recordVersion = other.recordVersion) : pointer = other := by
  have first := pointer.fromRecord_toRecord X pointer.recordVersion
  have second := other.fromRecord_toRecord X pointer.recordVersion
  rw [same, second] at first
  have equal := (Except.ok.inj first).symm
  rwa [pointer.withVersion_self, versions, other.withVersion_self] at equal

theorem Points.unique {pointer other : ResourceChannelV1} (points : Points X s pointer)
    (again : Points X s other)
    (same : other.channelVersionId X = pointer.channelVersionId X) : other = pointer := by
  obtain ⟨row, found, values, version⟩ := points
  obtain ⟨row', found', values', version'⟩ := again
  rw [same, found] at found'
  cases found'
  exact ResourceChannelV1.eq_of_record (X := X) (values'.symm.trans values) (version'.trans version.symm)

/-- A pointer that was not there is the one the change has inserted. -/
theorem Change.points (change : Change P s t) {pointer : ResourceChannelV1}
    (points : Points X t pointer) : Points X s pointer ∨
      s.row? .channels (pointer.channelVersionId X) = none ∧ Follows X s pointer ∧
        (P.live → HasTarget X s pointer) := by
  obtain ⟨row, found, values, version⟩ := points
  rcases change.channels (pointer.channelVersionId X) with same |
    ⟨added, counted, -, absent, follows, target, changed⟩
  · exact Or.inl ⟨row, same ▸ found, values, version⟩
  · rw [changed] at found
    cases found
    obtain rfl : added.withVersion (some counted) = pointer :=
      ResourceChannelV1.eq_of_record (X := X) values version.symm
    exact Or.inr ⟨absent, follows, target⟩

theorem channelVersionId_congr {pointer other : ResourceChannelV1} (same : pointer.key = other.key)
    (version : pointer.pointerVersion = other.pointerVersion) :
    pointer.channelVersionId X = other.channelVersionId X := by
  unfold ResourceChannelFields.channelVersionId
  rw [same, version]

theorem Change.gapFree (change : Change P s t) (gapFree : GapFree X s) : GapFree X t := by
  intro key
  obtain ⟨last, counted⟩ := gapFree key
  -- A pointer of this channel that the change inserts has the next version.
  have next : ∀ pointer, Points X t pointer → pointer.key = key →
      Points X s pointer ∨ pointer.pointerVersion = last + 1 := by
    intro pointer points keyed
    rcases change.points points with earlier | ⟨absent, follows, -⟩
    · exact Or.inl earlier
    · have fresh : ¬(1 ≤ pointer.pointerVersion ∧ pointer.pointerVersion ≤ last) := by
        intro bounds
        obtain ⟨other, ⟨row, found, -⟩, same, version⟩ := (counted _).mpr bounds
        rw [channelVersionId_congr (same.trans keyed.symm) version, absent] at found
        cases found
      have positive := pointer.valid.pointerVersion
      rcases follows with first | ⟨previous, stored, same, version⟩
      · exact Or.inr (by omega)
      · have := (counted _).mp ⟨previous, stored, same.trans keyed, rfl⟩
        exact Or.inr (by omega)
  by_cases grown : ∃ pointer, Points X t pointer ∧ pointer.key = key ∧
      pointer.pointerVersion = last + 1
  · refine ⟨last + 1, fun version => ⟨?_, fun bounds => ?_⟩⟩
    · rintro ⟨pointer, points, keyed, rfl⟩
      rcases next pointer points keyed with earlier | newest
      · have := (counted _).mp ⟨pointer, earlier, keyed, rfl⟩
        omega
      · omega
    · by_cases newest : version = last + 1
      · subst newest
        exact grown
      · obtain ⟨pointer, points, rest⟩ := (counted version).mpr (by omega)
        exact ⟨pointer, change.evolves.points points, rest⟩
  · refine ⟨last, fun version => ⟨?_, fun bounds => ?_⟩⟩
    · rintro ⟨pointer, points, keyed, rfl⟩
      rcases next pointer points keyed with earlier | newest
      · exact (counted _).mp ⟨pointer, earlier, keyed, rfl⟩
      · exact absurd ⟨pointer, points, keyed, newest⟩ grown
    · obtain ⟨pointer, points, rest⟩ := (counted version).mpr bounds
      exact ⟨pointer, change.evolves.points points, rest⟩

theorem Changes.gapFree (changes : Changes P s t) (gapFree : GapFree X s) : GapFree X t := by
  induction changes with
  | refl => exact gapFree
  | tail _ change ih => exact change.gapFree ih

/-- Every pointer names a stored resource of its own channel's name. -/
def Targeted (X : Platform) (world : World) : Prop :=
  ∀ pointer, Points X world pointer → HasTarget X world pointer

theorem Fresh.targeted (fresh : Fresh X s) : Targeted X s := by
  rintro pointer ⟨row, found, -⟩
  rw [fresh.rows] at found
  cases found

theorem Changes.targeted (changes : Changes P s t) (live : P.live) (targeted : Targeted X s) :
    Targeted X t := by
  induction changes with
  | refl => exact targeted
  | tail _ change ih =>
    intro pointer points
    rcases change.points points with earlier | ⟨-, -, target⟩
    · exact change.evolves.hasTarget (ih pointer earlier)
    · exact change.evolves.hasTarget (target live)

end ConfigArtifact
