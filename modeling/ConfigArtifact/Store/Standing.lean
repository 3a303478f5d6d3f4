import ConfigArtifact.Registry
import ConfigArtifact.Store.Evolution

/-! What the stores stand for: a registry of resources and channels.

The rows of metadata stand for the entries and the rows of channels, by their versions,
for the targets. Every change of the stores is a run of the registry: publication,
deprecation and promotion are one operation each, and all other changes are none.
-/

set_option autoImplicit false

namespace ConfigArtifact

open Interaction Relation

variable {X : Platform} {P : Policy X} {s t : World}

/-- A registry of resources by id, with what never changes about their rows. -/
abbrev ResourceRegistry := Registry String Mapping ChannelKey

abbrev RegistryOperation := Registry.Operation String Mapping ChannelKey

def constantColumns (values : Mapping) : Mapping := Mapping.without values ["state"]

def stageOf (values : Mapping) : Stage :=
  if values.lookup "state" = some (.str ResourceState.deprecated.value) then .retired
  else .published

structure Represents (X : Platform) (world : World) (registry : ResourceRegistry) : Prop where
  entries : ∀ id, registry.entry id =
    (world.row? .metadata id).map fun row => (constantColumns row.values, stageOf row.values)
  targets : ∀ key index target, (registry.targets key)[index]? = some target ↔
    ∃ pointer, Points X world pointer ∧ pointer.key = key ∧ pointer.pointerVersion = index + 1 ∧
      pointer.targetResourceId = target

/-- The publication of a resource, as an operation of the registry. -/
def publicationOf (resource : StoredResourceV1 X) : RegistryOperation :=
  .publish resource.resourceId (constantColumns resource.toRecord)

theorem constantColumns_deprecatedAt (resource : StoredResourceV1 X)
    (immutable : resource.immutable = true) (version : RecordVersion) :
    constantColumns (resource.deprecatedAt immutable version).toRecord =
      constantColumns resource.toRecord := rfl

theorem stageOf_toRecord (resource : StoredResourceV1 X) : stageOf resource.toRecord =
    if resource.state = .deprecated then .retired else .published := by
  have found : resource.toRecord.lookup "state" = some (.str resource.state.value) := rfl
  unfold stageOf
  rw [found]
  generalize resource.state = state
  cases state <;> simp [ResourceState.value]

namespace Represents

variable {registry other : ResourceRegistry}

/-- Stores stand for one registry. -/
theorem unique (stands : Represents X s registry) (again : Represents X s other) :
    other = registry := by
  obtain ⟨entry, targets⟩ := registry
  obtain ⟨entry', targets'⟩ := other
  have entries : entry' = entry := by
    funext id
    exact (again.entries id).trans (stands.entries id).symm
  have channels : targets' = targets := by
    funext key
    refine List.ext_getElem? fun index => Option.ext fun target => ?_
    exact (again.targets key index target).trans (stands.targets key index target).symm
  rw [entries, channels]

/-- Changes elsewhere do not matter. -/
theorem congr (stands : Represents X s registry)
    (metadata : ∀ key, t.row? .metadata key = s.row? .metadata key)
    (channels : ∀ key, t.row? .channels key = s.row? .channels key) : Represents X t registry where
  entries := by
    intro id
    rw [metadata, stands.entries]
  targets := by
    intro key index target
    rw [stands.targets]
    unfold Points
    simp only [channels]

theorem entry_of_stores (stands : Represents X s registry) {resource : StoredResourceV1 X}
    (stores : Stores s resource) : registry.entry resource.resourceId =
      some (constantColumns resource.toRecord,
        if resource.state = .deprecated then .retired else .published) := by
  obtain ⟨row, found, values, -⟩ := stores
  rw [stands.entries, found, Option.map_some, values, stageOf_toRecord]

/-- A channel has been pointed to as often as the highest version of its pointers tells. -/
theorem length_of_absent (stands : Represents X s registry) {pointer : ResourceChannelV1}
    (absent : s.row? .channels (pointer.channelVersionId X) = none) (follows : Follows X s pointer) :
    (registry.targets pointer.key).length + 1 = pointer.pointerVersion := by
  -- The version of the pointer is none of those that are there.
  have unpointed : ¬(registry.targets pointer.key).length ≥ pointer.pointerVersion := by
    intro long
    have positive := pointer.valid.pointerVersion
    have within : pointer.pointerVersion - 1 < (registry.targets pointer.key).length := by omega
    obtain ⟨earlier, ⟨row, found, -⟩, keyed, version, -⟩ :=
      (stands.targets _ _ _).mp (List.getElem?_eq_getElem within)
    rw [channelVersionId_congr keyed (by omega), absent] at found
    cases found
  rcases follows with first | ⟨previous, points, keyed, next⟩
  · omega
  · -- And the one before it is there.
    have positive := previous.valid.pointerVersion
    have pointed := (stands.targets pointer.key (previous.pointerVersion - 1)
      previous.targetResourceId).mpr ⟨previous, points, keyed, by omega, rfl⟩
    have := (List.getElem?_eq_some_iff.mp pointed).1
    omega

end Represents

theorem points_promote {pointer other : ResourceChannelV1} {version : RecordVersion}
    (absent : s.row? .channels (pointer.channelVersionId X) = none) :
    Points X (s.promote X pointer version) other ↔
      Points X s other ∨ other = pointer.withVersion (some version) := by
  constructor
  · rintro ⟨row, found, values, counted⟩
    unfold World.promote at found
    rw [World.row?_setRow] at found
    split at found
    · cases found
      exact .inr (ResourceChannelV1.eq_of_record (X := X) values.symm counted)
    · exact .inl ⟨row, found, values, counted⟩
  · rintro (⟨row, found, values, counted⟩ | rfl)
    · refine ⟨row, ?_, values, counted⟩
      unfold World.promote
      rw [World.row?_setRow, if_neg, found]
      rintro ⟨-, same⟩
      rw [same, absent] at found
      cases found
    · exact ⟨⟨pointer.toRecord X, version⟩, World.row?_setRow_self _ _ _ _, rfl, rfl⟩

section

variable {registry : ResourceRegistry}

theorem represents_publish {resource : StoredResourceV1 X} (stands : Represents X s registry)
    (published : resource.state = .published) (version stamp : RecordVersion) :
    Represents X (s.publish resource version stamp)
      (registry.setEntry resource.resourceId (constantColumns resource.toRecord) .published) where
  entries := by
    intro id
    rw [Registry.entry_setEntry, row?_publish_metadata]
    split
    · rw [Option.map_some, stageOf_toRecord, published]
      rfl
    · exact stands.entries id
  targets := by
    intro key index target
    rw [Registry.targets_setEntry, stands.targets]
    unfold Points
    have kept : ∀ key, (s.publish resource version stamp).row? .channels key =
        s.row? .channels key := row?_publish_other s resource version stamp (by decide) (by decide)
    simp only [kept]

theorem represents_deprecate {resource : StoredResourceV1 X} (stands : Represents X s registry)
    (immutable : resource.immutable = true) (version : RecordVersion) :
    Represents X (s.deprecate resource immutable version)
      (registry.setEntry resource.resourceId (constantColumns resource.toRecord) .retired) where
  entries := by
    intro id
    unfold World.deprecate
    rw [Registry.entry_setEntry, World.row?_setRow]
    by_cases same : id = resource.resourceId
    · rw [if_pos same, if_pos ⟨rfl, same⟩, Option.map_some, constantColumns_deprecatedAt,
        stageOf_toRecord]
      rfl
    · rw [if_neg same, if_neg fun both => same both.2]
      exact stands.entries id
  targets := by
    intro key index target
    rw [Registry.targets_setEntry, stands.targets]
    unfold Points World.deprecate
    simp [World.row?_setRow]

theorem represents_promote {pointer : ResourceChannelV1} (stands : Represents X s registry)
    (absent : s.row? .channels (pointer.channelVersionId X) = none) (follows : Follows X s pointer)
    (version : RecordVersion) :
    Represents X (s.promote X pointer version)
      (registry.pointTo pointer.key pointer.targetResourceId) where
  entries := by
    intro id
    rw [Registry.entry_pointTo, stands.entries]
    simp [World.promote, World.row?_setRow]
  targets := by
    intro key index target
    have counted := stands.length_of_absent absent follows
    rw [Registry.targets_pointTo]
    simp only [points_promote absent]
    split
    · next same =>
      subst same
      rw [List.getElem?_append, List.getElem?_singleton]
      split
      · -- A pointer that was there.
        next within =>
        rw [stands.targets]
        constructor
        · rintro ⟨other, points, told⟩
          exact ⟨other, .inl points, told⟩
        · rintro ⟨other, points | rfl, keyed, version, aimed⟩
          · exact ⟨other, points, keyed, version, aimed⟩
          · change pointer.pointerVersion = _ at version
            omega
      -- The pointer that is promoted, one past the others, or none.
      · next beyond =>
        constructor
        · intro found
          split at found
          · cases found
            exact ⟨_, .inr rfl, rfl, by change pointer.pointerVersion = _; omega, rfl⟩
          · cases found
        · rintro ⟨other, points | rfl, keyed, version, aimed⟩
          · have among := (stands.targets _ _ _).mpr ⟨other, points, keyed, version, rfl⟩
            exact absurd (List.getElem?_eq_some_iff.mp among).1 beyond
          · change pointer.pointerVersion = _ at version
            rw [if_pos (by omega)]
            exact congrArg some aimed
    · next different =>
      rw [stands.targets]
      constructor
      · rintro ⟨other, points, told⟩
        exact ⟨other, .inl points, told⟩
      · rintro ⟨other, points | rfl, keyed, told⟩
        · exact ⟨other, points, keyed, told⟩
        · exact absurd keyed.symm different

end

/-- Stores whose channels have no gaps stand for some registry. -/
theorem exists_represents (gapFree : GapFree X s) : ∃ registry, Represents X s registry := by
  have channels : ∀ key : ChannelKey, ∃ targets : List String, ∀ index target,
      targets[index]? = some target ↔ ∃ pointer, Points X s pointer ∧ pointer.key = key ∧
        pointer.pointerVersion = index + 1 ∧ pointer.targetResourceId = target := by
    intro key
    obtain ⟨last, counted⟩ := gapFree key
    have each : ∀ index : Fin last, ∃ pointer, Points X s pointer ∧ pointer.key = key ∧
        pointer.pointerVersion = index + 1 := fun index => (counted _).mpr (by omega)
    choose pointers pointed keyed versions using each
    refine ⟨List.ofFn fun index => (pointers index).targetResourceId, fun index target => ?_⟩
    rw [List.getElem?_eq_some_iff]
    constructor
    · rintro ⟨within, aimed⟩
      rw [List.length_ofFn] at within
      rw [List.getElem_ofFn] at aimed
      exact ⟨_, pointed ⟨index, within⟩, keyed _, versions _, aimed⟩
    · rintro ⟨pointer, points, same, version, aimed⟩
      have bounds := (counted _).mp ⟨pointer, points, same, rfl⟩
      have within : index < last := by omega
      refine ⟨by rwa [List.length_ofFn], ?_⟩
      rw [List.getElem_ofFn, ← aimed]
      -- There is one pointer of that version.
      have chosen : (pointers ⟨index, within⟩).channelVersionId X = pointer.channelVersionId X :=
        channelVersionId_congr ((keyed _).trans same.symm) ((versions _).trans version.symm)
      rw [points.unique (pointed ⟨index, within⟩) chosen]
  choose targets told using channels
  exact ⟨⟨_, targets⟩, fun _ => rfl, told⟩

/-- The registry that stores stand for. -/
def standing (X : Platform) : Abstraction World ResourceRegistry RegistryOperation where
  stands := Represents X
  step := Registry.Step
  unique := Represents.unique

section

variable {registry last : ResourceRegistry} {operations : List RegistryOperation}

theorem step_publish {resource : StoredResourceV1 X} (stands : Represents X s registry)
    (absent : s.row? .metadata resource.resourceId = none) :
    Registry.Step registry (publicationOf resource)
      (registry.setEntry resource.resourceId (constantColumns resource.toRecord) .published) :=
  .publish (by rw [stands.entries, absent, Option.map_none])

theorem step_deprecate {resource : StoredResourceV1 X} (stands : Represents X s registry)
    (stores : Stores s resource) (published : resource.state = .published) :
    Registry.Step registry (.retire resource.resourceId)
      (registry.setEntry resource.resourceId (constantColumns resource.toRecord) .retired) :=
  .retire (by rw [stands.entry_of_stores stores, published]; rfl)

theorem step_promote {pointer : ResourceChannelV1} (stands : Represents X s registry)
    (absent : s.row? .channels (pointer.channelVersionId X) = none) (follows : Follows X s pointer)
    (target : HasTarget X s pointer) {version : Nat} (counted : pointer.pointerVersion = version + 1) :
    Registry.Step registry (.point pointer.key version pointer.targetResourceId)
      (registry.pointTo pointer.key pointer.targetResourceId) := by
  have long := stands.length_of_absent absent follows
  refine .point (by omega) ?_
  obtain ⟨resource, stores, aimed, -⟩ := target
  rw [← aimed, stands.entry_of_stores stores]
  exact Option.some_ne_none _

/-- Every change is a run of the registry. -/
theorem performs_change (live : P.live) (change : Change P s t) (stands : Represents X s registry) :
    ∃ last operations, Represents X t last ∧ Performs Registry.Step registry operations last := by
  cases change with
  | registered absent => exact ⟨registry, [], stands.congr (fun _ => rfl) fun _ => rfl, .nil⟩
  | committed absent object permitted =>
    exact ⟨registry, [], stands.congr (fun _ => rfl) fun _ => rfl, .nil⟩
  | published absent bare published backed permitted =>
    exact ⟨_, _, represents_publish stands published _ _, .single (step_publish stands absent)⟩
  | deprecated immutable stores published renewed permitted =>
    exact ⟨_, _, represents_deprecate stands immutable _,
      .single (step_deprecate stands stores published)⟩
  | @promoted pointer version absent follows target =>
    have counted : pointer.pointerVersion = pointer.pointerVersion - 1 + 1 :=
      (Nat.sub_add_cancel pointer.valid.pointerVersion).symm
    exact ⟨_, _, represents_promote stands absent follows version,
      .single (step_promote stands absent follows (target live) counted)⟩
  | reported absent =>
    refine ⟨registry, [], stands.congr (fun key => ?_) fun key => ?_, .nil⟩ <;>
      simp [World.report, World.row?_setRow]

theorem performs_changes (live : P.live) (changes : Changes P s t) (stands : Represents X s registry) :
    ∃ last operations, Represents X t last ∧ Performs Registry.Step registry operations last := by
  induction changes with
  | refl => exact ⟨registry, [], stands, .nil⟩
  | tail _ change ih =>
    obtain ⟨middle, earlier, standsMiddle, performs⟩ := ih
    obtain ⟨last, later, standsLast, rest⟩ := performs_change live change standsMiddle
    exact ⟨last, earlier ++ later, standsLast, Performs.append_iff.mpr ⟨middle, performs, rest⟩⟩

end

end ConfigArtifact
