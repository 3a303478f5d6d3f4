import ConfigArtifact.Simulation

/-! Promotions compare and set.

Whoever promotes whatever to a channel, its rows count up from one without gaps
or repetitions, and a promotion has inserted the one row its caller expected to
be next, or none.
-/

set_option autoImplicit false

namespace ConfigArtifact

open Interaction MetadataRepository

variable {X : Platform} {s t : World} {faults valid : Prop}

/-- The pointer versions that the rows of a channel carry. -/
def pointerVersions (world : World) (key : ChannelKey) : List JsonValue :=
  ((world.rows .channels).filter (matchesFilter (channelFilter key))).map fun row =>
    entryOf row.values "pointerVersion"

theorem mem_pointerVersions (consistent : Consistent X s) {key : ChannelKey} {value : JsonValue} :
    value ∈ pointerVersions s key ↔
      ∃ pointer, Points X s pointer ∧ pointer.key = key ∧ value = natJson pointer.pointerVersion := by
  unfold pointerVersions
  rw [List.mem_map]
  constructor
  · rintro ⟨row, member, rfl⟩
    obtain ⟨among, selected⟩ := List.mem_filter.mp member
    obtain ⟨name, found⟩ := World.mem_rows.mp among
    obtain ⟨pointer, points, values, -⟩ := consistent.points found
    refine ⟨pointer, points, (matches_channelFilter values key).mp selected, ?_⟩
    rw [values]
    rfl
  · rintro ⟨pointer, points, keyed, rfl⟩
    obtain ⟨row, among, values⟩ := points.mem_rows
    refine ⟨row, List.mem_filter.mpr ⟨among, (matches_channelFilter values key).mpr keyed⟩, ?_⟩
    rw [values]
    rfl

theorem natJson_injective {left right : Nat} (same : natJson left = natJson right) :
    left = right := by
  have := JsonValue.int.inj same
  omega

/-- No two rows of a channel carry the same version: their ids would be the same. -/
theorem nodup_pointerVersions (consistent : Consistent X s) (key : ChannelKey) :
    (pointerVersions s key).Nodup := by
  have distinct : (s.tables .channels).entries.Pairwise fun left right => left.1 ≠ right.1 :=
    List.pairwise_map.mp (s.tables .channels).nodupKeys
  unfold pointerVersions World.rows
  rw [List.filter_map, List.map_map]
  refine List.pairwise_map.mpr ((distinct.filter _).imp_of_mem ?_)
  intro left right first second apart same
  have pointed : ∀ entry : (_ : String) × Row, entry ∈ (s.tables .channels).entries.filter
      (matchesFilter (channelFilter key) ∘ Sigma.snd) → ∃ pointer : ResourceChannelV1,
        pointer.channelVersionId X = entry.1 ∧ pointer.key = key ∧
          entryOf entry.2.values "pointerVersion" = natJson pointer.pointerVersion := by
    rintro ⟨name, row⟩ member
    obtain ⟨among, selected⟩ := List.mem_filter.mp member
    obtain ⟨pointer, values, -, named⟩ :=
      consistent.channels name row (AList.mem_lookup_iff.mpr among)
    refine ⟨pointer, named, (matches_channelFilter values key).mp selected, ?_⟩
    rw [values]
    rfl
  obtain ⟨one, oneName, oneKey, oneVersion⟩ := pointed left first
  obtain ⟨other, otherName, otherKey, otherVersion⟩ := pointed right second
  apply apart
  rw [← oneName, ← otherName]
  refine channelVersionId_congr (oneKey.trans otherKey.symm) (natJson_injective ?_)
  exact oneVersion.symm.trans (same.trans otherVersion)

theorem GapFree.pointerVersions (gapFree : GapFree X s) (consistent : Consistent X s)
    (key : ChannelKey) :
    ∃ last, (pointerVersions s key).Perm ((List.range' 1 last).map natJson) := by
  obtain ⟨last, counted⟩ := gapFree key
  have numbered : ((List.range' 1 last).map natJson).Nodup :=
    List.Nodup.map (fun _ _ => natJson_injective) List.nodup_range'
  refine ⟨last, (List.perm_ext_iff_of_nodup (nodup_pointerVersions consistent key) numbered).mpr ?_⟩
  intro value
  rw [mem_pointerVersions consistent, List.mem_map]
  constructor
  · rintro ⟨pointer, points, keyed, rfl⟩
    have bounds := (counted _).mp ⟨pointer, points, keyed, rfl⟩
    exact ⟨pointer.pointerVersion, List.mem_range'_1.mpr (by omega), rfl⟩
  · rintro ⟨version, member, rfl⟩
    have bounds := List.mem_range'_1.mp member
    obtain ⟨pointer, points, keyed, rfl⟩ := (counted version).mpr (by omega)
    exact ⟨pointer, points, keyed, rfl⟩

theorem expectedPointer_ok {value : JsonValue} {version : Nat}
    (accepted : ChannelRepository.expectedPointer value = .ok version) : value = natJson version := by
  unfold ChannelRepository.expectedPointer at accepted
  split at accepted
  · split at accepted
    · cases accepted
    · next given =>
      cases accepted
      unfold natJson
      congr
      omega
  · cases accepted

/-- One event has inserted the row of a pointer, where none was. -/
def InsertsPointer (X : Platform) (pointer : ResourceChannelV1) (before after : World) : Prop :=
  before.row? .channels (pointer.channelVersionId X) = none ∧
    ∃ version, pointer.recordVersion = some version ∧
      after = before.setRow .channels (pointer.channelVersionId X) ⟨pointer.toRecord X, version⟩

section

variable {ι : Type} [DecidableEq ι] {first : World} {admits : World → Request X → Prop}

/-- What every pool of a deployment without faults satisfies. -/
theorem unrestricted_sound (consistent : Consistent X first) {pool : Clients X ι}
    (reachable : Pool.Reachable (deployment (reliable X) admits) first pool) :
    Pool.Sound (deployment (reliable X) admits) (following (Policy.unrestricted X) first)
      (Request.Ends False False (Policy.unrestricted X) first) first pool :=
  deployment_sound serving_of_reliable (serves_unrestricted admits) consistent reachable

theorem Promoted.once {P : Policy X} {target : PromotionTarget X} {channel expected : JsonValue}
    {profile : Option ResourceProfile} {history : List (Event (runtime X) World)}
    {pointer : ResourceChannelV1}
    (promoted : Promoted P first target channel expected profile history t pointer) :
    Once (InsertsPointer X pointer) history := by
  obtain ⟨version, counted, front, event, rest, split, before, after, absent, changed⟩ :=
    promoted.inserted
  exact ⟨front, event, rest, split, before, after, absent, version, counted, changed⟩

/-- Two clients do not insert the same row. -/
theorem inserts_apart {D : Discipline World} {service : Service (runtime X) World (Request X) Request.Result}
    {post : (request : Request X) → Postcondition (runtime X) World request.Result}
    {pool : Clients X ι} (sound : Pool.Sound service D post first pool)
    (evolves : ∀ s t, D.rely s t → Evolves X s t) {i j : ι} (different : i ≠ j)
    {pointer other : ResourceChannelV1}
    (inserted : Once (InsertsPointer X pointer) (pool.history i))
    (another : Once (InsertsPointer X other) (pool.history j)) :
    pointer.channelVersionId X ≠ other.channelVersionId X := by
  intro same
  obtain ⟨event, member, absent, version, -, changed⟩ := inserted.mem
  obtain ⟨later, member', absent', version', -, changed'⟩ := another.mem
  -- Whichever came first left its row there for the other to find.
  rcases sound.comparable member member' fun both => different (congrArg Prod.fst both) with
    before | before
  · have kept := (evolves _ _ before).rows .channels (by decide) _ _
      (changed ▸ World.row?_setRow_self event.before .channels _ _)
    rw [same, absent'] at kept
    cases kept
  · have kept := (evolves _ _ before).rows .channels (by decide) _ _
      (changed' ▸ World.row?_setRow_self later.before .channels _ _)
    rw [← same, absent] at kept
    cases kept

/-- Channel compare-and-set, over every interleaving of any number of clients. -/
theorem promote_compareAndSet (consistent : Consistent X first) (gapFree : GapFree X first)
    {pool : Clients X ι} (reachable : Pool.Reachable (deployment (reliable X) admits) first pool) :
    (∀ key, ∃ last, (pointerVersions pool.state key).Perm ((List.range' 1 last).map natJson)) ∧
    (∀ i target channel expected actor profile pointer,
      pool.Finished i (.promote target channel expected actor profile) (.ok pointer) →
      ∃ version : Nat, expected = natJson version ∧ pointer.pointerVersion = version + 1 ∧
        Once (InsertsPointer X pointer) (pool.history i)) ∧
    (∀ i j target channel expected actor profile target' channel' expected' actor' profile'
        pointer pointer', i ≠ j →
      pool.Finished i (.promote target channel expected actor profile) (.ok pointer) →
      pool.Finished j (.promote target' channel' expected' actor' profile') (.ok pointer') →
      pointer.key = pointer'.key → pointer.pointerVersion ≠ pointer'.pointerVersion) ∧
    ∀ i target channel expected actor profile error,
      pool.Finished i (.promote target channel expected actor profile) (.error error) →
      Quiet (pool.history i) := by
  have sound := unrestricted_sound consistent reachable
  have moved : Changes (Policy.unrestricted X) first pool.state := sound.moved
  have promoted : ∀ {i target channel expected actor profile pointer},
      pool.Finished i (.promote target channel expected actor profile) (.ok pointer) →
      Promoted (Policy.unrestricted X) first target channel expected profile (pool.history i)
        pool.state pointer := fun finished => sound.finished finished
  refine ⟨fun key => ?_, ?_, ?_, ?_⟩
  · exact (moved.gapFree gapFree).pointerVersions sound.invariant.1 key
  · intro i target channel expected actor profile pointer finished
    obtain ⟨version, counted, next⟩ := (promoted finished).expected
    exact ⟨version, expectedPointer_ok counted, next, (promoted finished).once⟩
  · intro i j _ _ _ _ _ _ _ _ _ _ pointer pointer' different finished finished' keyed version
    have evolves : ∀ s t, (following (Policy.unrestricted X) first).rely s t → Evolves X s t :=
      fun _ _ moved => Changes.evolves moved
    exact inserts_apart sound evolves different (promoted finished).once (promoted finished').once
      (channelVersionId_congr keyed version)
  · intro i target channel expected actor profile error finished
    have ends : False ∨ Quiet (pool.history i) := sound.finished finished
    exact ends.resolve_left id

/-- Two clients promote to one channel and both find it empty. -/
def promotionRace : List (Turn Bool (Request Platform.reference)) :=
  [.start false Reference.promotion, .start true Reference.promotion, .run false, .run true,
    .run false, .run true, .run false, .run true]

/-- Of two racing promotions one inserts the first version and the other nothing. -/
theorem promote_compareAndSet_race :
    let pool := simulate Platform.reference [] promotionRace World.empty
    (∃ pointer, pool.Finished false Reference.promotion (.ok pointer) ∧ pointer.pointerVersion = 1 ∧
      Once (InsertsPointer Platform.reference pointer) (pool.history false)) ∧
    ∃ error, pool.Finished true Reference.promotion (.error error) ∧ Quiet (pool.history true) := by
  intro pool
  have reachable : Pool.Reachable (deployment (reliable Platform.reference) anyRequest) World.empty
      pool := by
    refine simulate_reachable (isUniform_empty []) fun request member => ?_
    rcases List.mem_pair.mp member with rfl | rfl <;> trivial
  have fresh := fresh_empty Platform.reference
  obtain ⟨-, inserts, -, stale⟩ :=
    promote_compareAndSet fresh.consistent fresh.gapFree reachable
  constructor
  · have serves : pool.request? false = some Reference.promotion :=
      simulate_request [.start false Reference.promotion] _ rfl
    obtain ⟨pointer, finished⟩ := ok_of_returned serves (by decide +kernel)
    obtain ⟨version, expected, next, once⟩ := inserts _ _ _ _ _ _ pointer finished
    obtain rfl : version = 0 := natJson_injective expected.symm
    exact ⟨pointer, finished, next, once⟩
  · have serves : pool.request? true = some Reference.promotion :=
      simulate_request [.start false Reference.promotion, .start true Reference.promotion] _ rfl
    obtain ⟨error, finished⟩ := error_of_raised serves (by decide +kernel)
    exact ⟨error, finished, stale _ _ _ _ _ _ error finished⟩

end

end ConfigArtifact
