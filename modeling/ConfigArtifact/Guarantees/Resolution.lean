import ConfigArtifact.Simulation

/-! Channels follow the last promotion.

A pointer is resolved by two reads that do not look at each other. What the first
one finds is the pointer that was put last, since versions only grow; what the
second one finds is the resource that was promoted, since rows stay.
-/

set_option autoImplicit false

namespace ConfigArtifact

open Interaction Relation

variable {X : Platform} {P : Policy X} {s t : World} {ι : Type}

/-- The row of a pointer is put where none was. -/
def PutsPointer (X : Platform) (pointer : ResourceChannelV1) (before after : World) : Prop :=
  before.row? .channels (pointer.channelVersionId X) = none ∧ Points X after pointer

/-- An event has put a pointer of the channel, the highest one that it has put, and no
event after it has put one. -/
structure LastPromotion (log : PoolLog X ι) (key : ChannelKey) (pointer : ResourceChannelV1)
    (event : Event (runtime X) World) : Prop where
  keyed : pointer.key = key
  puts : PutsPointer X pointer event.before event.after
  highest : ∀ other, other.key = key → PutsPointer X other event.before event.after →
    other.pointerVersion ≤ pointer.pointerVersion
  last : ∃ early client late, log = early ++ (client, event) :: late ∧ ∀ entry ∈ late,
    ∀ other, other.key = key → ¬PutsPointer X other entry.2.before entry.2.after

/-- No event has promoted to the channel. -/
def NeverPromoted (log : PoolLog X ι) (key : ChannelKey) : Prop :=
  ∀ entry ∈ log, ∀ pointer, pointer.key = key → ¬PutsPointer X pointer entry.2.before entry.2.after

/-- The pointer that was put last to the channel, and the resource that it was put for as
it was stored then. -/
def LastTarget (log : PoolLog X ι) (key : ChannelKey) (pointer : ResourceChannelV1)
    (target : StoredResourceV1 X) : Prop :=
  ∃ event, LastPromotion log key pointer event ∧ Stores event.after target ∧
    target.resourceId = pointer.targetResourceId

section

variable {first : World} {log : PoolLog X ι}

/-- A pointer that is put later has a higher version. -/
theorem PutsPointer.newer {pointer other : ResourceChannelV1} (gapFree : GapFree X s)
    (points : Points X s pointer) (puts : PutsPointer X other s t) (same : other.key = pointer.key) :
    pointer.pointerVersion < other.pointerVersion := by
  obtain ⟨last, counted⟩ := gapFree pointer.key
  have bounded := ((counted _).mp ⟨pointer, points, rfl, rfl⟩).2
  by_contra older
  -- A pointer with the other's version is there already, under the other's id.
  obtain ⟨stored, ⟨row, found, -⟩, keyed, version⟩ := (counted other.pointerVersion).mpr
    ⟨other.valid.pointerVersion, by omega⟩
  rw [channelVersionId_congr (keyed.trans same.symm) version, puts.1] at found
  cases found

theorem lastPromotion_of_newest (fresh : Fresh X first) (traced : Pool.Traced (Changes P) first log s)
    {key : ChannelKey} {pointer : ResourceChannelV1} (newest : IsNewest X s key pointer) :
    ∃ event, LastPromotion log key pointer event ∧ Changes P first event.after ∧
      Changes P event.after s := by
  obtain ⟨points, keyed, highest⟩ := newest
  have unheld : ¬Points X first pointer := by
    rintro ⟨row, found, -⟩
    rw [fresh.rows] at found
    cases found
  obtain ⟨early, ⟨client, event⟩, late, rfl, before, after⟩ := traced.linked.becomes (fun u => Points X u pointer) unheld points
  obtain ⟨front, back⟩ := traced.split
  have changed := traced.each _ (List.mem_append_right _ List.mem_cons_self)
  have absent : event.before.row? .channels (pointer.channelVersionId X) = none := by
    rw [Option.eq_none_iff_forall_ne_some]
    intro row found
    obtain ⟨row', found', holds⟩ := after
    have kept := changed.evolves.rows .channels (by decide) _ _ found
    cases kept.symm.trans found'
    exact before ⟨row, found, holds⟩
  have came : Changes P first event.after := (changes_of_traced front).trans changed
  refine ⟨event, ⟨keyed, ⟨absent, after⟩, ?_, early, client, late, rfl, ?_⟩, came,
    changes_of_traced back⟩
  · intro other same puts
    exact highest other ((changes_of_traced back).evolves.points puts.2) same
  · intro entry member other same puts
    obtain ⟨former, latter, rfl⟩ := List.append_of_mem member
    obtain ⟨between, rest⟩ := back.split
    have moved : Changes P event.after entry.2.before := changes_of_traced between
    have began : Changes P first entry.2.before := came.trans moved
    have newer := puts.newer (began.gapFree fresh.gapFree) (moved.evolves.points after)
      (same.trans keyed.symm)
    have bounded := highest other ((changes_of_traced rest).evolves.points puts.2) same
    omega

theorem neverPromoted_of_none (traced : Pool.Traced (Changes P) first log s) {key : ChannelKey}
    (none : ∀ pointer, Points X s pointer → pointer.key ≠ key) : NeverPromoted log key := by
  intro entry member pointer keyed puts
  obtain ⟨early, late, rfl⟩ := List.append_of_mem member
  exact none pointer ((changes_of_traced traced.split.2).evolves.points puts.2) keyed

/-- A channel has one last promotion at most. -/
theorem LastPromotion.unique {key : ChannelKey} {pointer other : ResourceChannelV1}
    {event event' : Event (runtime X) World} (last : LastPromotion log key pointer event)
    (again : LastPromotion log key other event') : event' = event ∧ other = pointer := by
  have same : event' = event := by
    obtain ⟨early, client, late, rfl, none⟩ := last.last
    obtain ⟨early', client', late', split, none'⟩ := again.last
    -- Neither event comes after the other.
    rcases List.append_eq_append_iff.mp split with ⟨more, rfl, rest⟩ | ⟨more, rfl, rest⟩
    · cases more with
      | nil =>
        cases rest
        rfl
      | cons entry more =>
        cases rest
        exact absurd again.puts (none (client', event') (by simp) other again.keyed)
    · cases more with
      | nil =>
        cases rest
        rfl
      | cons entry more =>
        cases rest
        exact absurd last.puts (none' (client, event) (by simp) pointer last.keyed)
  subst same
  have le := last.highest other again.keyed again.puts
  have ge := again.highest pointer last.keyed last.puts
  exact ⟨rfl, last.puts.2.unique again.puts.2
    (channelVersionId_congr (again.keyed.trans last.keyed.symm) (by omega))⟩

theorem LastTarget.unique {key : ChannelKey} {pointer other : ResourceChannelV1}
    {target target' : StoredResourceV1 X} (last : LastTarget log key pointer target)
    (again : LastTarget log key other target') : target' = target := by
  obtain ⟨event, promotion, stores, named⟩ := last
  obtain ⟨event', promotion', stores', named'⟩ := again
  obtain ⟨rfl, rfl⟩ := promotion.unique promotion'
  exact stores.unique stores' (named'.trans named.symm)

end

/-- Channels only name resources that are stored. -/
def Policy.targeted (X : Platform) : Policy X :=
  ⟨fun _ => True, fun _ => True, fun _ => True, True⟩

/-- Copies that are promoted are taken from the store. -/
def TakesTargets (admits : World → Request X → Prop) : Prop :=
  ∀ s copy channel expected actor profile,
    admits s (.promote (.resource copy) channel expected actor profile) → Live s copy

theorem TakesTargets.serves {admits : World → Request X → Prop} (takes : TakesTargets admits)
    (first : World) : Serves (Policy.targeted X) False first admits := by
  intro s request _ admitted
  cases request with
  | publishConfiguration request => exact ⟨False.elim, fun _ _ => trivial⟩
  | publishArtifact request => exact ⟨False.elim, fun _ _ => trivial, fun _ _ _ _ _ => trivial⟩
  | promote target channel expected actor profile =>
    rintro - copy rfl
    exact takes s copy channel expected actor profile admitted
  | «deprecate» profile identity => exact fun _ _ _ _ => trivial
  | consumerChannel profile «namespace» kind name channel => trivial
  | discoverOrphans limit cursor record => trivial

section

variable {first : World} {log : PoolLog X ι}

/-- What is stored for the newest pointer, from when it is read on, is what it was put for. -/
theorem lastTarget_of_newest (fresh : Fresh X first) (traced : Pool.Traced (Changes (Policy.targeted X)) first log s)
    {key : ChannelKey} {pointer : ResourceChannelV1} (newest : IsNewest X s key pointer) :
    ∃ target, LastTarget log key pointer target ∧
      target.identity.namespace = key.namespace ∧ target.identity.kind = key.kind ∧
      target.identity.name = key.name ∧
      ∀ t, Changes (Policy.targeted X) s t → ∃ resource, Stores t resource ∧
        resource.resourceId = pointer.targetResourceId ∧ SameRecord target resource := by
  obtain ⟨event, last, came, since⟩ := lastPromotion_of_newest fresh traced newest
  obtain ⟨target, stores, named, names⟩ :=
    came.targeted trivial fresh.targeted pointer last.puts.2
  rw [newest.2.1] at names
  refine ⟨target, ⟨event, last, stores, named⟩, names.1, names.2.1, names.2.2, fun t moved => ?_⟩
  have after : Changes (Policy.targeted X) event.after t := since.trans moved
  obtain ⟨later, stored, succeeds⟩ := after.evolves.stored target stores
  exact ⟨later, stored, succeeds.resourceId.trans named, succeeds.same⟩

end

theorem Names.unique {key other : ChannelKey} {«namespace» kind name channel : JsonValue}
    (names : Names key «namespace» kind name channel)
    (again : Names other «namespace» kind name channel) : other = key := by
  obtain ⟨rfl, rfl, rfl, rfl⟩ := names
  obtain ⟨spaced, kinded, named, channelled⟩ := again
  cases key
  cases other
  cases spaced
  cases kinded
  cases named
  cases channelled
  rfl

/-- An error has one type. -/
theorem hasType_unique {error : PyError} {type other : ErrorType} (typed : error.hasType type = true)
    (again : error.hasType other = true) : other = type := by
  unfold PyError.hasType at typed again
  cases error with
  | meridian error => exact (of_decide_eq_true again).symm.trans (of_decide_eq_true typed)
  | _ => cases typed

section

variable [DecidableEq ι] {first : World} {admits : World → Request X → Prop} {pool : Clients X ι}

theorem targeted_sound (fresh : Fresh X first) (takes : TakesTargets admits)
    (reachable : Pool.Reachable (deployment (reliable X) admits) first pool) :
    Pool.Sound (deployment (reliable X) admits) (following (Policy.targeted X) first)
      (Request.Ends False False (Policy.targeted X) first) first pool :=
  deployment_sound serving_of_reliable (takes.serves first) fresh.consistent reachable

/-- What a client has observed is what was promoted last before it read. -/
theorem Observed.lastTarget (fresh : Fresh X first) (takes : TakesTargets admits)
    (reachable : Pool.Reachable (deployment (reliable X) admits) first pool) {i : ι}
    {key : ChannelKey} {pointer : ResourceChannelV1} {resource : StoredResourceV1 X}
    (observed : Observed (Policy.targeted X) (pool.history i) key pointer resource) :
    ∃ target, LastTarget (pool.earlier i) key pointer target ∧ SameRecord target resource ∧
      resource.identity.namespace = key.namespace ∧ resource.identity.kind = key.kind ∧
      resource.identity.name = key.name := by
  obtain ⟨read, lookup, reads, newest, moved, stores, named⟩ := observed
  have traced := (targeted_sound fresh takes reachable).traced_earlier reachable reads
  obtain ⟨target, last, space, kind, name, kept⟩ := lastTarget_of_newest fresh traced newest
  obtain ⟨stored, stores', aimed, same⟩ := kept _ moved
  obtain rfl := stores'.unique stores (named.trans aimed.symm)
  refine ⟨target, last, same, ?_⟩
  rw [same.identity]
  exact ⟨space, kind, name⟩

/-- What a channel resolves to, over every interleaving. -/
theorem channel_follows_promotion (fresh : Fresh X first) (takes : TakesTargets admits)
    (reachable : Pool.Reachable (deployment (reliable X) admits) first pool) {i : ι}
    {profile : ResourceProfile} {«namespace» kind name channel : JsonValue}
    {result : Except PyError (ResolvedResource X)}
    (finished : pool.Finished i (.consumerChannel profile «namespace» kind name channel) result) :
    (∀ resolved, result = .ok resolved → ∃ key pointer target,
      Names key «namespace» kind name channel ∧ LastTarget (pool.earlier i) key pointer target ∧
      resolved.channel = some pointer ∧ SameRecord target resolved.resource ∧
      resolved.resource.identity.namespace = key.namespace ∧
      resolved.resource.identity.kind = key.kind ∧ resolved.resource.identity.name = key.name) ∧
    ((∃ error, result = .error error ∧ error.hasType .resourceNotFound = true) →
      ∃ key, Names key «namespace» kind name channel ∧ NeverPromoted (pool.earlier i) key) ∧
    ((∃ error, result = .error error ∧ error.hasType .incompatibleProfile = true) ↔
      ∃ key pointer target, Names key «namespace» kind name channel ∧
        LastTarget (pool.earlier i) key pointer target ∧ target.profile ≠ profile) := by
  have sound := targeted_sound fresh takes reachable
  have ends : ResolutionEnds False (Policy.targeted X) (Request.consumerCheck profile) «namespace»
    kind name channel (pool.history i) pool.state result := sound.finished finished
  cases result with
  | ok resolved =>
    obtain ⟨key, pointer, names, carried, observed, accepted⟩ := ends
    obtain ⟨target, last, same, named⟩ := observed.lastTarget fresh takes reachable
    refine ⟨?_, ?_, ?_, ?_⟩
    · rintro _ ⟨⟩
      exact ⟨key, pointer, target, names, last, carried, same, named⟩
    · rintro ⟨_, ⟨⟩, -⟩
    · rintro ⟨_, ⟨⟩, -⟩
    · rintro ⟨key', pointer', target', names', last', different⟩
      obtain rfl := names.unique names'
      obtain rfl := last.unique last'
      have profile : resolved.resource.profile = profile := by
        by_contra other
        obtain ⟨_, refused, -⟩ := (Request.checksProfile_consumer profile _).2 other
        cases accepted.symm.trans refused
      rw [same] at profile
      exact absurd profile different
  | error error =>
    refine ⟨fun _ same => (by cases same), ?_⟩
    -- Either the name is refused, or what the channel points to could not be resolved.
    rcases ends.resolve_left id with ⟨data, misnamed⟩ | ⟨key, names, ends⟩
    · have untyped := hasType_of_isDataError data
      refine ⟨?_, ?_, ?_⟩
      · rintro ⟨_, ⟨⟩, typed⟩
        cases (untyped _).symm.trans typed
      · rintro ⟨_, ⟨⟩, typed⟩
        cases (untyped _).symm.trans typed
      · rintro ⟨key, pointer, _, names, ⟨_, last, -⟩, -⟩
        rw [← last.keyed] at names
        exact absurd names (misnamed pointer)
    rcases ends with ⟨read, reads, rfl, none⟩ | ⟨read, lookup, pointer, reads, newest, moved, absent⟩ |
      ⟨pointer, resource, observed, refused⟩
    -- No pointer was shown, so none has been put before the read.
    · have never := neverPromoted_of_none (sound.traced_earlier reachable reads) none
      refine ⟨fun _ => ⟨key, names, never⟩, ?_, ?_⟩
      · rintro ⟨_, ⟨⟩, typed⟩
        cases typed
      · rintro ⟨key', pointer, _, names', ⟨event, last, -⟩, -⟩
        obtain rfl := names.unique names'
        obtain ⟨early, client, late, split, -⟩ := last.last
        have member : (client, event) ∈ pool.earlier i := by simp [split]
        exact absurd last.puts (never _ member pointer last.keyed)
    · -- The newest pointer's target is stored, and stays.
      obtain ⟨target, -, -, -, -, kept⟩ :=
        lastTarget_of_newest fresh (sound.traced_earlier reachable reads) newest
      obtain ⟨resource, ⟨row, found, -⟩, aimed, -⟩ := kept _ moved
      rw [aimed, absent] at found
      cases found
    · obtain ⟨target, last, same, -⟩ := observed.lastTarget fresh takes reachable
      -- The profile check is all that is left to fail.
      have different : resource.profile ≠ profile := by
        intro equal
        cases refused.symm.trans ((Request.checksProfile_consumer profile resource).1 equal)
      obtain ⟨other, raised, typed⟩ :=
        (Request.checksProfile_consumer profile resource).2 different
      cases refused.symm.trans raised
      refine ⟨?_, fun _ => ⟨key, pointer, target, names, last, ?_⟩, fun _ => ⟨error, rfl, typed⟩⟩
      · rintro ⟨_, ⟨⟩, missing⟩
        cases hasType_unique typed missing
      · rwa [same] at different

end

/-- No request promotes a copy. -/
def promotesNoCopy (_ : World) : Request X → Prop
  | .promote (.resource _) _ _ _ _ => False
  | _ => True

theorem takes_of_promotesNoCopy : TakesTargets (X := X) promotesNoCopy :=
  fun _ _ _ _ _ _ admitted => admitted.elim

/-- A request for the channel that a configuration is promoted to. -/
def asking : Request Platform.reference :=
  .consumerChannel .configuration (.str "team") (.str "feature") (.str "flags") (.str "stable")

/-- A configuration is published and promoted, and then asked for by its channel. -/
def resolving : List (Turn (Fin 3) (Request Platform.reference)) :=
  .start 0 asking :: Turn.alone 1 (.publishConfiguration Reference.configuration) 4 ++
    Turn.alone 2 (.promote (.identity Reference.identity) (.str "stable") (.int 0) (.str "bob") none) 4 ++
    [.run 0, .run 0]

/-- The channel resolves to the configuration that was promoted. -/
theorem channel_follows_promotion_configuration :
    let pool := simulate Platform.reference [] resolving World.empty
    ∃ resolved key pointer target, pool.Finished 0 asking (.ok resolved) ∧
      LastTarget (pool.earlier 0) key pointer target ∧ resolved.channel = some pointer ∧
      SameRecord target resolved.resource := by
  intro pool
  have starts : ∀ request ∈ Pool.starts resolving,
      request = asking ∨ request = .publishConfiguration Reference.configuration ∨
        request = .promote (.identity Reference.identity) (.str "stable") (.int 0) (.str "bob") none := by
    simp [resolving, Turn.alone, Pool.starts]
  have reachable : Pool.Reachable (deployment (reliable Platform.reference) promotesNoCopy)
      World.empty pool := by
    apply simulate_admitted (isUniform_empty [])
    · intro request member
      rcases starts request member with rfl | rfl | rfl <;> trivial
    · intro request member s
      rcases starts request member with rfl | rfl | rfl <;> trivial
  have serves : pool.request? 0 = some asking := simulate_request [.start 0 asking] _ rfl
  obtain ⟨resolved, finished⟩ := ok_of_returned serves (by decide +kernel)
  obtain ⟨key, pointer, target, -, last, carried, same, -⟩ :=
    (channel_follows_promotion (fresh_empty _) takes_of_promotesNoCopy reachable finished).1 _ rfl
  exact ⟨resolved, key, pointer, target, finished, last, carried, same⟩

end ConfigArtifact
