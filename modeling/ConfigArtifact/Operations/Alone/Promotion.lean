import ConfigArtifact.Operations.Publication

/-! What a promotion does when nothing else runs.

Every run of it either stops before it puts a pointer, and then it has changed
nothing and the state or its arguments say why, or it puts the pointer they ask
for. How it ends is then told by the answer to the put alone.
-/

set_option autoImplicit false

namespace ConfigArtifact

open Interaction Fallible MetadataRepository ChannelRepository

variable {X : Platform} {s t : World} {env : Environment (runtime X) World}

/-- Any call but the put of a pointer is answered as documented. -/
def Honest (env : Environment (runtime X) World) : Prop :=
  ∀ call before reply after, (∀ data, call ≠ .structured (.put .channels data)) →
    env call before reply after → reliable X call before reply after

/-- Every answer is a documented one. -/
def Covered (env : Environment (runtime X) World) : Prop :=
  ∀ request before reply after, env request before reply after →
    reliable X request before reply after

theorem covered_reliable : Covered (reliable X) := fun _ _ _ _ answered => answered

theorem Covered.honest (covered : Covered env) : Honest env :=
  fun request before reply after _ answered => covered request before reply after answered

theorem runs_getResource (honest : Honest env) (consistent : Consistent X s) {resourceId : String}
    {required : Bool} {result : Except PyError (Option (StoredResourceV1 X))}
    (runs : (StructuredM.lift (getResource X resourceId required) : PyM X _).run.Runs env s result t) :
    t = s ∧ Looked X False s resourceId required result := by
  obtain ⟨reply, middle, answered, rfl, rfl⟩ := runs
  have reads : ∀ row, s.row? .metadata resourceId = some row → ∃ resource : StoredResourceV1 X,
      Reads .metadata (parseResource X) row resource ∧
        (Stores s resource ∧ resource.resourceId = resourceId) := by
    intro row found
    obtain ⟨resource, holds, stores, keyed, -⟩ := consistent.stores found
    exact ⟨resource, holds.reads, stores, keyed⟩
  exact lookup_of_served "structured resource result" required reads
    (Or.inl (honest _ _ _ _ (by simp) answered))

theorem runs_latestChannel (honest : Honest env) (consistent : Consistent X s) {key : ChannelKey}
    {required : Bool} {result : Except PyError (Option ResourceChannelV1)}
    (runs : (StructuredM.lift (latestChannel X key required) : PyM X _).run.Runs env s result t) :
    t = s ∧ Newest X False s key required result := by
  rw [run_latestChannel] at runs
  obtain ⟨reply, middle, answered, rfl, rfl⟩ := runs
  exact newest_of_served consistent (Or.inl (honest _ _ _ _ (by simp) answered))

theorem runs_currentTimestamp (honest : Honest env) {result : Except PyError String}
    (runs : (currentTimestamp : PyM X String).run.Runs env s result t) : t = s ∧ Timed False result := by
  rw [run_currentTimestamp] at runs
  obtain ⟨reply, middle, answered, rfl, rfl⟩ := runs
  obtain ⟨rfl, reading⟩ := honest _ _ _ _ (by simp) answered
  exact ⟨rfl, timed_of_reading reading⟩

section

variable {target : PromotionTarget X} {channel expectedPointerVersion actor : JsonValue}
  {profile : Option ResourceProfile} {resource other : StoredResourceV1 X} {key : ChannelKey}
  {version : Nat}

/-- The resource that a target names in a state. -/
def Targets (s : World) (resource : StoredResourceV1 X) : PromotionTarget X → Prop
  | .resource copy => resource = copy
  | .reference reference => Stores s resource ∧ resource.ref = reference
  | .identity identity => Stores s resource ∧ resource.resourceId = identity.resourceId X

theorem Targets.unique (first : Targets s resource target) (second : Targets s other target) :
    other = resource := by
  cases target with
  | resource copy => exact second.trans first.symm
  | reference reference =>
    have same := congrArg StoredResourceRef.identity (second.2.trans first.2.symm)
    exact first.1.unique second.1 (congrArg (ResourceIdentity.resourceId X) same)
  | identity identity => exact first.1.unique second.1 (second.2.trans first.2.symm)

/-- The resource a selection has found is the target; what it has not found nothing is. -/
def Finds (s : World) (target : PromotionTarget X) : Except PyError (StoredResourceV1 X) → Prop
  | .ok resource => Targets s resource target
  | .error error => error.isArgumentError = false ∧ ∀ resource, ¬Targets s resource target

theorem finds_missing {identity : ResourceIdentity}
    (missing : s.row? .metadata (identity.resourceId X) = none) (stores : Stores s resource)
    (named : resource.resourceId = identity.resourceId X) : False := by
  obtain ⟨row, found, -⟩ := stores
  rw [named, missing] at found
  cases found

theorem runs_selectTarget (honest : Honest env) (consistent : Consistent X s)
    {result : Except PyError (StoredResourceV1 X)}
    (runs : (selectTarget target : PyM X _).run.Runs env s result t) :
    t = s ∧ Finds s target result := by
  unfold selectTarget at runs
  cases target with
  | resource copy =>
    obtain ⟨rfl, rfl⟩ := runs
    exact ⟨rfl, rfl⟩
  | reference reference =>
    obtain ⟨first, u, looked, runs⟩ := runs_then runs
    obtain ⟨rfl, looked⟩ := runs_getResource honest consistent looked
    match first, looked with
    | .error error, missing =>
      obtain ⟨rfl, rfl⟩ := runs
      obtain ⟨-, absent, rfl⟩ := missing.resolve_left id
      refine ⟨rfl, rfl, fun resource targets => ?_⟩
      obtain ⟨stores, rfl⟩ := targets
      exact finds_missing absent stores rfl
    | .ok none, impossible => cases impossible.1
    | .ok (some resource), looked =>
      rw [andThen_ok] at runs
      dsimp only at runs
      split at runs
      · next different =>
        obtain ⟨rfl, rfl⟩ := runs
        refine ⟨rfl, rfl, fun other targets => different ?_⟩
        have named := congrArg (ResourceIdentity.resourceId X)
          (congrArg StoredResourceRef.identity targets.2)
        obtain rfl := looked.1.unique targets.1 (named.trans looked.2.symm)
        exact targets.2
      · next same =>
        obtain ⟨rfl, rfl⟩ := runs
        exact ⟨rfl, looked.1, not_not.mp same⟩
  | identity identity =>
    obtain ⟨first, u, looked, runs⟩ := runs_then runs
    obtain ⟨rfl, looked⟩ := runs_getResource honest consistent looked
    match first, looked with
    | .error error, missing =>
      obtain ⟨rfl, rfl⟩ := runs
      obtain ⟨-, absent, rfl⟩ := missing.resolve_left id
      exact ⟨rfl, rfl, fun resource targets => finds_missing absent targets.1 targets.2⟩
    | .ok none, impossible => cases impossible.1
    | .ok (some resource), looked =>
      obtain ⟨rfl, rfl⟩ := runs
      exact ⟨rfl, looked⟩

/-- The pointer a promotion puts in a state, whenever it puts one. -/
structure Requests (s : World) (target : PromotionTarget X)
    (channel expectedPointerVersion actor : JsonValue) (profile : Option ResourceProfile)
    (resource : StoredResourceV1 X) (key : ChannelKey) (version : Nat) : Prop where
  target : Targets s resource target
  checked : checkTarget resource profile = .ok ()
  channel : channelName channel = .ok key.channel
  keyed : key = channelOf resource key.channel
  version : ∃ expected current, expectedPointer expectedPointerVersion = .ok expected ∧
    Newest X False s key false (.ok current) ∧ successor current expected = some version
  actor : ∃ name, boundedString actor "actor" 512 = .ok name

theorem Newest.version_eq {first second : Option ResourceChannelV1}
    (newest : Newest X False s key false (.ok first))
    (again : Newest X False s key false (.ok second)) :
    first.map (fun pointer => pointer.pointerVersion) =
      second.map fun pointer => pointer.pointerVersion := by
  cases first with
  | none =>
    cases second with
    | none => rfl
    | some pointer => exact absurd again.2.1 (newest.2 pointer again.1)
  | some pointer =>
    cases second with
    | none => exact absurd newest.2.1 (again.2 pointer newest.1)
    | some later =>
      have upper := newest.2.2 later again.1 again.2.1
      have lower := again.2.2 pointer newest.1 newest.2.1
      exact congrArg some (Nat.le_antisymm lower upper)

theorem successor_congr {first second : Option ResourceChannelV1} (expected : Nat)
    (same : first.map (fun pointer => pointer.pointerVersion) =
      second.map fun pointer => pointer.pointerVersion) :
    successor first expected = successor second expected := by
  cases first with
  | none =>
    cases second with
    | none => rfl
    | some later => cases same
  | some pointer =>
    cases second with
    | none => cases same
    | some later =>
      unfold successor
      simp only [Option.map_some, Option.some.injEq] at same
      dsimp only
      rw [same]

/-- A state leaves a promotion one pointer to ask for. -/
theorem Requests.unique {later : ChannelKey} {next : Nat}
    (requests : Requests s target channel expectedPointerVersion actor profile resource key version)
    (again : Requests s target channel expectedPointerVersion actor profile other later next) :
    other = resource ∧ later = key ∧ next = version := by
  obtain rfl := requests.target.unique again.target
  have named : later.channel = key.channel := Except.ok.inj (again.channel.symm.trans requests.channel)
  obtain rfl : later = key := by rw [again.keyed, named, ← requests.keyed]
  refine ⟨rfl, rfl, ?_⟩
  obtain ⟨expected, current, counted, newest, selected⟩ := requests.version
  obtain ⟨expected', current', counted', newest', selected'⟩ := again.version
  obtain rfl : expected = expected' := Except.ok.inj (counted.symm.trans counted')
  rw [successor_congr expected (newest.version_eq newest'), selected'] at selected
  exact Option.some.inj selected

theorem requestedPointer_total {updatedAt name : String}
    (channelled : channelName channel = .ok key.channel) (positive : 1 ≤ version)
    (acted : boundedString actor "actor" 512 = .ok name)
    (timed : utcTimestamp (.str updatedAt) = .ok updatedAt) :
    ∃ pointer, requestedPointer resource key.channel version actor updatedAt = .ok pointer := by
  obtain ⟨rfl, bounded⟩ := boundedString_ok acted
  let fields : ResourceChannelFields :=
    ⟨channelOf resource key.channel, resource.resourceId, version, name, updatedAt, none⟩
  have valid : IsResourceChannel fields := {
    «namespace» := resource.identity.namespace_valid
    kind := resource.identity.kind_valid
    name := resource.identity.name_valid
    channel := (channelName_ok channelled).2
    pointerVersion := positive
    targetResourceId := ResourceIdentity.isResourceId_resourceId X _
    actor := bounded
    updatedAt := timed }
  exact ⟨⟨fields, valid⟩, ResourceChannelV1.create_self X ⟨fields, valid⟩⟩

/-- What a promotion makes of the pointer its put is answered with. -/
def insertion (key : ChannelKey) (requested : ResourceChannelV1) :
    Except PyError ResourceChannelV1 → Except PyError ResourceChannelV1
  | .error error =>
    .error (if error.hasCategory .conflict then staleChannelPointer (some (channelText key)) else error)
  | .ok winner =>
    if winner.targetResourceId ≠ requested.targetResourceId then
      .error (staleChannelPointer (some (channelText key)))
    else .ok winner

theorem insertion_ok {requested pointer : ResourceChannelV1}
    {read : Except PyError ResourceChannelV1} (accepted : insertion key requested read = .ok pointer) :
    read = .ok pointer ∧ pointer.targetResourceId = requested.targetResourceId := by
  unfold insertion at accepted
  cases read with
  | error error => cases accepted
  | ok winner =>
    dsimp only at accepted
    split at accepted
    · cases accepted
    · next same =>
      cases accepted
      exact ⟨rfl, not_not.mp same⟩

theorem insertion_of_target {requested pointer : ResourceChannelV1}
    (same : pointer.targetResourceId = requested.targetResourceId) :
    insertion key requested (.ok pointer) = .ok pointer := if_neg (not_not.mpr same)

theorem run_insertPointer (requested : ResourceChannelV1) :
    (insertPointer key requested : PyM X _).run =
      .call (.structured (.put .channels (requested.toRecord X))) fun reply =>
        .done (insertion key requested (reply >>= fun result =>
          recordOf result "structured channel put result" >>= parseChannel X)) := by
  unfold insertPointer
  rw [run_attempt_bind, run_putChannel, Program.call_bind]
  congr 1
  funext reply
  rw [Program.done_bind]
  generalize (reply >>= fun result =>
    recordOf result "structured channel put result" >>= parseChannel X) = read
  cases read with
  | error error =>
    unfold insertion
    dsimp only
    split <;> rfl
  | ok winner =>
    unfold insertion
    dsimp only
    split <;> rfl

/-- The pointer that was put is the requested one. -/
structure IsRequested (resource : StoredResourceV1 X) (key : ChannelKey) (version : Nat)
    (pointer : ResourceChannelV1) : Prop where
  key : pointer.key = key
  version : pointer.pointerVersion = version
  target : pointer.targetResourceId = resource.resourceId

theorem IsRequested.channelVersionId {resource : StoredResourceV1 X} {key : ChannelKey}
    {version : Nat} {requested : ResourceChannelV1}
    (asked : IsRequested resource key version requested) : requested.channelVersionId X =
      ConfigArtifact.channelVersionId X key.namespace key.kind key.name key.channel version := by
  unfold ResourceChannelFields.channelVersionId
  rw [asked.key, asked.version]

/-- Arguments that a promotion does not reject. -/
structure IsCoherent (channel expectedPointerVersion actor : JsonValue) : Prop where
  channel : ∃ name, channelName channel = .ok name
  expected : ∃ version, expectedPointer expectedPointerVersion = .ok version
  actor : ∃ name, boundedString actor "actor" 512 = .ok name

theorem checkTarget_error {error : PyError} (refused : checkTarget resource profile = .error error) :
    error.isArgumentError = false := by
  unfold checkTarget raiseIf at refused
  cases profile with
  | none =>
    dsimp only [ok_bind] at refused
    split at refused <;> cases refused
    rfl
  | some profile =>
    dsimp only at refused
    split at refused
    · cases refused
      rfl
    · dsimp only [ok_bind] at refused
      split at refused <;> cases refused
      rfl

/-- How a promotion ends: before its put, for a reason, or with what its put is answered. -/
inductive Promotes (env : Environment (runtime X) World) (s : World) (target : PromotionTarget X)
    (channel expectedPointerVersion actor : JsonValue) (profile : Option ResourceProfile) :
    Except PyError ResourceChannelV1 → World → Prop
  | stops {error : PyError}
      (blame : error.isArgumentError = true → ¬IsCoherent channel expectedPointerVersion actor)
      (reason : ∀ resource key version,
        ¬Requests s target channel expectedPointerVersion actor profile resource key version) :
      Promotes env s target channel expectedPointerVersion actor profile (.error error) s
  | puts {resource : StoredResourceV1 X} {key : ChannelKey} {version : Nat}
      {requested : ResourceChannelV1} {reply : Except PyError OperationResult} {t : World}
      (requests : Requests s target channel expectedPointerVersion actor profile resource key version)
      (asked : IsRequested resource key version requested)
      (answered : env (.structured (.put .channels (requested.toRecord X))) s reply t) :
      Promotes env s target channel expectedPointerVersion actor profile
        (insertion key requested (reply >>= fun result =>
          recordOf result "structured channel put result" >>= parseChannel X)) t

theorem runs_insertPointer {requested : ResourceChannelV1}
    {result : Except PyError ResourceChannelV1}
    (requests : Requests s target channel expectedPointerVersion actor profile resource key version)
    (asked : IsRequested resource key version requested)
    (runs : (insertPointer key requested : PyM X _).run.Runs env s result t) :
    Promotes env s target channel expectedPointerVersion actor profile result t := by
  rw [run_insertPointer] at runs
  obtain ⟨reply, middle, answered, rfl, rfl⟩ := runs
  exact .puts requests asked answered

theorem runs_request (honest : Honest env) (channelled : channelName channel = .ok key.channel)
    (positive : 1 ≤ version)
    (ready : (∃ name, boundedString actor "actor" 512 = .ok name) →
      Requests s target channel expectedPointerVersion actor profile resource key version)
    {result : Except PyError ResourceChannelV1} (runs : (do
      let updatedAt ← currentTimestamp
      let requested ← settle (requestedPointer resource key.channel version actor updatedAt)
      insertPointer key requested : PyM X _).run.Runs env s result t) :
    Promotes env s target channel expectedPointerVersion actor profile result t := by
  obtain ⟨first, u, reads, runs⟩ := runs_then runs
  obtain ⟨rfl, timed⟩ := runs_currentTimestamp honest reads
  cases first with
  | error error => cases timed
  | ok updatedAt =>
    obtain ⟨time, written⟩ := timed
    have runs := runs_settle runs
    cases asked : requestedPointer resource key.channel version actor updatedAt with
    | error error =>
      -- All but the actor of the pointer is known to be valid.
      rw [asked] at runs
      obtain ⟨rfl, rfl⟩ := runs
      have refused : ¬∃ name, boundedString actor "actor" 512 = .ok name := by
        rintro ⟨name, acted⟩
        obtain ⟨pointer, accepted⟩ := requestedPointer_total channelled positive acted
          (utcTimestampOfDatetime_ok written)
        cases asked.symm.trans accepted
      exact .stops (fun _ coherent => refused coherent.actor)
        fun _ _ _ requests => refused requests.actor
    | ok requested =>
      rw [asked, andThen_ok] at runs
      obtain ⟨keyed, counted, aimed⟩ := requestedPointer_ok asked
      obtain ⟨-, -, -, -, -, -, acted, -⟩ := ResourceChannelV1.create_ok asked
      have requests := ready ⟨requested.actor, by
        rw [show actor = .str requested.actor from acted]
        exact boundedString_str requested.valid.actor⟩
      exact runs_insertPointer requests ⟨keyed.trans requests.keyed.symm, counted, aimed⟩ runs

theorem runs_promote (honest : Honest env) (consistent : Consistent X s)
    {result : Except PyError ResourceChannelV1}
    (runs : (promote target channel expectedPointerVersion actor profile).run.Runs env s result t) :
    Promotes env s target channel expectedPointerVersion actor profile result t := by
  unfold promote at runs
  have runs := runs_settle runs
  cases counted : expectedPointer expectedPointerVersion with
  | error error =>
    rw [counted] at runs
    obtain ⟨rfl, rfl⟩ := runs
    refine .stops (fun _ coherent => ?_) fun resource key version requests => ?_
    · obtain ⟨expected, accepted⟩ := coherent.expected
      cases counted.symm.trans accepted
    · obtain ⟨expected, -, accepted, -⟩ := requests.version
      cases counted.symm.trans accepted
  | ok expected =>
    rw [counted, andThen_ok] at runs
    obtain ⟨first, u, selects, runs⟩ := runs_then runs
    obtain ⟨rfl, finds⟩ := runs_selectTarget honest consistent selects
    cases first with
    | error error =>
      obtain ⟨rfl, rfl⟩ := runs
      exact .stops (fun argument => by rw [finds.1] at argument; cases argument)
        fun resource key version requests => finds.2 resource requests.target
    | ok resource =>
      rw [andThen_ok] at runs
      have runs := runs_settle runs
      cases checked : checkTarget resource profile with
      | error error =>
        rw [checked] at runs
        obtain ⟨rfl, rfl⟩ := runs
        refine .stops (fun argument => ?_) fun other key version requests => ?_
        · rw [checkTarget_error checked] at argument
          cases argument
        have accepted := requests.checked
        rw [finds.unique requests.target, checked] at accepted
        cases accepted
      | ok _ =>
        rw [checked, andThen_ok] at runs
        have runs := runs_settle runs
        cases named : channelName channel with
        | error error =>
          rw [named] at runs
          obtain ⟨rfl, rfl⟩ := runs
          refine .stops (fun _ coherent => ?_) fun other key version requests => ?_
          · obtain ⟨selected, accepted⟩ := coherent.channel
            cases named.symm.trans accepted
          · cases named.symm.trans requests.channel
        | ok selected =>
          rw [named, andThen_ok] at runs
          obtain ⟨current, v, reads, runs⟩ := runs_then runs
          rw [run_get_channel named] at reads
          obtain ⟨rfl, newest⟩ := runs_latestChannel honest consistent reads
          cases current with
          | error error => exact absurd (newest.resolve_left id).1 (by simp)
          | ok current =>
            rw [andThen_ok] at runs
            cases next : successor current expected with
            | none =>
              rw [next] at runs
              obtain ⟨rfl, rfl⟩ := runs
              refine .stops (fun argument => by cases argument) fun other key version requests => ?_
              obtain ⟨expected', current', counted', newest', selected'⟩ := requests.version
              obtain rfl := Except.ok.inj (counted.symm.trans counted')
              obtain rfl := finds.unique requests.target
              -- The request would have read the same pointer, and expected another.
              obtain rfl : key.channel = selected := Except.ok.inj (requests.channel.symm.trans named)
              rw [← requests.keyed] at newest
              rw [successor_congr expected (newest'.version_eq newest), next] at selected'
              cases selected'
            | some pointerVersion =>
              rw [next] at runs
              obtain ⟨counts, -⟩ := successor_eq next
              exact runs_request honest named (by omega) (fun acted => ⟨finds, checked, named, rfl,
                ⟨expected, current, counted, newest, next⟩, acted⟩) runs

/-- A promotion that raises over stores that conform has changed nothing. -/
theorem Promotes.unchanged (covered : Covered env) {result : Except PyError ResourceChannelV1}
    (promotes : Promotes env s target channel expectedPointerVersion actor profile result t)
    {error : PyError} (raised : result = .error error) :
    t = s ∧ (error.isArgumentError = true → ¬IsCoherent channel expectedPointerVersion actor) := by
  cases promotes with
  | stops blame reason =>
    cases raised
    exact ⟨rfl, blame⟩
  | @puts resource key version requested reply t requests asked answered =>
    rcases put_of_served (keyOf_channel requested)
        (@serving_of_reliable X False _ _ _ _ (covered _ _ _ _ answered)) with
      ⟨version, absent, changed, found | fault⟩ | ⟨rfl, other, rfl, reason⟩
    · obtain ⟨data, resources, rfl, presented⟩ := found
      have read : (recordOf ⟨data, resources⟩ "structured channel put result" >>= parseChannel X) =
          .ok (requested.withVersion (some version)) :=
        recordOf_presented (reads_channel requested version) presented
      change insertion key requested (recordOf _ _ >>= parseChannel X) = _ at raised
      have same : (requested.withVersion (some version)).targetResourceId =
          requested.targetResourceId := rfl
      rw [read, insertion_of_target same] at raised
      cases raised
    · exact absurd fault.1 id
    · obtain ⟨-, conflict⟩ := reason.resolve_left id
      cases raised
      refine ⟨rfl, fun argument => ?_⟩
      rw [if_pos conflict] at argument
      cases argument

/-- Channel arguments of a publication that it does not reject. -/
def ChannelArguments (channel expectedPointerVersion : JsonValue) : Prop :=
  Unpromoted channel expectedPointerVersion ∨ (∃ name, channelName channel = .ok name) ∧
    ∃ version, expectedPointer expectedPointerVersion = .ok version

/-- The promotion at the end of a publication: none, one that is rejected, or one that runs. -/
theorem runs_promotePublished {profile : ResourceProfile}
    {result : Except PyError (Option ResourceChannelV1)}
    (runs : (promotePublished profile resource channel expectedPointerVersion actor).run.Runs env s
      result t) :
    Unpromoted channel expectedPointerVersion ∧ t = s ∧ result = .ok none ∨
    ¬ChannelArguments channel expectedPointerVersion ∧ t = s ∧
      (∃ message, result = .error (.valueError message)) ∨
    ¬Unpromoted channel expectedPointerVersion ∧ ∃ promoted, result = some <$> promoted ∧
      (promote (.resource resource) channel expectedPointerVersion actor (some profile)).run.Runs
        env s promoted t := by
  unfold promotePublished at runs
  by_cases silent : channel = .null
  · rw [if_pos silent] at runs
    by_cases uncounted : expectedPointerVersion = .null
    · rw [if_neg (not_not.mpr uncounted)] at runs
      obtain ⟨rfl, rfl⟩ := runs
      exact Or.inl ⟨⟨silent, uncounted⟩, rfl, rfl⟩
    · rw [if_pos uncounted] at runs
      obtain ⟨rfl, rfl⟩ := runs
      refine Or.inr (Or.inl ⟨?_, rfl, _, rfl⟩)
      rintro (⟨-, absent⟩ | ⟨⟨name, named⟩, -⟩)
      · exact uncounted absent
      · rw [silent] at named
        cases named
  · rw [if_neg silent] at runs
    by_cases uncounted : expectedPointerVersion = .null
    · rw [if_pos uncounted] at runs
      obtain ⟨rfl, rfl⟩ := runs
      refine Or.inr (Or.inl ⟨?_, rfl, _, rfl⟩)
      rintro (⟨absent, -⟩ | ⟨-, version, counted⟩)
      · exact silent absent
      · rw [uncounted] at counted
        cases counted
    · rw [if_neg uncounted] at runs
      obtain ⟨promoted, u, promotes, rest⟩ := runs_then runs
      refine Or.inr (Or.inr ⟨fun both => silent both.1, promoted, ?_⟩)
      cases promoted with
      | ok pointer =>
        obtain ⟨rfl, rfl⟩ := rest
        exact ⟨rfl, promotes⟩
      | error error =>
        obtain ⟨rfl, rfl⟩ := rest
        exact ⟨rfl, promotes⟩

theorem expectedPointer_error {value : JsonValue} {error : PyError}
    (refused : expectedPointer value = .error error) : error.isArgumentError = true := by
  unfold expectedPointer at refused
  split at refused
  · split at refused <;> cases refused
    rfl
  · cases refused
    rfl

/-- A promotion of a resource that may be promoted blames its other arguments. -/
theorem runs_promote_rejected (checked : checkTarget resource profile = .ok ())
    (rejected : ¬((∃ name, channelName channel = .ok name) ∧
      ∃ version, expectedPointer expectedPointerVersion = .ok version))
    {result : Except PyError ResourceChannelV1}
    (runs : (promote (.resource resource) channel expectedPointerVersion actor profile).run.Runs env
      s result t) : ∃ error, result = .error error ∧ error.isArgumentError = true := by
  unfold promote at runs
  have runs := runs_settle runs
  cases counted : expectedPointer expectedPointerVersion with
  | error error =>
    rw [counted] at runs
    obtain ⟨rfl, -⟩ := runs
    exact ⟨error, rfl, expectedPointer_error counted⟩
  | ok expected =>
    rw [counted, andThen_ok] at runs
    obtain ⟨first, u, selects, runs⟩ := runs_then runs
    obtain ⟨rfl, rfl⟩ := selects
    rw [andThen_ok] at runs
    have runs := runs_settle runs
    rw [checked, andThen_ok] at runs
    have runs := runs_settle runs
    cases named : channelName channel with
    | error error =>
      rw [named] at runs
      obtain ⟨rfl, -⟩ := runs
      exact ⟨error, rfl, channelName_error named⟩
    | ok selected => exact absurd ⟨⟨selected, named⟩, expected, counted⟩ rejected

theorem promotePublished_unchanged (covered : Covered env) (consistent : Consistent X s)
    {profile : ResourceProfile} {error : PyError}
    (runs : (promotePublished profile resource channel expectedPointerVersion actor).run.Runs env s
      (.error error) t) : t = s := by
  rcases runs_promotePublished runs with ⟨-, -, raised⟩ | ⟨-, rfl, -⟩ | ⟨-, promoted, same, promotes⟩
  · cases raised
  · rfl
  · cases promoted with
    | ok pointer => cases same
    | error other =>
      exact ((runs_promote covered.honest consistent promotes).unchanged covered rfl).1

/-- The promotion of a published resource blames exactly the channel arguments. -/
theorem promotePublished_rejected (covered : Covered env) (consistent : Consistent X s)
    (published : resource.state = .published) (acted : ∃ name, boundedString actor "actor" 512 = .ok name)
    {result : Except PyError (Option ResourceChannelV1)}
    (runs : (promotePublished resource.profile resource channel expectedPointerVersion actor).run.Runs
      env s result t) : (∃ error, result = .error error ∧ error.isArgumentError = true) ↔
      ¬ChannelArguments channel expectedPointerVersion := by
  rcases runs_promotePublished runs with ⟨alone, -, rfl⟩ | ⟨rejected, -, message, rfl⟩ |
    ⟨given, promoted, rfl, promotes⟩
  · refine ⟨?_, fun rejected => absurd (Or.inl alone) rejected⟩
    rintro ⟨error, raised, -⟩
    cases raised
  · exact ⟨fun _ => rejected, fun _ => ⟨_, rfl, rfl⟩⟩
  · have checked : checkTarget resource (some resource.profile) = .ok () :=
      bind_ok.mpr ⟨(), raiseIf_ok.mpr (by simp), raiseIf_ok.mpr (by simp [published])⟩
    constructor
    · rintro ⟨error, raised, argument⟩ (alone | ⟨named, counted⟩)
      · exact given alone
      · cases promoted with
        | ok pointer => cases raised
        | error other =>
          cases raised
          have unchanged := (runs_promote covered.honest consistent promotes).unchanged covered rfl
          exact unchanged.2 argument ⟨named, counted, acted⟩
    · intro rejected
      obtain ⟨error, rfl, argument⟩ := runs_promote_rejected checked
        (fun both => rejected (Or.inr both)) promotes
      exact ⟨error, rfl, argument⟩

end

end ConfigArtifact
