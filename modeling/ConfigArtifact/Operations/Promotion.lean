import ConfigArtifact.Channels
import ConfigArtifact.Store.Calls

/-! What one promotion does among others.

Between the pointer it reads and the pointer it inserts anything may happen; the
insertion succeeds only where no row is, so a promotion that returns has
inserted the successor of the version its caller expected, and one that raises
has inserted nothing.
-/

set_option autoImplicit false

namespace ConfigArtifact

open Interaction Fallible Relation MetadataRepository ChannelRepository

variable {X : Platform} {P : Policy X} {first s t u : World} {faults : Prop}

/-- A resource that was stored at some moment up to now. -/
def Seen (P : Policy X) (first t : World) (resource : StoredResourceV1 X) : Prop :=
  ∃ earlier, Changes P first earlier ∧ Changes P earlier t ∧ Stores earlier resource

theorem Seen.later {resource : StoredResourceV1 X} (seen : Seen P first t resource)
    (moved : Changes P t u) : Seen P first u resource := by
  obtain ⟨earlier, began, since, stores⟩ := seen
  exact ⟨earlier, began, since.trans moved, stores⟩

theorem Seen.succeeded {resource : StoredResourceV1 X} (seen : Seen P first t resource) :
    ∃ later, Stores t later ∧ Succeeds resource later := by
  obtain ⟨earlier, -, since, stores⟩ := seen
  exact since.evolves.stored resource stores

theorem Seen.live {resource : StoredResourceV1 X} (seen : Seen P first t resource) :
    Live t resource := by
  obtain ⟨later, stores, succeeds⟩ := seen.succeeded
  exact ⟨later, stores, succeeds.same⟩

theorem seen_now {resource : StoredResourceV1 X} (began : Changes P first t)
    (stores : Stores t resource) : Seen P first t resource := ⟨t, began, .refl, stores⟩

/-- The resource a promotion has checked, for each form of its target. -/
def Chosen (P : Policy X) (first t : World) (resource : StoredResourceV1 X) :
    PromotionTarget X → Prop
  | .resource copy => resource = copy
  | .reference reference => Seen P first t resource ∧ resource.ref = reference
  | .identity identity => Seen P first t resource ∧ resource.resourceId = identity.resourceId X

theorem Chosen.later {resource : StoredResourceV1 X} {target : PromotionTarget X}
    (chosen : Chosen P first t resource target) (moved : Changes P t u) :
    Chosen P first u resource target := by
  cases target with
  | resource copy => exact chosen
  | reference reference => exact ⟨chosen.1.later moved, chosen.2⟩
  | identity identity => exact ⟨chosen.1.later moved, chosen.2⟩

theorem checkTarget_ok {resource : StoredResourceV1 X} {profile : Option ResourceProfile}
    {result : Unit} (accepted : checkTarget resource profile = .ok result) :
    resource.state = .published ∧ ∀ expected ∈ profile, resource.profile = expected := by
  cases profile with
  | none => exact ⟨not_not.mp (raiseIf_ok.mp accepted), fun _ member => by cases member⟩
  | some profile =>
    obtain ⟨_, profiled, accepted⟩ := bind_ok.mp accepted
    refine ⟨not_not.mp (raiseIf_ok.mp accepted), ?_⟩
    rintro expected ⟨⟩
    exact not_not.mp (raiseIf_ok.mp profiled)

theorem requestedPointer_ok {resource : StoredResourceV1 X} {channel updatedAt : String}
    {pointerVersion : Nat} {actor : JsonValue} {pointer : ResourceChannelV1}
    (accepted : requestedPointer resource channel pointerVersion actor updatedAt = .ok pointer) :
    pointer.key = channelOf resource channel ∧ pointer.pointerVersion = pointerVersion ∧
      pointer.targetResourceId = resource.resourceId := by
  obtain ⟨space, kind, name, inner, version, target, -, -⟩ := ResourceChannelV1.create_ok accepted
  have keyed : ∀ key : ChannelKey, resource.identity.namespace = key.namespace →
      resource.identity.kind = key.kind → resource.identity.name = key.name →
      channel = key.channel → key = channelOf resource channel := by
    rintro ⟨⟩ rfl rfl rfl rfl
    rfl
  refine ⟨keyed _ (JsonValue.str.inj space) (JsonValue.str.inj kind) (JsonValue.str.inj name)
    (JsonValue.str.inj inner), ?_, (JsonValue.str.inj target).symm⟩
  have positive : 1 ≤ pointerVersion := by
    have := ResourceChannelV1.positiveVersion_ok version
    by_contra zero
    obtain rfl : pointerVersion = 0 := by omega
    cases version
  rw [ResourceChannelV1.positiveVersion_natJson positive] at version
  exact (Except.ok.inj version).symm

theorem successor_eq {current : Option ResourceChannelV1} {expected next : Nat}
    (selected : successor current expected = some next) :
    next = expected + 1 ∧ (current = none ∧ next = 1 ∨
      ∃ pointer, current = some pointer ∧ pointer.pointerVersion + 1 = next) := by
  unfold successor at selected
  cases current with
  | none =>
    simp only at selected
    split at selected
    · next zero => cases selected; exact ⟨by omega, Or.inl ⟨rfl, rfl⟩⟩
    · cases selected
  | some pointer =>
    simp only at selected
    split at selected
    · next same => cases selected; exact ⟨by omega, Or.inr ⟨pointer, rfl, rfl⟩⟩
    · cases selected

theorem run_get_channel {resource : StoredResourceV1 X} {channel : JsonValue} {selected : String}
    (accepted : channelName channel = .ok selected) (required : Bool) :
    (ChannelRepository.get X (.str (channelOf resource selected).namespace)
      (.str (channelOf resource selected).kind) (.str (channelOf resource selected).name)
      (.str (channelOf resource selected).channel) required).run =
      (StructuredM.lift (latestChannel X (channelOf resource selected) required) : PyM X _).run := by
  have again : channelName (.str selected) = .ok selected := by rw [← (channelName_ok accepted).1, accepted]
  change (ChannelRepository.get X (.str resource.identity.namespace) (.str resource.identity.kind)
    (.str resource.identity.name) (.str selected) required).run = _
  unfold ChannelRepository.get
  rw [run_settle_bind, logicalName_of_isName resource.identity.namespace_valid, andThen_ok,
    run_settle_bind, logicalName_of_isName resource.identity.kind_valid, andThen_ok,
    run_settle_bind, logicalName_of_isName resource.identity.name_valid, andThen_ok,
    run_settle_bind, again, andThen_ok]
  rfl

/-- What a promotion that returns has done. -/
structure Promoted (P : Policy X) (first : World) (target : PromotionTarget X)
    (channel expectedPointerVersion : JsonValue) (profile : Option ResourceProfile)
    (history : List (Event (runtime X) World)) (t : World) (pointer : ResourceChannelV1) : Prop where
  expected : ∃ version, expectedPointer expectedPointerVersion = .ok version ∧
    pointer.pointerVersion = version + 1
  inserted : ∃ version, pointer.recordVersion = some version ∧ Once (fun before after =>
    before.row? .channels (pointer.channelVersionId X) = none ∧
      after = before.promote X pointer version) history
  channel : channel = .str pointer.key.channel
  target : ∃ resource, Chosen P first t resource target ∧ resource.state = .published ∧
    (∀ expected ∈ profile, resource.profile = expected) ∧
    pointer.targetResourceId = resource.resourceId ∧
    pointer.key = channelOf resource pointer.key.channel

/-- How a promotion may end. -/
def PromotionEnds (faults : Prop) (P : Policy X) (first : World) (target : PromotionTarget X)
    (channel expectedPointerVersion : JsonValue) (profile : Option ResourceProfile) :
    Postcondition (runtime X) World (Except PyError ResourceChannelV1) :=
  fun history t result => match result with
    | .ok pointer =>
      Promoted P first target channel expectedPointerVersion profile history t pointer
    | .error _ => faults ∨ Quiet history

/-- A copy that is promoted must be stored where channels only name stored resources. -/
def Vouched (P : Policy X) (s : World) (target : PromotionTarget X) : Prop :=
  P.live → ∀ copy, target = .resource copy → Live s copy

section

variable {target : PromotionTarget X} {channel expectedPointerVersion actor : JsonValue}
  {profile : Option ResourceProfile} {history : List (Event (runtime X) World)}

theorem safe_stop {A : Type} {error : PyError} {post : Postcondition (runtime X) World (Except PyError A)}
    (ends : ∀ t, post history t (.error error)) :
    (Program.done (.error error)).Safe (following P first) (serving X faults) post history s :=
  fun t _ _ => ends t

theorem safe_insertPointer {key : ChannelKey} {requested : ResourceChannelV1} {expected : Nat}
    {resource : StoredResourceV1 X} {selected : String} (quiet : Quiet history)
    (counted : expectedPointer expectedPointerVersion = .ok expected)
    (next : requested.pointerVersion = expected + 1) (named : channel = .str selected)
    (keyed : requested.key = channelOf resource selected)
    (aimed : requested.targetResourceId = resource.resourceId)
    (checked : resource.state = .published ∧ ∀ expected ∈ profile, resource.profile = expected)
    (chosen : Chosen P first s resource target) (follows : Follows X s requested)
    (live : P.live → HasTarget X s requested) :
    (insertPointer key requested : PyM X _).run.Safe (following P first) (serving X faults)
      (PromotionEnds faults P first target channel expectedPointerVersion profile) history s := by
  unfold insertPointer
  rw [run_attempt_bind]
  refine safe_putChannel (fun t moved => ?_) (fun t moved strict => moved.evolves.hasTarget (live strict)) ?_
  · exact follows.imp id fun ⟨previous, points, rest⟩ => ⟨previous, moved.evolves.points points, rest⟩
  intro t u _ _ moved event before after result pointed
  cases result with
  | error error =>
    have silent : faults ∨ Quiet (history ++ [event]) := by
      rcases pointed with faulted | ⟨same, -⟩
      · exact Or.inl faulted
      · exact Or.inr (quiet.snoc (by rw [before, after, same]))
    dsimp only
    split
    · exact safe_stop fun _ => silent
    · exact safe_stop fun _ => silent
  | ok winner =>
    obtain ⟨version, absent, changed, rfl⟩ := pointed
    -- A put that is answered with a pointer has inserted the requested one.
    have same : ¬(requested.withVersion (some version)).targetResourceId ≠
        requested.targetResourceId := not_not.mpr rfl
    dsimp only
    rw [if_neg same]
    intro v later _
    have key : requested.key.channel = selected := by rw [keyed]; rfl
    have kept : Changes P s v := by
      refine moved.trans (.trans ?_ later)
      rw [changed]
      refine .single (.promoted absent ?_ fun strict => moved.evolves.hasTarget (live strict))
      exact follows.imp id fun ⟨previous, points, rest⟩ =>
        ⟨previous, moved.evolves.points points, rest⟩
    exact {
      expected := ⟨expected, counted, next⟩
      inserted := ⟨version, rfl, quiet.once (by rw [before, after]; exact ⟨absent, changed⟩)⟩
      channel := by rw [named]; exact congrArg JsonValue.str key.symm
      target := ⟨resource, chosen.later kept, checked.1, checked.2, aimed, by
        change requested.key = channelOf resource requested.key.channel
        rw [key, keyed]⟩ }

/-- What selecting the target tells. -/
def Selected (P : Policy X) (first t : World) (target : PromotionTarget X) :
    Except PyError (StoredResourceV1 X) → Prop
  | .ok resource => Chosen P first t resource target ∧ (P.live → Live t resource)
  | .error _ => True

theorem safe_selectTarget {A : Type} {next : Except PyError (StoredResourceV1 X) → Program (runtime X) A}
    {post : Postcondition (runtime X) World A} (kept : (following P first).invariant s)
    (vouched : Vouched P s target) (quiet : Quiet history)
    (rest : ∀ t, (following P first).invariant t → ∀ later, Quiet later →
      ∀ result, Selected P first t target result →
      (next result).Safe (following P first) (serving X faults) post later t) :
    ((selectTarget target : PyM X _).run.bind next).Safe (following P first) (serving X faults) post
      history s := by
  unfold selectTarget
  cases target with
  | resource copy => exact rest s kept history quiet _ ⟨rfl, fun strict => vouched strict copy rfl⟩
  | reference reference =>
    dsimp only
    rw [run_bind, Program.bind_assoc]
    refine safe_getResource fun t kept _ event before after result looked => ?_
    have silent : Quiet (history ++ [event]) := quiet.snoc (by rw [before, after])
    match result, looked with
    | .error error, _ => exact rest t kept _ silent (.error error) trivial
    | .ok none, _ => exact rest t kept _ silent (.error _) trivial
    | .ok (some resource), looked =>
      rw [andThen_ok]
      dsimp only
      split
      · exact rest t kept _ silent (.error _) trivial
      · next same =>
        exact rest t kept _ silent (.ok resource)
          ⟨⟨seen_now kept.2 looked.1, not_not.mp same⟩, fun _ => looked.1.live⟩
  | identity identity =>
    dsimp only
    rw [run_bind, Program.bind_assoc]
    refine safe_getResource fun t kept _ event before after result looked => ?_
    have silent : Quiet (history ++ [event]) := quiet.snoc (by rw [before, after])
    match result, looked with
    | .error error, _ => exact rest t kept _ silent (.error error) trivial
    | .ok none, _ => exact rest t kept _ silent (.error _) trivial
    | .ok (some resource), looked =>
      exact rest t kept _ silent (.ok resource)
        ⟨⟨seen_now kept.2 looked.1, looked.2⟩, fun _ => looked.1.live⟩

theorem Live.hasTarget {resource : StoredResourceV1 X} {pointer : ResourceChannelV1}
    {selected : String} (live : Live t resource)
    (keyed : pointer.key = channelOf resource selected)
    (aimed : pointer.targetResourceId = resource.resourceId) : HasTarget X t pointer := by
  obtain ⟨stored, stores, same⟩ := live
  refine ⟨stored, stores, same.resourceId.trans aimed.symm, ?_⟩
  rw [same.identity, keyed]
  exact ⟨rfl, rfl, rfl⟩

theorem safe_promote (kept : (following P first).invariant s) (vouched : Vouched P s target) :
    (promote target channel expectedPointerVersion actor profile).run.Safe (following P first)
      (serving X faults)
      (PromotionEnds faults P first target channel expectedPointerVersion profile) [] s := by
  unfold promote
  rw [run_settle_bind]
  cases counted : expectedPointer expectedPointerVersion with
  | error error => exact safe_stop fun _ => Or.inr quiet_nil
  | ok expected =>
    rw [andThen_ok, run_bind]
    refine safe_selectTarget kept vouched quiet_nil fun t _ read quiet result selection => ?_
    cases result with
    | error error => exact safe_stop fun _ => Or.inr quiet
    | ok resource =>
      obtain ⟨chosen, live⟩ := selection
      rw [andThen_ok, run_settle_bind]
      cases checked : checkTarget resource profile with
      | error error => exact safe_stop fun _ => Or.inr quiet
      | ok _ =>
        rw [andThen_ok, run_settle_bind]
        cases named : channelName channel with
        | error error => exact safe_stop fun _ => Or.inr quiet
        | ok selected =>
          rw [andThen_ok]
          dsimp only
          rw [run_bind, run_get_channel named]
          refine safe_latestChannel fun u _ moved event before after result newest => ?_
          have silent : Quiet (read ++ [event]) := quiet.snoc (by rw [before, after])
          cases result with
          | error error => exact safe_stop fun _ => Or.inr silent
          | ok current =>
            rw [andThen_ok]
            cases chosenVersion : successor current expected with
            | none => exact safe_stop fun _ => Or.inr silent
            | some pointerVersion =>
              dsimp only
              rw [run_bind]
              refine safe_currentTimestamp fun v _ further tick before' after' result timed => ?_
              have hushed : Quiet (read ++ [event] ++ [tick]) :=
                silent.snoc (by rw [before', after'])
              cases result with
              | error error => exact safe_stop fun _ => Or.inr hushed
              | ok updatedAt =>
                rw [andThen_ok, run_settle_bind]
                cases asked : requestedPointer resource selected pointerVersion actor updatedAt with
                | error error => exact safe_stop fun _ => Or.inr hushed
                | ok requested =>
                  obtain ⟨keyed, version, aimed⟩ := requestedPointer_ok asked
                  obtain ⟨next, follows⟩ := successor_eq chosenVersion
                  rw [andThen_ok]
                  refine safe_insertPointer hushed counted (version.trans next)
                    (channelName_ok named).1 keyed aimed (checkTarget_ok checked)
                    (chosen.later (moved.trans further)) ?_ ?_
                  -- The version is the first, or follows that of a pointer which is still there.
                  · rcases follows with ⟨rfl, one⟩ | ⟨pointer, rfl, after⟩
                    · exact Or.inl (version.trans one)
                    · exact Or.inr ⟨pointer, further.evolves.points newest.1,
                        newest.2.1.trans keyed.symm, after.trans version.symm⟩
                  · intro strict
                    have alive := further.evolves.live (moved.evolves.live (live strict))
                    exact alive.hasTarget keyed aimed

end

end ConfigArtifact
