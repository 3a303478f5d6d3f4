import ConfigArtifact.Operations.Deprecation

/-! What one channel resolution observes.

Resolution reads the newest pointer and then the resource it names; it changes
nothing, so what it returns is told by the two states it read.
-/

set_option autoImplicit false

namespace ConfigArtifact

open Interaction Fallible Relation MetadataRepository

variable {X : Platform} {P : Policy X} {first s t u : World} {faults : Prop}
  {history : List (Event (runtime X) World)}

/-- A check that admits the resources of one profile. -/
def ChecksProfile (profile : ResourceProfile) (require : StoredResourceV1 X → Except PyError Unit) :
    Prop :=
  ∀ resource : StoredResourceV1 X, (resource.profile = profile → require resource = .ok ()) ∧
    (resource.profile ≠ profile → ∃ error, require resource = .error error ∧
      error.hasType .incompatibleProfile = true)

theorem checksProfile_raiseIf {profile : ResourceProfile} {error : StoredResourceV1 X → PyError}
    (typed : ∀ resource, (error resource).hasType .incompatibleProfile = true) :
    ChecksProfile profile fun resource => raiseIf (resource.profile ≠ profile) (error resource) := by
  intro resource
  refine ⟨fun same => raiseIf_ok.mpr (not_not.mpr same), fun other => ?_⟩
  exact ⟨error resource, if_pos other, typed resource⟩

theorem ChecksProfile.isOk_iff {profile : ResourceProfile}
    {require : StoredResourceV1 X → Except PyError Unit} (checks : ChecksProfile profile require)
    (resource : StoredResourceV1 X) :
    (require resource).isOk = true ↔ resource.profile = profile := by
  by_cases same : resource.profile = profile
  · rw [(checks resource).1 same]
    simp [same, Except.isOk, Except.toBool]
  · obtain ⟨error, raised, -⟩ := (checks resource).2 same
    rw [raised]
    simp [same, Except.isOk, Except.toBool]

/-- A pointer of the channel, and none of it has a higher version. -/
def IsNewest (X : Platform) (s : World) (key : ChannelKey) (pointer : ResourceChannelV1) : Prop :=
  Points X s pointer ∧ pointer.key = key ∧
    ∀ other, Points X s other → other.key = key → other.pointerVersion ≤ pointer.pointerVersion

/-- The names of a channel, as a caller gives them. -/
def Names (key : ChannelKey) («namespace» kind name channel : JsonValue) : Prop :=
  «namespace» = .str key.namespace ∧ kind = .str key.kind ∧ name = .str key.name ∧
    channel = .str key.channel

theorem hasType_of_isDataError {error : PyError} (data : error.isDataError = true)
    (type : ErrorType) : error.hasType type = false := by
  cases error <;> first | rfl | cases data

/-- No pointer can be of the channel that is named. -/
def Misnamed («namespace» kind name channel : JsonValue) : Prop :=
  ∀ pointer : ResourceChannelV1, ¬Names pointer.key «namespace» kind name channel

theorem channelName_of_isChannelName {text : String}
    (valid : isBounded text 128 = true ∧ isChannelName text = true) :
    channelName (.str text) = .ok text :=
  bind_ok.mpr ⟨text, boundedString_str valid.1, if_pos valid.2⟩

/-- Reading a channel rejects names that are none, and otherwise asks for its newest pointer. -/
theorem run_get («namespace» kind name channel : JsonValue) (required : Bool) :
    (∃ error : PyError, error.isDataError = true ∧ Misnamed «namespace» kind name channel ∧
      (ChannelRepository.get X «namespace» kind name channel required).run = .done (.error error)) ∨
    ∃ key, Names key «namespace» kind name channel ∧
      (ChannelRepository.get X «namespace» kind name channel required).run =
        (StructuredM.lift (latestChannel X key required) : PyM X _).run := by
  unfold ChannelRepository.get
  rw [run_settle_bind]
  cases namespaced : logicalName «namespace» "namespace" with
  | error error =>
    refine Or.inl ⟨error, PyError.isDataError_of_argument (logicalName_error namespaced), ?_, rfl⟩
    rintro pointer ⟨rfl, -⟩
    cases namespaced.symm.trans (logicalName_of_isName pointer.valid.namespace _)
  | ok space =>
    rw [andThen_ok, run_settle_bind]
    cases kinded : logicalName kind "kind" with
    | error error =>
      refine Or.inl ⟨error, PyError.isDataError_of_argument (logicalName_error kinded), ?_, rfl⟩
      rintro pointer ⟨-, rfl, -⟩
      cases kinded.symm.trans (logicalName_of_isName pointer.valid.kind _)
    | ok selectedKind =>
      rw [andThen_ok, run_settle_bind]
      cases named : logicalName name "name" with
      | error error =>
        refine Or.inl ⟨error, PyError.isDataError_of_argument (logicalName_error named), ?_, rfl⟩
        rintro pointer ⟨-, -, rfl, -⟩
        cases named.symm.trans (logicalName_of_isName pointer.valid.name _)
      | ok selectedName =>
        rw [andThen_ok, run_settle_bind]
        cases channelled : channelName channel with
        | error error =>
          refine Or.inl ⟨error, PyError.isDataError_of_argument (channelName_error channelled), ?_, rfl⟩
          rintro pointer ⟨-, -, -, rfl⟩
          cases channelled.symm.trans (channelName_of_isChannelName pointer.valid.channel)
        | ok selected =>
          refine Or.inr ⟨⟨space, selectedKind, selectedName, selected⟩, ?_, rfl⟩
          exact ⟨(logicalName_ok namespaced).1, (logicalName_ok kinded).1, (logicalName_ok named).1,
            (channelName_ok channelled).1⟩

/-- What a resolution observed: the newest pointer, and later the resource it names. -/
def Observed (P : Policy X) (history : List (Event (runtime X) World)) (key : ChannelKey)
    (pointer : ResourceChannelV1) (resource : StoredResourceV1 X) : Prop :=
  ∃ read lookup : Event (runtime X) World, history = [read, lookup] ∧
    IsNewest X read.before key pointer ∧ Changes P read.before lookup.before ∧
    Stores lookup.before resource ∧ resource.resourceId = pointer.targetResourceId

/-- How a resolution may end. -/
def ResolutionEnds (faults : Prop) (P : Policy X)
    (require : StoredResourceV1 X → Except PyError Unit)
    («namespace» kind name channel : JsonValue) :
    Postcondition (runtime X) World (Except PyError (ResolvedResource X)) :=
  fun history _ result => match result with
    | .ok resolved => ∃ key pointer, Names key «namespace» kind name channel ∧
        resolved.channel = some pointer ∧ Observed P history key pointer resolved.resource ∧
        require resolved.resource = .ok ()
    | .error error => faults ∨
        (error.isDataError = true ∧ Misnamed «namespace» kind name channel) ∨
        ∃ key, Names key «namespace» kind name channel ∧
          ((∃ read, history = [read] ∧ error = resourceNotFound (some (channelText key)) ∧
            ∀ pointer, Points X read.before pointer → pointer.key ≠ key) ∨
          (∃ read lookup pointer, history = [read, lookup] ∧ IsNewest X read.before key pointer ∧
            Changes P read.before lookup.before ∧
            lookup.before.row? .metadata pointer.targetResourceId = none) ∨
          ∃ pointer resource, Observed P history key pointer resource ∧
            require resource = .error error)

theorem safe_resolveChannel {require : StoredResourceV1 X → Except PyError Unit}
    («namespace» kind name channel : JsonValue) :
    (resolveChannel require «namespace» kind name channel).run.Safe (following P first)
      (serving X faults) (ResolutionEnds faults P require «namespace» kind name channel) [] s := by
  unfold resolveChannel
  rw [run_bind]
  rcases run_get (X := X) «namespace» kind name channel true with
    ⟨error, data, misnamed, stopped⟩ | ⟨key, names, started⟩
  · rw [stopped, Program.done_bind, andThen_error]
    exact safe_stop fun _ => Or.inr (Or.inl ⟨data, misnamed⟩)
  · rw [started]
    refine safe_latestChannel fun t _ _ read before after result newest => ?_
    match result, newest with
    | .error error, missing =>
      refine safe_stop fun _ => missing.imp id fun ⟨_, empty, same⟩ => Or.inr ⟨key, names, ?_⟩
      exact Or.inl ⟨read, rfl, same, by rwa [before]⟩
    | .ok none, impossible => cases impossible.1
    | .ok (some pointer), newest =>
      rw [andThen_ok]
      dsimp only
      rw [run_bind]
      refine safe_requiredResource fun u _ since lookup before' after' result required => ?_
      have moved : Changes P read.before lookup.before := by rwa [before, before', ← after, after] at *
      have current : IsNewest X read.before key pointer := by rwa [before]
      cases result with
      | error error =>
        refine safe_stop fun _ => required.imp id fun ⟨absent, _⟩ => Or.inr ⟨key, names, ?_⟩
        exact Or.inr (Or.inl ⟨read, lookup, pointer, rfl, current, moved, by rwa [before']⟩)
      | ok resource =>
        have observed : Observed P ([] ++ [read] ++ [lookup]) key pointer resource :=
          ⟨read, lookup, rfl, current, moved, by rw [before']; exact required.1, required.2⟩
        rw [andThen_ok, run_settle_bind]
        cases checked : require resource with
        | error error =>
          refine safe_stop fun _ => Or.inr (Or.inr ⟨key, names, ?_⟩)
          exact Or.inr (Or.inr ⟨pointer, resource, observed, checked⟩)
        | ok _ => exact fun v _ _ => ⟨key, pointer, names, rfl, observed, checked⟩

end ConfigArtifact
