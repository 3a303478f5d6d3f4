import ConfigArtifact.Interaction.Trace
import ConfigArtifact.Operations.ConfigurationPublication
import ConfigArtifact.Operations.Discovery
import ConfigArtifact.Operations.Resolution

/-! The requests clients make of the package, and all of them at once.

A deployment serves any number of requests at a time, interleaved call by call.
What its safety says of each request is put together here from the operations;
the guarantees of the package are read off the pools it can reach.
-/

set_option autoImplicit false

namespace ConfigArtifact

open Interaction Fallible Relation

variable {X : Platform}

inductive Request (X : Platform) where
  | publishConfiguration (request : ConfigurationRequest X)
  | publishArtifact (request : ArtifactRequest X)
  | promote (target : PromotionTarget X) (channel expectedPointerVersion actor : JsonValue)
      (expectedProfile : Option ResourceProfile)
  | «deprecate» (profile : ResourceProfile) (identity : ResourceIdentity)
  | consumerChannel (profile : ResourceProfile) («namespace» kind name channel : JsonValue)
  | discoverOrphans (limit : Int) (cursor : Option String) (record : Bool)

namespace Request

/-- What a request returns when it does not raise. -/
def Outcome : Request X → Type
  | .publishConfiguration _ | .publishArtifact _ => PublicationReceipt X
  | .promote .. => ResourceChannelV1
  | .deprecate .. => StoredResourceV1 X
  | .consumerChannel .. => ResolvedResource X
  | .discoverOrphans .. => MetadataRepository.OrphanPage X

abbrev Result (request : Request X) : Type := Except PyError request.Outcome

/-- The profile check of `deprecate`. -/
def deprecationCheck (identity : ResourceIdentity) :
    ResourceProfile → StoredResourceV1 X → Except PyError Unit
  | .configuration, resource => raiseIf (resource.profile ≠ .configuration)
      (incompatibleProfile "resource is not a configuration" (some identity.canonical))
  | .artifact, resource => requireArtifact resource

/-- The profile check of `channel`. -/
def consumerCheck : ResourceProfile → StoredResourceV1 X → Except PyError Unit
  | .configuration => ConfigurationConsumer.requireConfiguration
  | .artifact => requireArtifact

/-- The program that serves a request. -/
def program : (request : Request X) → PyM X request.Outcome
  | .publishConfiguration request => ConfigurationPublisher.publish request
  | .publishArtifact request => ArtifactPublisher.publish request
  | .promote target channel expectedPointerVersion actor expectedProfile =>
    ChannelRepository.promote target channel expectedPointerVersion actor expectedProfile
  | .deprecate .configuration identity => ConfigurationPublisher.deprecate identity
  | .deprecate .artifact identity => ArtifactPublisher.deprecate identity
  | .consumerChannel .configuration «namespace» kind name channel =>
    ConfigurationConsumer.channel «namespace» kind name channel
  | .consumerChannel .artifact «namespace» kind name channel =>
    ArtifactConsumer.channel «namespace» kind name channel
  | .discoverOrphans limit cursor record => ArtifactConsumer.discoverOrphans limit cursor record

theorem program_deprecate (profile : ResourceProfile) (identity : ResourceIdentity) :
    (program (X := X) (.deprecate profile identity)) =
      deprecateWith (deprecationCheck identity profile) identity := by
  cases profile <;> rfl

theorem program_channel (profile : ResourceProfile) («namespace» kind name channel : JsonValue) :
    (program (X := X) (.consumerChannel profile «namespace» kind name channel)) =
      resolveChannel (consumerCheck profile) «namespace» kind name channel := by
  cases profile <;> rfl

theorem checksProfile_deprecation (identity : ResourceIdentity) (profile : ResourceProfile) :
    ChecksProfile (X := X) profile (deprecationCheck identity profile) := by
  cases profile with
  | configuration => exact checksProfile_raiseIf fun _ => rfl
  | artifact => exact checksProfile_raiseIf fun _ => rfl

theorem checksProfile_consumer (profile : ResourceProfile) :
    ChecksProfile (X := X) profile (consumerCheck profile) := by
  cases profile with
  | configuration => exact checksProfile_raiseIf fun _ => rfl
  | artifact => exact checksProfile_raiseIf fun _ => rfl

/-- What a deployment asks of a request before it starts it: that it does only what the
policy permits, and that it is valid where only valid requests are served. -/
def Permitted (P : Policy X) (valid : Prop) (s : World) : Request X → Prop
  | .publishConfiguration request => (valid → ConfigurationPublisher.IsValid request) ∧
      ∀ candidate, ConfigurationPublisher.IsCandidate request candidate → P.publishes candidate
  | .publishArtifact request => (valid → ArtifactPublisher.IsValid s request) ∧
      (∀ candidate, ArtifactPublisher.IsCandidate request candidate → P.publishes candidate) ∧
      ∀ content payload bytes, ArtifactPublisher.contentOf request = .ok content →
        IsIntact X content.digest content.byteLength bytes →
        P.commits ((ArtifactPublisher.objectRequest request content payload).stored X bytes)
  | .promote target _ _ _ _ => Vouched P s target
  | .deprecate profile identity =>
    MayDeprecate P (deprecationCheck identity profile) (identity.resourceId X)
  | .consumerChannel .. | .discoverOrphans .. => True

/-- How a request may end. -/
def Ends (faults valid : Prop) (P : Policy X) (first : World) :
    (request : Request X) → Postcondition (runtime X) World request.Result
  | .publishConfiguration request => ConfigurationPublisher.Ends faults valid P first request
  | .publishArtifact request => ArtifactPublisher.Ends faults valid P first request
  | .promote target channel expectedPointerVersion _ profile =>
    PromotionEnds faults P first target channel expectedPointerVersion profile
  | .deprecate profile identity =>
    DeprecationEnds faults P first (deprecationCheck identity profile) identity
  | .consumerChannel profile «namespace» kind name channel =>
    ResolutionEnds faults P (consumerCheck profile) «namespace» kind name channel
  | .discoverOrphans limit cursor _ => ArtifactConsumer.DiscoveryEnds faults P first limit cursor

theorem safe_program {P : Policy X} {faults valid : Prop} {first s : World} (request : Request X)
    (kept : (following P first).invariant s) (permitted : request.Permitted P valid s) :
    request.program.run.Safe (following P first) (serving X faults)
      (request.Ends faults valid P first) [] s := by
  cases request with
  | publishConfiguration request =>
    exact ConfigurationPublisher.safe_publish kept permitted.1 permitted.2
  | publishArtifact request =>
    exact ArtifactPublisher.safe_publish kept permitted.1 permitted.2.1 permitted.2.2
  | promote target channel expectedPointerVersion actor expectedProfile =>
    exact safe_promote kept permitted
  | «deprecate» profile identity =>
    rw [program_deprecate]
    exact safe_deprecate permitted
  | consumerChannel profile «namespace» kind name channel =>
    rw [program_channel]
    exact safe_resolveChannel «namespace» kind name channel
  | discoverOrphans limit cursor record => exact ArtifactConsumer.safe_discoverOrphans

end Request

/-- Clients of the package over a runtime, each making a request it is admitted with. -/
def deployment (env : Environment (runtime X) World) (admits : World → Request X → Prop) :
    Service (runtime X) World (Request X) Request.Result where
  env := env
  body := fun request => request.program.run
  admits := admits

/-- The clients of a deployment at some moment. -/
abbrev Clients (X : Platform) (ι : Type) := Pool (runtime X) World (Request X) Request.Result ι

/-- What has happened in a deployment, in order. -/
abbrev PoolLog (X : Platform) (ι : Type) := List (ι × Event (runtime X) World)

theorem changes_of_traced {ι : Type} {P : Policy X} {s t : World} {log : PoolLog X ι}
    (traced : Pool.Traced (Changes P) s log t) : Changes P s t :=
  traced.moved (fun _ => .refl) .trans

section

variable {P : Policy X} {faults valid : Prop} {first : World}
  {env : Environment (runtime X) World} {admits : World → Request X → Prop} {ι : Type}
  [DecidableEq ι]

/-- The requests a deployment serves are permitted in the states it serves them in. -/
def Serves (P : Policy X) (valid : Prop) (first : World) (admits : World → Request X → Prop) :
    Prop :=
  ∀ s request, (following P first).invariant s → admits s request → request.Permitted P valid s

/-- The policy that permits everything lets every request be served. -/
theorem serves_unrestricted (admits : World → Request X → Prop) :
    Serves (Policy.unrestricted X) False first admits := by
  intro s request _ _
  cases request with
  | publishConfiguration request => exact ⟨False.elim, fun _ _ => trivial⟩
  | publishArtifact request => exact ⟨False.elim, fun _ _ => trivial, fun _ _ _ _ _ => trivial⟩
  | promote target channel expected actor profile => exact False.elim
  | «deprecate» profile identity => exact fun _ _ _ _ => trivial
  | consumerChannel profile «namespace» kind name channel => trivial
  | discoverOrphans limit cursor record => trivial

theorem deployment_starts (covers : ∀ request s reply t, env request s reply t →
      serving X faults request s reply t) (serves : Serves P valid first admits) :
    ∀ s request, (following P first).invariant s → (deployment env admits).admits s request →
      ((deployment env admits).body request).Safe (following P first) (deployment env admits).env
        (request.Ends faults valid P first) [] s :=
  fun s request kept admitted =>
    (request.safe_program kept (serves s request kept admitted)).narrow covers

/-- Every pool a deployment reaches is sound. -/
theorem deployment_sound (covers : ∀ request s reply t, env request s reply t →
      serving X faults request s reply t) (serves : Serves P valid first admits)
    (consistent : Consistent X first) {pool : Clients X ι}
    (reachable : Pool.Reachable (deployment env admits) first pool) :
    Pool.Sound (deployment env admits) (following P first) (Request.Ends faults valid P first)
      first pool :=
  Pool.sound_of_reachable (deployment_starts covers serves) (fun _ _ moved => moved)
    ⟨consistent, .refl⟩ reachable

end

end ConfigArtifact
