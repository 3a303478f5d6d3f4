import ConfigArtifact.Repositories.Metadata

/-! Versioned compare-and-set channel pointers. -/

set_option autoImplicit false

namespace ConfigArtifact

open Interaction Fallible MetadataRepository

variable {X : Platform}

/-- What a caller may name as the target of a promotion. -/
inductive PromotionTarget (X : Platform) where
  | resource (resource : StoredResourceV1 X)
  | reference (reference : StoredResourceRef)
  | identity (identity : ResourceIdentity)

def PromotionTarget.resourceId : PromotionTarget X → String
  | .resource copy => copy.resourceId
  | .reference named => named.identity.resourceId X
  | .identity named => named.resourceId X

namespace ChannelRepository

def get (X : Platform) («namespace» kind name channel : JsonValue) (required : Bool) :
    PyM X (Option ResourceChannelV1) := do
  let «namespace» ← settle (logicalName «namespace» "namespace")
  let kind ← settle (logicalName kind "kind")
  let name ← settle (logicalName name "name")
  let channel ← settle (channelName channel)
  StructuredM.lift (latestChannel X ⟨«namespace», kind, name, channel⟩ required)

/-- `expected_pointer_version`, checked. -/
def expectedPointer : JsonValue → Except PyError Nat
  | .int version =>
    if version < 0 then
      .error (.valueError "expected pointer version must be a non-negative integer")
    else .ok version.toNat
  | _ => .error (.valueError "expected pointer version must be a non-negative integer")

/-- The target's metadata row, or the caller's own copy of it. -/
def selectTarget : PromotionTarget X → PyM X (StoredResourceV1 X)
  -- The copy is taken as it is, whatever has become of its row.
  | .resource resource => pure resource
  | .reference reference => do
    match ← StructuredM.lift (getResource X (reference.identity.resourceId X) true) with
    | none => throw (.runtimeError "required resource lookup returned no value")
    | some resource =>
      if resource.ref ≠ reference then
        throw (identityConflict (some (reference.identity.resourceId X))
          "channel target reference does not match stored resource")
      else return resource
  | .identity identity => do
    match ← StructuredM.lift (getResource X (identity.resourceId X) true) with
    | none => throw (.runtimeError "required resource lookup returned no value")
    | some resource => return resource

/-- The checks a target passes before it may be promoted. -/
def checkTarget (resource : StoredResourceV1 X) (expectedProfile : Option ResourceProfile) :
    Except PyError Unit := do
  match expectedProfile with
  | none => .ok ()
  | some profile =>
    raiseIf (resource.profile ≠ profile)
      (incompatibleProfile ("channel target is not a " ++ profile.value) (some resource.resourceId))
  raiseIf (resource.state ≠ .published)
    (incompatibleProfile "only a PUBLISHED immutable resource may be promoted"
      (some resource.resourceId))

/-- The pointer version that follows the current pointer, if the caller expected that pointer. -/
def successor (current : Option ResourceChannelV1) (expected : Nat) : Option Nat :=
  match current with
  | none => if expected = 0 then some 1 else none
  | some pointer =>
    if pointer.pointerVersion = expected then some (pointer.pointerVersion + 1) else none

def channelOf (resource : StoredResourceV1 X) (channel : String) : ChannelKey :=
  ⟨resource.identity.namespace, resource.identity.kind, resource.identity.name, channel⟩

/-- The pointer a promotion asks to insert. -/
def requestedPointer (resource : StoredResourceV1 X) (channel : String) (pointerVersion : Nat)
    (actor : JsonValue) (updatedAt : String) : Except PyError ResourceChannelV1 :=
  ResourceChannelV1.create X {
    channelVersionId := .str (channelVersionId X resource.identity.namespace resource.identity.kind
      resource.identity.name channel pointerVersion)
    «namespace» := .str resource.identity.namespace
    kind := .str resource.identity.kind
    name := .str resource.identity.name
    channel := .str channel
    targetResourceId := .str resource.resourceId
    pointerVersion := natJson pointerVersion
    actor
    updatedAt := .str updatedAt }

/-- Insert the requested pointer; a conflict means that another writer was first. -/
def insertPointer (key : ChannelKey) (requested : ResourceChannelV1) : PyM X ResourceChannelV1 := do
  match ← attempt (StructuredM.lift (putChannel X requested)) with
  | .error error =>
    if error.hasCategory .conflict then throw (staleChannelPointer (some (channelText key)))
    else throw error
  | .ok winner =>
    if winner.targetResourceId ≠ requested.targetResourceId then
      throw (staleChannelPointer (some (channelText key)))
    else return winner

def promote (target : PromotionTarget X) (channel : JsonValue) (expectedPointerVersion : JsonValue)
    (actor : JsonValue) (expectedProfile : Option ResourceProfile) : PyM X ResourceChannelV1 := do
  -- Checked before any store is asked.
  let expected ← settle (expectedPointer expectedPointerVersion)
  let resource ← selectTarget target
  settle (checkTarget resource expectedProfile)
  let selectedChannel ← settle (channelName channel)
  let key := channelOf resource selectedChannel
  let current ← get X (.str key.namespace) (.str key.kind) (.str key.name) (.str key.channel) false
  match successor current expected with
  | none => throw (staleChannelPointer (some (channelText key)))
  | some pointerVersion => do
    let updatedAt ← currentTimestamp
    let requested ← settle (requestedPointer resource selectedChannel pointerVersion actor updatedAt)
    insertPointer key requested

end ChannelRepository

end ConfigArtifact
