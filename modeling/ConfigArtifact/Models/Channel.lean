import ConfigArtifact.Models.Record

/-! Channel pointers: one immutable row for each pointer version. -/

set_option autoImplicit false

namespace ConfigArtifact

structure ResourceChannelArguments where
  channelVersionId : JsonValue
  «namespace» : JsonValue
  kind : JsonValue
  name : JsonValue
  channel : JsonValue
  targetResourceId : JsonValue
  pointerVersion : JsonValue
  actor : JsonValue
  updatedAt : JsonValue
  recordVersion : JsonValue := .null
  formatVersion : JsonValue := .str "meridian.config-artifact.resource-channel.v1"

/-- The channel of a resource name: what pointer versions are counted for. -/
structure ChannelKey where
  «namespace» : String
  kind : String
  name : String
  channel : String
  deriving DecidableEq, Repr

structure ResourceChannelFields where
  key : ChannelKey
  targetResourceId : String
  pointerVersion : Nat
  actor : String
  updatedAt : String
  recordVersion : Option RecordVersion
  deriving DecidableEq

namespace ResourceChannelFields

def formatVersion : String := "meridian.config-artifact.resource-channel.v1"

def channelVersionId (X : Platform) (fields : ResourceChannelFields) : String :=
  ConfigArtifact.channelVersionId X fields.key.namespace fields.key.kind fields.key.name
    fields.key.channel fields.pointerVersion

def toArguments (X : Platform) (fields : ResourceChannelFields) : ResourceChannelArguments where
  channelVersionId := .str (fields.channelVersionId X)
  «namespace» := .str fields.key.namespace
  kind := .str fields.key.kind
  name := .str fields.key.name
  channel := .str fields.key.channel
  targetResourceId := .str fields.targetResourceId
  pointerVersion := natJson fields.pointerVersion
  actor := .str fields.actor
  updatedAt := .str fields.updatedAt
  recordVersion := optionalJson RecordVersion.toJson fields.recordVersion
  formatVersion := .str formatVersion

def toRecord (X : Platform) (fields : ResourceChannelFields) : Mapping :=
  [("formatVersion", .str formatVersion),
    ("channelVersionId", .str (fields.channelVersionId X)),
    ("namespace", .str fields.key.namespace),
    ("kind", .str fields.key.kind),
    ("name", .str fields.key.name),
    ("channel", .str fields.key.channel),
    ("targetResourceId", .str fields.targetResourceId),
    ("pointerVersion", natJson fields.pointerVersion),
    ("actor", .str fields.actor),
    ("updatedAt", .str fields.updatedAt)]

end ResourceChannelFields

/-- What the constructor ensures of the fields it returns. -/
structure IsResourceChannel (fields : ResourceChannelFields) : Prop where
  «namespace» : IsName fields.key.namespace
  kind : IsName fields.key.kind
  name : IsName fields.key.name
  channel : isBounded fields.key.channel 128 = true ∧ isChannelName fields.key.channel = true
  pointerVersion : 1 ≤ fields.pointerVersion
  targetResourceId : isResourceId fields.targetResourceId = true
  actor : isBounded fields.actor 512 = true
  updatedAt : utcTimestamp (.str fields.updatedAt) = .ok fields.updatedAt

/-- A channel pointer the constructor has admitted and normalized. -/
structure ResourceChannelV1 extends ResourceChannelFields where
  valid : IsResourceChannel toResourceChannelFields
  deriving DecidableEq

namespace ResourceChannelV1

def positiveVersion : JsonValue → Except PyError Nat
  | .int version =>
    if version < 1 then .error (.valueError "pointer version must be a positive integer")
    else .ok version.toNat
  | _ => .error (.valueError "pointer version must be a positive integer")

theorem positiveVersion_ok {value : JsonValue} {version : Nat}
    (accepted : positiveVersion value = .ok version) : 1 ≤ version := by
  unfold positiveVersion at accepted
  split at accepted
  · split at accepted
    · cases accepted
    · cases accepted
      omega
  · cases accepted

theorem positiveVersion_natJson {version : Nat} (positive : 1 ≤ version) :
    positiveVersion (natJson version) = .ok version := by
  have : ¬(version : Int) < 1 := by omega
  simp [positiveVersion, natJson, this]

/-- `__post_init__`. -/
def postInit (X : Platform) (arguments : ResourceChannelArguments) :
    Except PyError ResourceChannelFields := do
  let «namespace» ← logicalName arguments.namespace "namespace"
  let kind ← logicalName arguments.kind "kind"
  let name ← logicalName arguments.name "name"
  let channel ← channelName arguments.channel
  let pointerVersion ← positiveVersion arguments.pointerVersion
  raiseIf (arguments.channelVersionId ≠
      .str (channelVersionId X «namespace» kind name channel pointerVersion))
    (.valueError "channel version id does not match its logical identity")
  let targetResourceId ← validateResourceId arguments.targetResourceId
  let actor ← boundedString arguments.actor "actor" 512
  let updatedAt ← utcTimestamp arguments.updatedAt
  let recordVersion ← recordVersion arguments.recordVersion
  requireFormat arguments.formatVersion ResourceChannelFields.formatVersion
    "unsupported resource channel format version"
  .ok ⟨⟨«namespace», kind, name, channel⟩, targetResourceId, pointerVersion, actor, updatedAt,
    recordVersion⟩

theorem postInit_ok {X : Platform} {arguments : ResourceChannelArguments}
    {fields : ResourceChannelFields} (accepted : postInit X arguments = .ok fields) :
    IsResourceChannel fields := by
  obtain ⟨space, namespaced, accepted⟩ := bind_ok.mp accepted
  obtain ⟨kind, kinded, accepted⟩ := bind_ok.mp accepted
  obtain ⟨name, named, accepted⟩ := bind_ok.mp accepted
  obtain ⟨channel, channelled, accepted⟩ := bind_ok.mp accepted
  obtain ⟨pointer, positive, accepted⟩ := bind_ok.mp accepted
  obtain ⟨_, _, accepted⟩ := bind_ok.mp accepted
  obtain ⟨target, targeted, accepted⟩ := bind_ok.mp accepted
  obtain ⟨actor, acted, accepted⟩ := bind_ok.mp accepted
  obtain ⟨updatedAt, timed, accepted⟩ := bind_ok.mp accepted
  obtain ⟨version, _, accepted⟩ := bind_ok.mp accepted
  obtain ⟨_, _, same⟩ := bind_ok.mp accepted
  cases same
  exact {
    «namespace» := (logicalName_ok namespaced).2
    kind := (logicalName_ok kinded).2
    name := (logicalName_ok named).2
    channel := (channelName_ok channelled).2
    pointerVersion := positiveVersion_ok positive
    targetResourceId := (validateResourceId_ok targeted).2
    actor := (boundedString_ok acted).2
    updatedAt := utcTimestamp_idempotent timed }

theorem postInit_toArguments (X : Platform) {fields : ResourceChannelFields}
    (valid : IsResourceChannel fields) : postInit X (fields.toArguments X) = .ok fields := by
  refine bind_ok.mpr ⟨_, logicalName_of_isName valid.namespace _, ?_⟩
  refine bind_ok.mpr ⟨_, logicalName_of_isName valid.kind _, ?_⟩
  refine bind_ok.mpr ⟨_, logicalName_of_isName valid.name _, ?_⟩
  refine bind_ok.mpr ⟨_,
    bind_ok.mpr ⟨_, boundedString_str valid.channel.1, if_pos valid.channel.2⟩, ?_⟩
  refine bind_ok.mpr ⟨_, positiveVersion_natJson valid.pointerVersion, ?_⟩
  refine bind_ok.mpr ⟨(), raiseIf_ok.mpr (not_not.mpr rfl), ?_⟩
  refine bind_ok.mpr ⟨_, validateResourceId_str valid.targetResourceId, ?_⟩
  refine bind_ok.mpr ⟨_, boundedString_str valid.actor, ?_⟩
  refine bind_ok.mpr ⟨_, valid.updatedAt, ?_⟩
  refine bind_ok.mpr ⟨_, recordVersion_self fields.recordVersion, ?_⟩
  exact bind_ok.mpr ⟨(), requireFormat_self _ _, rfl⟩

def create (X : Platform) (arguments : ResourceChannelArguments) :
    Except PyError ResourceChannelV1 := do
  let ⟨fields, accepted⟩ ← witnessed (postInit X arguments)
  .ok ⟨fields, postInit_ok accepted⟩

theorem create_iff {X : Platform} {arguments : ResourceChannelArguments}
    {pointer : ResourceChannelV1} :
    create X arguments = .ok pointer ↔
      postInit X arguments = .ok pointer.toResourceChannelFields := by
  constructor
  · intro created
    obtain ⟨fields, accepted, same⟩ := witnessed_bind.mp created
    rw [accepted, ← Except.ok.inj same]
  · intro accepted
    exact witnessed_bind.mpr ⟨_, accepted, rfl⟩

/-- The pointer a constructor accepts has the fields it was given. -/
theorem create_ok {X : Platform} {arguments : ResourceChannelArguments}
    {pointer : ResourceChannelV1} (accepted : create X arguments = .ok pointer) :
    arguments.namespace = .str pointer.key.namespace ∧ arguments.kind = .str pointer.key.kind ∧
      arguments.name = .str pointer.key.name ∧ arguments.channel = .str pointer.key.channel ∧
      positiveVersion arguments.pointerVersion = .ok pointer.pointerVersion ∧
      arguments.targetResourceId = .str pointer.targetResourceId ∧
      arguments.actor = .str pointer.actor ∧
      ConfigArtifact.recordVersion arguments.recordVersion = .ok pointer.recordVersion := by
  have accepted := create_iff.mp accepted
  obtain ⟨space, namespaced, accepted⟩ := bind_ok.mp accepted
  obtain ⟨kind, kinded, accepted⟩ := bind_ok.mp accepted
  obtain ⟨name, named, accepted⟩ := bind_ok.mp accepted
  obtain ⟨channel, channelled, accepted⟩ := bind_ok.mp accepted
  obtain ⟨version, positive, accepted⟩ := bind_ok.mp accepted
  obtain ⟨_, _, accepted⟩ := bind_ok.mp accepted
  obtain ⟨target, targeted, accepted⟩ := bind_ok.mp accepted
  obtain ⟨actor, acted, accepted⟩ := bind_ok.mp accepted
  obtain ⟨updatedAt, _, accepted⟩ := bind_ok.mp accepted
  obtain ⟨counted, versioned, accepted⟩ := bind_ok.mp accepted
  obtain ⟨_, _, same⟩ := bind_ok.mp accepted
  rw [← Except.ok.inj same]
  exact ⟨(logicalName_ok namespaced).1, (logicalName_ok kinded).1, (logicalName_ok named).1,
    (channelName_ok channelled).1, positive, (validateResourceId_ok targeted).1,
    (boundedString_ok acted).1, versioned⟩

theorem create_self (X : Platform) (pointer : ResourceChannelV1) :
    create X (pointer.toArguments X) = .ok pointer :=
  create_iff.mpr (postInit_toArguments X pointer.valid)

/-- The same pointer as a store counts it at another version. -/
def withVersion (pointer : ResourceChannelV1) (version : Option RecordVersion) :
    ResourceChannelV1 where
  toResourceChannelFields := { pointer.toResourceChannelFields with recordVersion := version }
  valid := { pointer.valid with }

def recordFields : List String :=
  ["formatVersion", "channelVersionId", "namespace", "kind", "name", "channel",
    "targetResourceId", "pointerVersion", "actor", "updatedAt"]

def fromRecord (X : Platform) (value : Mapping) : Except PyError ResourceChannelV1 := do
  requireRecordFields value recordFields
  create X {
    channelVersionId := entryOf value "channelVersionId"
    «namespace» := entryOf value "namespace"
    kind := entryOf value "kind"
    name := entryOf value "name"
    channel := entryOf value "channel"
    targetResourceId := entryOf value "targetResourceId"
    pointerVersion := entryOf value "pointerVersion"
    actor := entryOf value "actor"
    updatedAt := entryOf value "updatedAt"
    recordVersion := entryOf value "recordVersion"
    formatVersion := entryOf value "formatVersion" }

/-- What a pointer writes is read back as that pointer, at the version beside it. -/
theorem fromRecord_toRecord (X : Platform) (pointer : ResourceChannelV1)
    (version : Option RecordVersion) :
    fromRecord X (pointer.toRecord X ++ versionEntry version) =
      .ok (pointer.withVersion version) := by
  refine bind_ok.mpr ⟨(), requireRecordFields_version rfl version, ?_⟩
  refine Eq.trans ?_ (create_self X (pointer.withVersion version))
  cases version <;> rfl

end ResourceChannelV1

end ConfigArtifact
