import ConfigArtifact.Models.Record

/-! Orphan candidates: Objects committed without a metadata row. -/

set_option autoImplicit false

namespace ConfigArtifact

inductive OrphanState where
  | discovered
  | recorded
  | resolved
  deriving DecidableEq, Repr

def OrphanState.value : OrphanState → String
  | .discovered => "DISCOVERED"
  | .recorded => "RECORDED"
  | .resolved => "RESOLVED"

/-- `OrphanState(value)`. -/
def parseOrphanState (value : JsonValue) : Except PyError OrphanState :=
  if value = .str "DISCOVERED" then .ok .discovered
  else if value = .str "RECORDED" then .ok .recorded
  else if value = .str "RESOLVED" then .ok .resolved
  else .error (.valueError "value is not a valid OrphanState")

@[simp] theorem parseOrphanState_value (state : OrphanState) :
    parseOrphanState (.str state.value) = .ok state := by
  cases state <;> rfl

structure OrphanCandidateArguments where
  candidateId : JsonValue
  resourceId : JsonValue
  objectRef : ObjectReference
  digest : JsonValue
  byteLength : JsonValue
  reason : JsonValue
  discoveredAt : JsonValue
  state : OrphanState := .recorded
  recordVersion : JsonValue := .null
  formatVersion : JsonValue := .str "meridian.config-artifact.orphan-candidate.v1"

structure OrphanCandidateFields where
  resourceId : String
  objectRef : ObjectReference
  digest : String
  byteLength : Nat
  reason : String
  discoveredAt : String
  state : OrphanState
  recordVersion : Option RecordVersion
  deriving DecidableEq

namespace OrphanCandidateFields

def formatVersion : String := "meridian.config-artifact.orphan-candidate.v1"

def candidateId (X : Platform) (fields : OrphanCandidateFields) : String :=
  orphanCandidateId X fields.resourceId fields.objectRef.objectId fields.digest

def toArguments (X : Platform) (fields : OrphanCandidateFields) : OrphanCandidateArguments where
  candidateId := .str (fields.candidateId X)
  resourceId := .str fields.resourceId
  objectRef := fields.objectRef
  digest := .str fields.digest
  byteLength := natJson fields.byteLength
  reason := .str fields.reason
  discoveredAt := .str fields.discoveredAt
  state := fields.state
  recordVersion := optionalJson RecordVersion.toJson fields.recordVersion
  formatVersion := .str formatVersion

def toRecord (X : Platform) (fields : OrphanCandidateFields) : Mapping :=
  [("formatVersion", .str formatVersion),
    ("candidateId", .str (fields.candidateId X)),
    ("resourceId", .str fields.resourceId),
    ("objectRef", .object (X.objectReferenceToDict fields.objectRef)),
    ("digest", .str fields.digest),
    ("byteLength", natJson fields.byteLength),
    ("reason", .str fields.reason),
    ("discoveredAt", .str fields.discoveredAt),
    ("state", .str fields.state.value)]

end OrphanCandidateFields

/-- What the constructor ensures of the fields it returns. -/
structure IsOrphanCandidate (X : Platform) (fields : OrphanCandidateFields) : Prop where
  resourceId : isResourceId fields.resourceId = true
  objectRef : X.checkObjectReference fields.objectRef = .ok fields.objectRef
  digest : isDigest fields.digest = true
  matching : fields.objectRef.digest = some fields.digest
  reason : isBounded fields.reason 512 = true
  discoveredAt : utcTimestamp (.str fields.discoveredAt) = .ok fields.discoveredAt

/-- An orphan candidate the constructor has admitted and normalized. -/
structure OrphanCandidateV1 (X : Platform) extends OrphanCandidateFields where
  valid : IsOrphanCandidate X toOrphanCandidateFields
  deriving DecidableEq

namespace OrphanCandidateV1

variable {X : Platform}

/-- `__post_init__`. -/
def postInit (X : Platform) (arguments : OrphanCandidateArguments) :
    Except PyError OrphanCandidateFields := do
  let resourceId ← validateResourceId arguments.resourceId
  let reference ← X.checkObjectReference arguments.objectRef
  let selectedDigest ← digest arguments.digest
  raiseIf (reference.digest ≠ some selectedDigest)
    (.valueError "orphan ObjectRef digest does not match candidate digest")
  raiseIf (arguments.candidateId ≠
      .str (orphanCandidateId X resourceId reference.objectId selectedDigest))
    (.valueError "orphan candidate id does not match its logical identity")
  let length ← byteLength arguments.byteLength "orphan byte length"
  let reason ← boundedString arguments.reason "orphan reason" 512
  let discoveredAt ← utcTimestamp arguments.discoveredAt
  let recordVersion ← recordVersion arguments.recordVersion
  requireFormat arguments.formatVersion OrphanCandidateFields.formatVersion
    "unsupported orphan candidate format version"
  .ok ⟨resourceId, reference, selectedDigest, length, reason, discoveredAt, arguments.state,
    recordVersion⟩

theorem postInit_ok {arguments : OrphanCandidateArguments} {fields : OrphanCandidateFields}
    (accepted : postInit X arguments = .ok fields) : IsOrphanCandidate X fields := by
  obtain ⟨resourceId, identified, accepted⟩ := bind_ok.mp accepted
  obtain ⟨reference, checked, accepted⟩ := bind_ok.mp accepted
  obtain ⟨hex, digested, accepted⟩ := bind_ok.mp accepted
  obtain ⟨_, matching, accepted⟩ := bind_ok.mp accepted
  obtain ⟨_, _, accepted⟩ := bind_ok.mp accepted
  obtain ⟨length, _, accepted⟩ := bind_ok.mp accepted
  obtain ⟨reason, reasoned, accepted⟩ := bind_ok.mp accepted
  obtain ⟨discoveredAt, timed, accepted⟩ := bind_ok.mp accepted
  obtain ⟨version, _, accepted⟩ := bind_ok.mp accepted
  obtain ⟨_, _, same⟩ := bind_ok.mp accepted
  cases same
  obtain ⟨rfl, -⟩ := X.check_ok checked
  exact {
    resourceId := (validateResourceId_ok identified).2
    objectRef := checked
    digest := (digest_ok digested).2
    matching := not_not.mp (raiseIf_ok.mp matching)
    reason := (boundedString_ok reasoned).2
    discoveredAt := utcTimestamp_idempotent timed }

theorem postInit_toArguments {fields : OrphanCandidateFields}
    (valid : IsOrphanCandidate X fields) : postInit X (fields.toArguments X) = .ok fields := by
  refine bind_ok.mpr ⟨_, validateResourceId_str valid.resourceId, ?_⟩
  refine bind_ok.mpr ⟨_, valid.objectRef, ?_⟩
  refine bind_ok.mpr ⟨fields.digest, if_pos valid.digest, ?_⟩
  refine bind_ok.mpr ⟨(), raiseIf_ok.mpr (not_not.mpr valid.matching), ?_⟩
  refine bind_ok.mpr ⟨(), raiseIf_ok.mpr (not_not.mpr rfl), ?_⟩
  refine bind_ok.mpr ⟨_, byteLength_natJson _ _, ?_⟩
  refine bind_ok.mpr ⟨_, boundedString_str valid.reason, ?_⟩
  refine bind_ok.mpr ⟨_, valid.discoveredAt, ?_⟩
  refine bind_ok.mpr ⟨_, recordVersion_self fields.recordVersion, ?_⟩
  exact bind_ok.mpr ⟨(), requireFormat_self _ _, rfl⟩

def create (X : Platform) (arguments : OrphanCandidateArguments) :
    Except PyError (OrphanCandidateV1 X) := do
  let ⟨fields, accepted⟩ ← witnessed (postInit X arguments)
  .ok ⟨fields, postInit_ok accepted⟩

theorem create_iff {arguments : OrphanCandidateArguments} {orphan : OrphanCandidateV1 X} :
    create X arguments = .ok orphan ↔
      postInit X arguments = .ok orphan.toOrphanCandidateFields := by
  constructor
  · intro created
    obtain ⟨fields, accepted, same⟩ := witnessed_bind.mp created
    rw [accepted, ← Except.ok.inj same]
  · intro accepted
    exact witnessed_bind.mpr ⟨_, accepted, rfl⟩

theorem create_self (orphan : OrphanCandidateV1 X) :
    create X (orphan.toArguments X) = .ok orphan :=
  create_iff.mpr (postInit_toArguments orphan.valid)

/-- The same candidate as a store counts it at another version. -/
def withVersion (orphan : OrphanCandidateV1 X) (version : Option RecordVersion) :
    OrphanCandidateV1 X where
  toOrphanCandidateFields := { orphan.toOrphanCandidateFields with recordVersion := version }
  valid := { orphan.valid with }

def recordFields : List String :=
  ["formatVersion", "candidateId", "resourceId", "objectRef", "digest", "byteLength", "reason",
    "discoveredAt", "state"]

/-- `parse_object_reference` of a field that must be a mapping. -/
def parseReference (X : Platform) : JsonValue → Except PyError ObjectReference
  | .object entries => X.parseObjectReference entries
  | .foreign (.mappingWithOtherKeys _) => .error (.valueError "mapping keys must be strings")
  | _ => .error (.typeError "orphan ObjectRef must be an object")

def fromRecord (X : Platform) (value : Mapping) : Except PyError (OrphanCandidateV1 X) := do
  requireRecordFields value recordFields
  let objectRef ← parseReference X (entryOf value "objectRef")
  let state ← parseOrphanState (entryOf value "state")
  create X {
    candidateId := entryOf value "candidateId"
    resourceId := entryOf value "resourceId"
    objectRef
    digest := entryOf value "digest"
    byteLength := entryOf value "byteLength"
    reason := entryOf value "reason"
    discoveredAt := entryOf value "discoveredAt"
    state
    recordVersion := entryOf value "recordVersion"
    formatVersion := entryOf value "formatVersion" }

/-- What a candidate writes is read back as that candidate, at the version beside it. -/
theorem fromRecord_toRecord (orphan : OrphanCandidateV1 X) (version : Option RecordVersion) :
    fromRecord X (orphan.toRecord X ++ versionEntry version) = .ok (orphan.withVersion version) := by
  refine bind_ok.mpr ⟨(), requireRecordFields_version rfl version, ?_⟩
  refine bind_ok.mpr ⟨orphan.objectRef, X.parse_toDict orphan.valid.objectRef, ?_⟩
  refine bind_ok.mpr ⟨orphan.state, parseOrphanState_value _, ?_⟩
  refine Eq.trans ?_ (create_self (orphan.withVersion version))
  cases version <;> rfl

end OrphanCandidateV1

end ConfigArtifact
