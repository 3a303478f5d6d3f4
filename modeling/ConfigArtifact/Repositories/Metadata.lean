import ConfigArtifact.Models.Channel
import ConfigArtifact.Models.Orphan
import ConfigArtifact.Runtime

/-! Structured Catalog persistence of the package's records. -/

set_option autoImplicit false

namespace ConfigArtifact

open Interaction Fallible

variable {X : Platform}

/-- `_mapping`. -/
def asMapping (value : JsonValue) (description : String) : Except PyError Mapping :=
  match value with
  | .object entries => .ok entries
  | .foreign (.mappingWithOtherKeys _) =>
    .error (invalidRepositoryResult (description ++ " contained a non-string key"))
  | _ => .error (invalidRepositoryResult (description ++ " was not an object"))

/-- `_logical_record`: a bare record, or the values of a Record envelope. -/
def logicalRecord (value : Mapping) (description : String) : Except PyError Mapping :=
  match value.lookup "values" with
  | none => .ok value
  | some inner => do
    let values ← asMapping inner (description ++ " values")
    match value.lookup "recordVersion" with
    -- The version of an envelope becomes one of its values.
    | none | some .null => .ok values
    | some version => .ok (Mapping.set values "recordVersion" version)

/-- `_record`. -/
def recordOf (result : OperationResult) (description : String) : Except PyError Mapping := do
  let value ← asMapping result.data description
  logicalRecord value description

def checkTimestamps (value : Mapping) : List String → Except PyError Unit
  | [] => .ok ()
  | field :: rest => do
    match value.lookup field with
    | none => checkTimestamps value rest
    | some item => do
      let _ ← utcTimestamp item
      checkTimestamps value rest

/-- `_without_record_timestamps`. -/
def withoutRecordTimestamps (value : Mapping) (fields : List String) : Except PyError Mapping := do
  checkTimestamps value fields
  .ok (Mapping.without value fields)

/-- `except (KeyError, TypeError, ValueError)`, re-raised as an invalid result. -/
def orInvalid {A : Type} (message : String) : Except PyError A → Except PyError A
  | .ok value => .ok value
  | .error error =>
    if error.isDataError then .error (invalidRepositoryResult message (some (safeCause error)))
    else .error error

theorem orInvalid_ok {A : Type} {message : String} {result : Except PyError A} {value : A}
    (accepted : orInvalid message result = .ok value) : result = .ok value := by
  unfold orInvalid at accepted
  split at accepted
  · exact accepted
  · split at accepted <;> cases accepted

def parseResource (X : Platform) (value : Mapping) : Except PyError (StoredResourceV1 X) :=
  orInvalid "structured Resource result violated the V1 contract" do
    let value ← withoutRecordTimestamps value ["updatedAt"]
    StoredResourceV1.fromRecord X value

def parseChannel (X : Platform) (value : Mapping) : Except PyError ResourceChannelV1 :=
  orInvalid "structured channel result violated the V1 contract" do
    let value ← withoutRecordTimestamps value ["createdAt"]
    ResourceChannelV1.fromRecord X value

def parseOrphan (X : Platform) (value : Mapping) : Except PyError (OrphanCandidateV1 X) :=
  orInvalid "structured orphan result violated the V1 contract" do
    let value ← withoutRecordTimestamps value ["createdAt", "updatedAt"]
    OrphanCandidateV1.fromRecord X value

/-- `_page`. -/
def pageOf (result : OperationResult) (description : String) :
    Except PyError (List JsonValue × Option String) := do
  let data ← asMapping result.data description
  match entryOf data "items", entryOf data "cursor" with
  | .array items, .null => .ok (items, none)
  | .array items, .str cursor => .ok (items, some cursor)
  | _, _ => .error (invalidRepositoryResult (description ++ " had an invalid page envelope"))

def pageItem {A : Type} (parse : Mapping → Except PyError A) (description : String)
    (item : JsonValue) : Except PyError A := do
  let value ← asMapping item description
  let record ← logicalRecord value description
  parse record

/-- An absent record: none, or an error where one is required. -/
def absent {A : Type} (key : String) (required : Bool) : Except PyError (Option A) :=
  if required then .error (resourceNotFound (some key)) else .ok none

/-- What `get_resource` and `get_orphan` make of the answer to their call. -/
def readRecord {A : Type} (parse : Mapping → Except PyError A) (description key : String)
    (required : Bool) : Except PyError OperationResult → Except PyError (Option A)
  | .error error => if error.hasCategory .notFound then absent key required else .error error
  | .ok result =>
    -- No data stands for a missing record, as an error of that category does.
    if result.data = .null then absent key required
    else do
      let record ← recordOf result description
      some <$> parse record

namespace MetadataRepository

def getResource (X : Platform) (resourceId : String) (required : Bool) :
    StructuredM (Option (StoredResourceV1 X)) := do
  let answer ← attempt (execute (.get .metadata [("resourceId", .str resourceId)]))
  settle (readRecord (parseResource X) "structured resource result" resourceId required answer)

def putResource (resource : StoredResourceV1 X) : StructuredM (StoredResourceV1 X) := do
  let result ← execute (.put .metadata resource.toRecord)
  settle do
    let record ← recordOf result "structured resource put result"
    parseResource X record

def envelopeFields : List String :=
  ["collectionRef", "recordId", "recordVersion", "values", "createdAt", "updatedAt"]

/-- The scope and timestamps of a patched Record envelope. -/
def envelopeScope (X : Platform) (record : Mapping) : Except PyError ResourceRef :=
  let scope := do
    let reference ← asMapping (entryOf record "collectionRef") "patch collectionRef"
    let collection ← X.parseResourceRef reference
    let _ ← utcTimestamp (entryOf record "createdAt")
    let _ ← utcTimestamp (entryOf record "updatedAt")
    .ok collection
  match scope with
  | .ok collection => .ok collection
  | .error (.typeError _) | .error (.valueError _) =>
    .error (invalidRepositoryResult "invalid patch Record scope or timestamps")
  | .error error => .error error

def checkEnvelope (X : Platform) (record : Mapping) (resourceId : String) : Except PyError Unit := do
  raiseIf ((¬∀ key ∈ envelopeFields, key ∈ Mapping.keys record) ∨
      ¬∀ key ∈ Mapping.keys record, key ∈ envelopeFields ++ ["formatVersion"])
    (invalidRepositoryResult "invalid structured patch Record envelope")
  raiseIf ((record.lookup "formatVersion").getD (.str "meridian.record.v1") ≠
      .str "meridian.record.v1")
    (invalidRepositoryResult "invalid structured patch Record format")
  raiseIf (entryOf record "recordId" ≠ .str resourceId)
    (invalidRepositoryResult "structured patch Record identity did not match")
  let collection ← envelopeScope X record
  raiseIf (collection ≠ X.collectionRef .metadata)
    (invalidRepositoryResult "structured resource patch returned a different scope")

/-- Only a Record envelope has a scope to check. -/
def checkScope (X : Platform) (record : Mapping) (resourceId : String) : Except PyError Unit :=
  if (record.lookup "values").isSome then checkEnvelope X record resourceId else .ok ()

/-- A record version that a patch may not return. -/
def isStaleVersion (previous : Option RecordVersion) : Option RecordVersion → Bool
  | none => true
  | some version =>
    version = .text "" || some version = previous ||
      match version with
      | .number value => value < 0
      | .text _ => false

/-- `_deprecation_result`. -/
def deprecationResult (result : OperationResult) (resource : StoredResourceV1 X) :
    Except PyError (StoredResourceV1 X) :=
  match result.data with
  | .array [item] => do
    raiseIf (result.resources ≠ [X.collectionRef .metadata])
      (invalidRepositoryResult "structured resource patch returned a different scope")
    let record ← asMapping item "structured resource patch Record"
    checkScope X record resource.resourceId
    let values ← logicalRecord record "structured resource patch Record"
    let stored ← parseResource X values
    -- Equal as Python has it: `1`, `1.0` and `True` do not differ.
    raiseIf (pyEq (.object stored.toRecord)
        (.object (Mapping.set resource.toRecord "state" (.str ResourceState.deprecated.value))) =
          false)
      (invalidRepositoryResult "structured resource patch changed identity or immutable fields")
    raiseIf (isStaleVersion resource.recordVersion stored.recordVersion)
      (invalidRepositoryResult "structured resource patch did not return a new recordVersion")
    .ok stored
  | _ =>
    .error (invalidRepositoryResult "structured resource patch must return exactly one Record")

/-- The body of the transaction in `deprecate_resource`. -/
def deprecation (resource : StoredResourceV1 X) (version : RecordVersion) :
    StructuredM (StoredResourceV1 X) := do
  let result ← execute (.patch .metadata [("resourceId", .str resource.resourceId)]
    [("state", .str ResourceState.deprecated.value)] version)
  settle (deprecationResult result resource)

def deprecateResource (resource : StoredResourceV1 X) : PyM X (StoredResourceV1 X) :=
  match resource.recordVersion with
  | none => throw (invalidRepositoryResult "resource has no recordVersion for conditional patch")
  | some version => inTransaction (deprecation resource version)

structure ResourcePage (X : Platform) where
  items : List (StoredResourceV1 X)
  cursor : Option String

/-- The conditions of a query: the arguments that were given. -/
def given (fields : List (String × Option String)) : Mapping :=
  fields.filterMap fun field => field.2.map fun value => (field.1, .str value)

def listResources (X : Platform) («namespace» kind name profile : Option String)
    (state : Option ResourceState) (limit : Int) (cursor : Option String) :
    StructuredM (ResourcePage X) := do
  let result ← execute (.query .metadata
    (given [("namespace", «namespace»), ("kind", kind), ("name", name), ("profile", profile),
      ("state", state.map ResourceState.value)])
    [⟨"versionOrder", true⟩, ⟨"createdAt", true⟩] limit cursor)
  settle do
    let (items, next) ← pageOf result "structured resource query result"
    let resources ← items.mapM (pageItem (parseResource X) "resource page item")
    .ok ⟨resources, next⟩

def latestResource (X : Platform) («namespace» kind name : String) (profile : Option String) :
    StructuredM (StoredResourceV1 X) := do
  let page ← listResources X (some «namespace») (some kind) (some name) profile (some .published) 1
    none
  match page.items with
  | [] => throw (resourceNotFound (some («namespace» ++ ":" ++ kind ++ "/" ++ name ++ "@latest")))
  | resource :: _ => return resource

def putChannel (X : Platform) (channel : ResourceChannelV1) : StructuredM ResourceChannelV1 := do
  let result ← execute (.put .channels (channel.toRecord X))
  settle do
    let record ← recordOf result "structured channel put result"
    parseChannel X record

/-- The conditions that select the pointers of one channel. -/
def channelFilter (key : ChannelKey) : Mapping :=
  [("namespace", .str key.namespace), ("kind", .str key.kind), ("name", .str key.name),
    ("channel", .str key.channel)]

def channelText (key : ChannelKey) : String :=
  key.namespace ++ ":" ++ key.kind ++ "/" ++ key.name ++ "#" ++ key.channel

/-- What `latest_channel` makes of the answer to its query. -/
def readLatest (X : Platform) (key : ChannelKey) (required : Bool) (result : OperationResult) :
    Except PyError (Option ResourceChannelV1) := do
  let (items, _) ← pageOf result "structured channel query result"
  match items with
  | [] => absent (channelText key) required
  | item :: _ => some <$> pageItem (parseChannel X) "channel page item" item

def latestChannel (X : Platform) (key : ChannelKey) (required : Bool) :
    StructuredM (Option ResourceChannelV1) := do
  let result ← execute (.query .channels (channelFilter key) [⟨"pointerVersion", true⟩] 1 none)
  settle (readLatest X key required result)

/-- What `put_provenance` makes of the answer to its call. -/
def readProvenance (value : Mapping) (result : OperationResult) : Except PyError Mapping := do
  let stored ← timestamps (do
    let record ← recordOf result "structured provenance put result"
    let stored ← withoutRecordTimestamps record ["updatedAt"]
    match stored.lookup "createdAt" with
    | none => .ok stored
    | some item => do
      let createdAt ← utcTimestamp item
      .ok (Mapping.set stored "createdAt" (.str createdAt)))
  raiseIf (pyEq (.object (Mapping.without stored ["recordVersion"])) (.object value) = false)
    (invalidRepositoryResult "structured provenance result changed immutable fields")
  .ok stored
where
  timestamps : Except PyError Mapping → Except PyError Mapping
    | .error (.typeError _) | .error (.valueError _) =>
      .error (invalidRepositoryResult "invalid structured provenance timestamp")
    | result => result

def putProvenance (value : Mapping) : StructuredM Mapping := do
  let result ← execute (.put .provenance value)
  settle (readProvenance value result)

def getOrphan (X : Platform) (candidateId : String) (required : Bool) :
    StructuredM (Option (OrphanCandidateV1 X)) := do
  let answer ← attempt (execute (.get .orphanCandidates [("candidateId", .str candidateId)]))
  settle (readRecord (parseOrphan X) "structured orphan result" candidateId required answer)

/-- `_same_orphan_identity`. -/
def sameOrphanIdentity (left right : OrphanCandidateV1 X) : Bool :=
  left.candidateId X = right.candidateId X && left.resourceId = right.resourceId &&
    left.objectRef = right.objectRef && left.digest = right.digest &&
    left.byteLength = right.byteLength

/-- What `put_orphan` makes of the answer to its call. -/
def storedOrphan (orphan : OrphanCandidateV1 X) :
    Except PyError OperationResult → StructuredM (OrphanCandidateV1 X)
  | .ok result => settle do
    let record ← recordOf result "structured orphan put result"
    parseOrphan X record
  | .error error =>
    if error.hasCategory .conflict then do
      match ← getOrphan X (orphan.candidateId X) false with
      | some existing =>
        -- The same orphan, recorded before, takes the place of the one that was refused.
        if sameOrphanIdentity existing orphan then return existing
        else throw (identityConflict (some (orphan.candidateId X))
          "orphan candidate identity already has different metadata")
      | none => throw error
    else throw error

def putOrphan (orphan : OrphanCandidateV1 X) : StructuredM (OrphanCandidateV1 X) := do
  let answer ← attempt (execute (.put .orphanCandidates (orphan.toRecord X)))
  storedOrphan orphan answer

structure OrphanPage (X : Platform) where
  items : List (OrphanCandidateV1 X)
  cursor : Option String

def listOrphans (X : Platform) (state : Option OrphanState) (limit : Int)
    (cursor : Option String) : StructuredM (OrphanPage X) := do
  let result ← execute (.query .orphanCandidates (given [("state", state.map OrphanState.value)])
    [⟨"discoveredAt", false⟩] limit cursor)
  settle do
    let (items, next) ← pageOf result "structured orphan query result"
    let orphans ← items.mapM (pageItem (parseOrphan X) "orphan page item")
    .ok ⟨orphans, next⟩

end MetadataRepository

end ConfigArtifact
