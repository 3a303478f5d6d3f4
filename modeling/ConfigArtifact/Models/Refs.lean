import ConfigArtifact.Canonical.Timestamp
import ConfigArtifact.Platform

/-! Logical references: identities, schema references and derived row keys. -/

set_option autoImplicit false

namespace ConfigArtifact

inductive ResourceProfile where
  | configuration
  | artifact
  deriving DecidableEq, Repr

def ResourceProfile.value : ResourceProfile → String
  | .configuration => "configuration"
  | .artifact => "artifact"

inductive ResourceState where
  | draft
  | published
  | deprecated
  deriving DecidableEq, Repr

def ResourceState.value : ResourceState → String
  | .draft => "DRAFT"
  | .published => "PUBLISHED"
  | .deprecated => "DEPRECATED"

/-- `ResourceProfile(value)`. -/
def parseProfile (value : JsonValue) : Except PyError ResourceProfile :=
  if value = .str "configuration" then .ok .configuration
  else if value = .str "artifact" then .ok .artifact
  else .error (.valueError "value is not a valid ResourceProfile")

/-- `ResourceState(value)`. -/
def parseState (value : JsonValue) : Except PyError ResourceState :=
  if value = .str "DRAFT" then .ok .draft
  else if value = .str "PUBLISHED" then .ok .published
  else if value = .str "DEPRECATED" then .ok .deprecated
  else .error (.valueError "value is not a valid ResourceState")

@[simp] theorem parseProfile_value (profile : ResourceProfile) :
    parseProfile (.str profile.value) = .ok profile := by
  cases profile <;> rfl

@[simp] theorem parseState_value (state : ResourceState) :
    parseState (.str state.value) = .ok state := by
  cases state <;> rfl

/-- What a logical name may be. -/
def IsName (text : String) : Prop := isBounded text 256 = true ∧ isLogicalName text = true

theorem logicalName_of_isName {text : String} (valid : IsName text) (fieldName : String) :
    logicalName (.str text) fieldName = .ok text :=
  bind_ok.mpr ⟨text, boundedString_str valid.1, if_pos valid.2⟩

structure ResourceIdentity where
  «namespace» : String
  kind : String
  name : String
  version : String
  namespace_valid : IsName «namespace»
  kind_valid : IsName kind
  name_valid : IsName name
  version_valid : isBounded version 256 = true
  deriving DecidableEq

namespace ResourceIdentity

def create («namespace» kind name version : JsonValue) : Except PyError ResourceIdentity := do
  let ⟨«namespace», namespaced⟩ ← witnessed (logicalName «namespace» "namespace")
  let ⟨kind, kinded⟩ ← witnessed (logicalName kind "kind")
  let ⟨name, named⟩ ← witnessed (logicalName name "name")
  let ⟨version, versioned⟩ ← witnessed (boundedString version "version" 256)
  .ok ⟨«namespace», kind, name, version, (logicalName_ok namespaced).2, (logicalName_ok kinded).2,
    (logicalName_ok named).2, (boundedString_ok versioned).2⟩

def canonical (identity : ResourceIdentity) : String :=
  escaped identity.namespace ++ ":" ++ escaped identity.kind ++ "/" ++ escaped identity.name ++
    "@" ++ escaped identity.version

/-- `_RESOURCE_ID_NAMESPACE`. -/
def idNamespace : String := "9c554a86-783d-4e78-af85-a3f9e976489a"

def resourceId (X : Platform) (identity : ResourceIdentity) : String :=
  "rs_" ++ X.uuid5 idNamespace identity.canonical

def objectId (X : Platform) (identity : ResourceIdentity) : String :=
  objectIdOf (identity.resourceId X)

theorem isResourceId_resourceId (X : Platform) (identity : ResourceIdentity) :
    isResourceId (identity.resourceId X) = true := hasHexId_append (X.uuid5_hex _ _)

theorem create_self (identity : ResourceIdentity) :
    create (.str identity.namespace) (.str identity.kind) (.str identity.name)
      (.str identity.version) = .ok identity := by
  unfold create
  refine witnessed_bind.mpr ⟨_, logicalName_of_isName identity.namespace_valid _, ?_⟩
  refine witnessed_bind.mpr ⟨_, logicalName_of_isName identity.kind_valid _, ?_⟩
  refine witnessed_bind.mpr ⟨_, logicalName_of_isName identity.name_valid _, ?_⟩
  exact witnessed_bind.mpr ⟨_, boundedString_str identity.version_valid, rfl⟩

end ResourceIdentity

/-- A reference into the structured Catalog; no other catalog is accepted. -/
structure PayloadSchemaRef where
  «namespace» : String
  name : String
  version : String
  namespace_valid : IsName «namespace»
  name_valid : IsName name
  version_valid : isBounded version 128 = true
  deriving DecidableEq

def splitAtLast (separator : Char → Bool) (text : List Char) : Option (List Char × List Char) :=
  (splitAtFirst separator text.reverse).map fun (rest, front) => (front.reverse, rest.reverse)

namespace PayloadSchemaRef

def create («namespace» name version catalog : JsonValue) : Except PyError PayloadSchemaRef := do
  raiseIf (catalog ≠ .str "structured")
    (.valueError "configuration payload Schema must use the structured Catalog")
  let ⟨«namespace», namespaced⟩ ← witnessed (logicalName «namespace» "schema namespace")
  let ⟨name, named⟩ ← witnessed (logicalName name "schema name")
  let ⟨version, versioned⟩ ← witnessed (boundedString version "schema version" 128)
  .ok ⟨«namespace», name, version, (logicalName_ok namespaced).2, (logicalName_ok named).2,
    (boundedString_ok versioned).2⟩

def canonical (schema : PayloadSchemaRef) : String :=
  "structured:" ++ schema.namespace ++ "." ++ schema.name ++ "@" ++ schema.version

def toDict (schema : PayloadSchemaRef) : Mapping :=
  [("catalog", .str "structured"), ("namespace", .str schema.namespace),
    ("name", .str schema.name), ("version", .str schema.version)]

def dictFields : List String := ["catalog", "namespace", "name", "version"]

def parseMapping (entries : Mapping) : Except PyError PayloadSchemaRef :=
  match entries.lookup "namespace", entries.lookup "name", entries.lookup "version",
      entries.lookup "catalog" with
  | some «namespace», some name, some version, some catalog => do
    raiseIf (¬∀ key ∈ Mapping.keys entries, key ∈ dictFields)
      (.valueError "payload SchemaRef requires catalog, namespace, name and version")
    create «namespace» name version catalog
  | _, _, _, _ =>
    .error (.valueError "payload SchemaRef requires catalog, namespace, name and version")

def parseText (text : String) : Except PyError PayloadSchemaRef :=
  match splitAtLast (· = '@') text.toList with
  | none => .error (.valueError "payload SchemaRef must be '<namespace>.<name>@<version>'")
  | some (address, version) =>
    -- The first colon ends a catalog, even where it belongs to the namespace.
    let (catalog, address) := match splitAtFirst (· = ':') address with
      | some (catalog, address) => (String.ofList catalog, address)
      | none => ("structured", address)
    -- The last dot ends the namespace, even where the name has dots of its own.
    match splitAtLast (· = '.') address with
    | none => .error (.valueError "payload SchemaRef must include namespace and name")
    | some («namespace», name) =>
      create (.str (String.ofList «namespace»)) (.str (String.ofList name))
        (.str (String.ofList version)) (.str catalog)

/-- A schema argument: a reference already, or a text or mapping to parse. -/
inductive Argument where
  | ref (schema : PayloadSchemaRef)
  | value (value : JsonValue)

def parse : Argument → Except PyError PayloadSchemaRef
  | .ref schema => .ok schema
  | .value (.object entries) => parseMapping entries
  | .value (.foreign (.mappingWithOtherKeys _)) =>
    .error (.valueError "payload SchemaRef requires catalog, namespace, name and version")
  | .value (.str text) => parseText text
  | .value _ => .error (.valueError "payload SchemaRef must be '<namespace>.<name>@<version>'")

theorem create_self (schema : PayloadSchemaRef) :
    create (.str schema.namespace) (.str schema.name) (.str schema.version) (.str "structured") =
      .ok schema := by
  refine bind_ok.mpr ⟨(), raiseIf_ok.mpr (by simp), ?_⟩
  refine witnessed_bind.mpr ⟨_, logicalName_of_isName schema.namespace_valid _, ?_⟩
  refine witnessed_bind.mpr ⟨_, logicalName_of_isName schema.name_valid _, ?_⟩
  exact witnessed_bind.mpr ⟨_, boundedString_str schema.version_valid, rfl⟩

@[simp] theorem parseMapping_toDict (schema : PayloadSchemaRef) :
    parseMapping schema.toDict = .ok schema :=
  bind_ok.mpr ⟨(), raiseIf_ok.mpr (by simp [Mapping.keys, toDict, dictFields]), create_self schema⟩

end PayloadSchemaRef

structure StoredResourceRef where
  identity : ResourceIdentity
  profile : ResourceProfile
  digest : String
  digest_valid : isDigest digest = true
  deriving DecidableEq

def StoredResourceRef.create (X : Platform) (resourceId «namespace» kind name version : JsonValue)
    (profile : ResourceProfile) (digestValue : JsonValue) : Except PyError StoredResourceRef := do
  let identity ← ResourceIdentity.create «namespace» kind name version
  raiseIf (resourceId ≠ .str (identity.resourceId X))
    (.valueError "resource id does not match its logical identity")
  let ⟨selected, hex⟩ ← witnessed (ConfigArtifact.digest digestValue)
  .ok ⟨identity, profile, selected, (digest_ok hex).2⟩

/-- `_CHANNEL_ID_NAMESPACE`. -/
def channelIdNamespace : String := "12d75351-ea66-45e2-b5c4-53bc97f3fa6f"

def channelVersionId (X : Platform) («namespace» kind name channel : String)
    (pointerVersion : Nat) : String :=
  "ch_" ++ X.uuid5 channelIdNamespace (escaped «namespace» ++ ":" ++ escaped kind ++ "/" ++
    escaped name ++ "#" ++ escaped channel ++ "@" ++ toString pointerVersion)

/-- `_ORPHAN_ID_NAMESPACE`. -/
def orphanIdNamespace : String := "7075e49b-9d7f-4134-a879-580c05b2db07"

def orphanCandidateId (X : Platform) (resourceId objectId objectDigest : String) : String :=
  "oc_" ++ X.uuid5 orphanIdNamespace
    (escaped resourceId ++ "|" ++ escaped objectId ++ "|" ++ escaped objectDigest)

def validateResourceId : JsonValue → Except PyError String
  | .str text =>
    if isResourceId text then .ok text
    else .error (.valueError "resource id must be an opaque rs_<lowercase-hex> identifier")
  | _ => .error (.valueError "resource id must be an opaque rs_<lowercase-hex> identifier")

theorem validateResourceId_str {text : String} (valid : isResourceId text = true) :
    validateResourceId (.str text) = .ok text := if_pos valid

theorem validateResourceId_ok {value : JsonValue} {text : String}
    (accepted : validateResourceId value = .ok text) :
    value = .str text ∧ isResourceId text = true := by
  unfold validateResourceId at accepted
  split at accepted
  · split at accepted
    · cases accepted
      exact ⟨rfl, by assumption⟩
    · cases accepted
  · cases accepted

/-- A record version as a store counts it: text or a number. -/
inductive RecordVersion where
  | text (value : String)
  | number (value : Int)
  deriving DecidableEq, Repr

def RecordVersion.toJson : RecordVersion → JsonValue
  | .text value => .str value
  | .number value => .int value

/-- `_validate_record_version`, with the version it admits. -/
def recordVersion : JsonValue → Except PyError (Option RecordVersion)
  | .null => .ok none
  | .str value => .ok (some (.text value))
  | .int value => .ok (some (.number value))
  | _ => .error (.typeError "record version must be a string or integer")

@[simp] theorem recordVersion_toJson (version : RecordVersion) :
    recordVersion version.toJson = .ok (some version) := by
  cases version <;> rfl

/-- The JSON value of an optional field. -/
def optionalJson {A : Type} (toJson : A → JsonValue) : Option A → JsonValue
  | none => .null
  | some value => toJson value

@[simp] theorem optionalJson_none {A : Type} (toJson : A → JsonValue) :
    optionalJson toJson none = .null := rfl

@[simp] theorem optionalJson_some {A : Type} (toJson : A → JsonValue) (value : A) :
    optionalJson toJson (some value) = toJson value := rfl

theorem recordVersion_self (version : Option RecordVersion) :
    recordVersion (optionalJson RecordVersion.toJson version) = .ok version := by
  cases version with
  | none => rfl
  | some version => exact recordVersion_toJson version

end ConfigArtifact
