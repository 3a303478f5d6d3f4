import ConfigArtifact.Models.Record

/-! A platform the model can be run on.

Hashes are tables of the values SHA-256 and UUIDv5 have where the development
runs the code, the JSON codec knows the empty object, and the value types of the
Object Catalog are written as plain mappings.
-/

set_option autoImplicit false

namespace ConfigArtifact

namespace Reference

/-- The bytes of `{}`. -/
def emptyObject : Bytes := [0x7b, 0x7d]

/-- The bytes of `{"retain":true}`. -/
def retainTrue : Bytes :=
  [0x7b, 0x22, 0x72, 0x65, 0x74, 0x61, 0x69, 0x6e, 0x22, 0x3a, 0x74, 0x72, 0x75, 0x65, 0x7d]

def sha256 (value : Bytes) : String :=
  if value = emptyObject then "44136fa355b3678a1146ad16f7e8649e94fb4fc21fe77e8310c060f61caaff8a"
  else if value = retainTrue then
    "4fbffccacada8aeb748dbd59a194b5c5e0403a5355d252ac9bb29cc31d5764a7"
  else "e3b0c44298fc1c149afbf4c8996fb92427ae41e4649b934ca495991b7852b855"

def uuid5 (_ : String) (name : String) : String :=
  if name = "team:feature/flags@1" then "87729d304aa25ba5bcc2c04bf24e2dfc"
  else if name = "team:feature/flags#stable@1" then "f75467b7d8945875a44b52a79822715e"
  else if name = "team:feature/flags#stable@2" then "ba3229a35c035d75b48686d37e6b2c81"
  else "00000000000000000000000000000000"

def canonicalJsonBytes (value : JsonValue) : Except PyError Bytes :=
  match freezeJson value with
  | .object [] => .ok emptyObject
  | _ => .error (.valueError "value is not known to the reference codec")

def jsonLoads (encoded : Bytes) : Except PyError JsonValue :=
  if encoded = emptyObject then .ok (.object [])
  else .error (.valueError "bytes are not known to the reference codec")

def resourceRefToDict (reference : ResourceRef) : Mapping :=
  [("catalog", .str reference.catalog), ("namespace", .str reference.namespace),
    ("name", .str reference.name)]

def parseResourceRef : Mapping → Except PyError ResourceRef
  | [("catalog", .str catalog), ("namespace", .str «namespace»), ("name", .str name)] =>
    .ok ⟨catalog, «namespace», name⟩
  | _ => .error (.valueError "invalid ResourceRef")

def optionalString (value : Option String) : JsonValue :=
  match value with
  | none => .null
  | some text => .str text

def parseOptionalString : JsonValue → Except PyError (Option String)
  | .null => .ok none
  | .str text => .ok (some text)
  | _ => .error (.valueError "invalid optional string")

def objectReferenceToDict (reference : ObjectReference) : Mapping :=
  [("resourceRef", .object (resourceRefToDict reference.resourceRef)),
    ("objectId", .str reference.objectId), ("digest", optionalString reference.digest)]

def parseReference : Mapping → Except PyError ObjectReference
  | [("resourceRef", .object resource), ("objectId", .str objectId), ("digest", digest)] => do
    let resourceRef ← parseResourceRef resource
    let digest ← parseOptionalString digest
    .ok ⟨resourceRef, objectId, digest⟩
  | _ => .error (.valueError "invalid ObjectReference")

def checkObjectReference (reference : ObjectReference) : Except PyError ObjectReference :=
  if reference.digest = none then .error (.valueError "ObjectReference requires a digest")
  else .ok reference

def parseObjectReference (entries : Mapping) : Except PyError ObjectReference := do
  let reference ← parseReference entries
  checkObjectReference reference

def stringEntriesToDict (entries : List (String × String)) : Mapping :=
  entries.map fun entry => (entry.1, .str entry.2)

def parseStringEntries : Mapping → Except PyError (List (String × String))
  | [] => .ok []
  | (key, .str value) :: rest => do
    let rest ← parseStringEntries rest
    .ok ((key, value) :: rest)
  | _ :: _ => .error (.valueError "invalid user metadata")

def objectMetadataToDict (metadata : ObjectMetadata) : Mapping :=
  [("objectRef", .object (objectReferenceToDict metadata.objectRef)),
    ("digest", .str metadata.digest), ("byteLength", natJson metadata.byteLength),
    ("mediaType", .str metadata.mediaType),
    ("userMetadata", .object (stringEntriesToDict metadata.userMetadata)),
    ("creationContext", .object metadata.creationContext),
    ("provenance", .object metadata.provenance)]

/-- The actor is not among the values JSON has. -/
def unencodable : PyError := .typeError "actor is not a JSON value"

def checkMetadata (metadata : ObjectMetadata) : Except PyError Unit :=
  match metadata.creationContext.lookup "actor" with
  | some (.foreign _) => .error unencodable
  | _ => .ok ()

def parseObjectMetadata : Mapping → Except PyError ObjectMetadata
  | [("objectRef", .object reference), ("digest", .str digest), ("byteLength", .int byteLength),
      ("mediaType", .str mediaType), ("userMetadata", .object userMetadata),
      ("creationContext", .object creationContext), ("provenance", .object provenance)] => do
    let objectRef ← parseReference reference
    let userMetadata ← parseStringEntries userMetadata
    .ok ⟨objectRef, digest, byteLength.toNat, mediaType, userMetadata, creationContext, provenance⟩
  | _ => .error (.valueError "invalid Object metadata")

def payloadReferenceToDict (reference : PayloadReference) : Mapping :=
  [("token", .str reference.token), ("expectedDigest", optionalString reference.expectedDigest),
    ("expectedLength", match reference.expectedLength with
      | none => .null
      | some length => .int length)]

def parsePayloadReference : Mapping → Except PyError PayloadReference
  | [("token", .str token), ("expectedDigest", digest), ("expectedLength", .null)] => do
    let digest ← parseOptionalString digest
    .ok ⟨token, digest, none⟩
  | [("token", .str token), ("expectedDigest", digest), ("expectedLength", .int length)] => do
    let digest ← parseOptionalString digest
    .ok ⟨token, digest, some length⟩
  | _ => .error (.valueError "invalid PayloadReference")

/-- The structured Resources of the provider. -/
def collectionRef : Collection → ResourceRef
  | .metadata => ⟨"structured", "resources", "metadata"⟩
  | .channels => ⟨"structured", "resources", "channels"⟩
  | .provenance => ⟨"structured", "resources", "provenance"⟩
  | .orphanCandidates => ⟨"structured", "resources", "orphan-candidates"⟩

def cursorAt (offset : Nat) : String := String.ofList (List.replicate offset 'i')

@[simp] theorem parse_optionalString (value : Option String) :
    parseOptionalString (optionalString value) = .ok value := by
  cases value <;> rfl

theorem parse_resourceRefToDict (reference : ResourceRef) :
    parseResourceRef (resourceRefToDict reference) = .ok reference := rfl

theorem parse_objectReferenceToDict (reference : ObjectReference) :
    parseReference (objectReferenceToDict reference) = .ok reference :=
  bind_ok.mpr ⟨_, parse_resourceRefToDict _, bind_ok.mpr ⟨_, parse_optionalString _, rfl⟩⟩

theorem parse_stringEntries (entries : List (String × String)) :
    parseStringEntries (stringEntriesToDict entries) = .ok entries := by
  induction entries with
  | nil => rfl
  | cons entry rest ih => exact bind_ok.mpr ⟨rest, ih, rfl⟩

theorem parse_objectMetadataToDict (metadata : ObjectMetadata) :
    parseObjectMetadata (objectMetadataToDict metadata) = .ok metadata :=
  bind_ok.mpr ⟨_, parse_objectReferenceToDict _, bind_ok.mpr ⟨_, parse_stringEntries _, rfl⟩⟩

theorem parse_payloadReferenceToDict (reference : PayloadReference) :
    parsePayloadReference (payloadReferenceToDict reference) = .ok reference := by
  obtain ⟨token, digest, length⟩ := reference
  cases length <;> exact bind_ok.mpr ⟨_, parse_optionalString _, rfl⟩

theorem checkObjectReference_ok {reference checked : ObjectReference}
    (accepted : checkObjectReference reference = .ok checked) :
    checked = reference ∧ reference.digest ≠ none := by
  unfold checkObjectReference at accepted
  split at accepted
  · cases accepted
  · next digested =>
    cases accepted
    exact ⟨rfl, digested⟩

theorem checkObjectReference_parsed {entries : Mapping} {reference : ObjectReference}
    (parsed : parseObjectReference entries = .ok reference) :
    checkObjectReference reference = .ok reference := by
  obtain ⟨read, -, checked⟩ := bind_ok.mp parsed
  obtain ⟨rfl, digested⟩ := checkObjectReference_ok checked
  exact checked

theorem checkMetadata_conflict {metadata : ObjectMetadata} {error : PyError}
    (refused : checkMetadata metadata = .error error) : error.isObjectConflict = false := by
  unfold checkMetadata at refused
  split at refused
  · cases refused
    rfl
  · cases refused

theorem sha256_hex (value : Bytes) : isHexOf 64 (sha256 value).toList = true := by
  unfold sha256
  split
  · decide
  · split <;> decide

theorem uuid5_hex (namespaceId name : String) : isHexOf 32 (uuid5 namespaceId name).toList = true := by
  unfold uuid5
  split
  · decide
  · split
    · decide
    · split <;> decide

theorem canonicalJsonBytes_ok {value : JsonValue} {encoded : Bytes}
    (written : canonicalJsonBytes value = .ok encoded) :
    freezeJson value = .object [] ∧ encoded = emptyObject := by
  unfold canonicalJsonBytes at written
  split at written
  · next empty =>
    cases written
    exact ⟨empty, rfl⟩
  · cases written

end Reference

def Platform.reference : Platform where
  sha256 := Reference.sha256
  uuid5 := Reference.uuid5
  canonicalJsonBytes := Reference.canonicalJsonBytes
  jsonLoads := Reference.jsonLoads
  objectReference := fun resourceRef objectId digest => .ok ⟨resourceRef, objectId, digest⟩
  checkObjectReference := Reference.checkObjectReference
  parseObjectReference := Reference.parseObjectReference
  objectReferenceToDict := Reference.objectReferenceToDict
  checkMetadata := Reference.checkMetadata
  parseObjectMetadata := Reference.parseObjectMetadata
  objectMetadataToDict := Reference.objectMetadataToDict
  parsePayloadReference := Reference.parsePayloadReference
  payloadReferenceToDict := Reference.payloadReferenceToDict
  parseResourceRef := Reference.parseResourceRef
  resourceRefToDict := Reference.resourceRefToDict
  validate := fun payload _ _ _ => .ok payload
  collectionRef := Reference.collectionRef
  objectResource := ⟨"object", "resources", "objects"⟩
  cursorAt := Reference.cursorAt
  cursorOffset := fun cursor => some cursor.length
  sha256_hex := Reference.sha256_hex
  uuid5_hex := Reference.uuid5_hex
  canonical_freeze := fun value => by
    unfold Reference.canonicalJsonBytes
    rw [freezeJson_freezeJson]
  loads_canonical := fun written => by
    obtain ⟨-, rfl⟩ := Reference.canonicalJsonBytes_ok written
    exact ⟨.object [], rfl, rfl⟩
  loads_object := fun _ written => by
    obtain ⟨-, rfl⟩ := Reference.canonicalJsonBytes_ok written
    exact ⟨[], rfl, Nat.zero_le _⟩
  objectReference_ok := fun same => (Except.ok.inj same).symm
  objectReference_artifact := fun _ _ _ => rfl
  check_ok := Reference.checkObjectReference_ok
  check_artifact := fun _ _ => rfl
  check_parse := Reference.checkObjectReference_parsed
  parse_toDict := fun checked =>
    bind_ok.mpr ⟨_, Reference.parse_objectReferenceToDict _, checked⟩
  check_conflict := Reference.checkMetadata_conflict
  check_content := fun _ _ _ _ => rfl
  parse_metadata := fun {metadata} _ => Reference.parse_objectMetadataToDict metadata
  parse_payload := Reference.parse_payloadReferenceToDict
  parse_resourceRef := fun collection => Reference.parse_resourceRefToDict (Reference.collectionRef collection)
  cursorOffset_cursorAt := fun offset => by simp [Reference.cursorAt]

end ConfigArtifact
