import ConfigArtifact.Repositories.Metadata

/-! Object Catalog persistence and payload hand-off. -/

set_option autoImplicit false

namespace ConfigArtifact

open Interaction Fallible

variable {X : Platform}

/-- `_mapping` of the Object repository. -/
def asObjectMapping (value : JsonValue) (description : String) : Except PyError Mapping :=
  match value with
  | .object entries => .ok entries
  | _ => .error (invalidRepositoryResult (description ++ " was not an object"))

structure ObjectRead where
  metadata : ObjectMetadata
  payload : PayloadReference
  byteRange : Option JsonValue

structure ObjectPage where
  items : List ObjectMetadata
  cursor : Option String

namespace ObjectRepository

/-- `_metadata`. -/
def metadataOf (X : Platform) (result : OperationResult) (description : String) :
    Except PyError ObjectMetadata := do
  let data ← asObjectMapping result.data description
  orInvalid (description ++ " violated the V1 contract") do
    let metadata ← asObjectMapping (entryOf data "metadata") (description ++ " metadata")
    X.parseObjectMetadata metadata

/-- `_read`. -/
def readOf (X : Platform) (result : OperationResult) (description : String) :
    Except PyError ObjectRead := do
  let data ← asObjectMapping result.data description
  let metadata ← metadataOf X result description
  let payload ← orInvalid (description ++ " payload violated the V1 contract") do
    let payload ← asObjectMapping (entryOf data "payload") (description ++ " payload")
    X.parsePayloadReference payload
  match entryOf data "range" with
  | .null => .ok ⟨metadata, payload, none⟩
  | range => do
    raiseIf (range.mappingSize? = none)
      (invalidRepositoryResult (description ++ " range was not an object"))
    .ok ⟨metadata, payload, some range⟩

def put (objectId : String) (payload : PayloadReference) (mediaType expectedDigest : String)
    (expectedLength : Nat) (userMetadata : StringMapping) (creationContext provenance : Mapping) :
    PyM X ObjectMetadata := do
  let result ← executeObject (.put objectId payload mediaType expectedDigest expectedLength
    userMetadata creationContext provenance)
  settle (metadataOf X result "Object put result")

def stat (reference : ObjectReference) : PyM X ObjectMetadata := do
  let result ← executeObject (.stat reference)
  settle (metadataOf X result "Object stat result")

def get (reference : ObjectReference) : PyM X ObjectRead := do
  let result ← executeObject (.get reference)
  settle (readOf X result "Object get result")

def readRange (reference : ObjectReference) (range : ByteRange) : PyM X ObjectRead := do
  let result ← executeObject (.readRange reference range)
  settle (readOf X result "Object range result")

/-- What `list` makes of the answer to its call. -/
def pageOf (X : Platform) (result : OperationResult) : Except PyError ObjectPage := do
  let data ← asObjectMapping result.data "Object list result"
  let (items, cursor) ← envelope (entryOf data "items") (entryOf data "cursor")
  let parsed ← orInvalid "Object list item violated the V1 contract" (items.mapM fun item => do
    let entries ← asObjectMapping item "Object list item"
    X.parseObjectMetadata entries)
  .ok ⟨parsed, cursor⟩
where
  envelope : JsonValue → JsonValue → Except PyError (List JsonValue × Option String)
    | .array items, .null => .ok (items, none)
    | .array items, .str cursor => .ok (items, some cursor)
    | _, _ => .error (invalidRepositoryResult "Object list result had an invalid page envelope")

def list (start : String) (limit : Int) (cursor : Option String) : PyM X ObjectPage := do
  let result ← executeObject (.list start limit cursor)
  settle (pageOf X result)

end ObjectRepository

end ConfigArtifact
