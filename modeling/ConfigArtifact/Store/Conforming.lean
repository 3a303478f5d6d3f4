import ConfigArtifact.Store.Presentation

/-! The stores the package is deployed over.

A conforming structured store inserts a row only where none is, patches a row
only at the version the caller expects, and answers queries from the rows it
holds. A conforming Object store creates only, from bytes that match what was
declared, and reports what it stored; its surface refuses metadata it cannot
store before anything is called. Faulty and untrusted deployments are
derived from these.
-/

set_option autoImplicit false

namespace ConfigArtifact

open Interaction

variable (X : Platform)

/-- An answer with one row. -/
def Found (collection : Collection) (key : String) (row : Row)
    (reply : Except PyError OperationResult) : Prop :=
  ∃ data resources, reply = .ok ⟨data, resources⟩ ∧ Presents X collection key row data

/-- An error of the store's own, of a category. -/
def Fails (category : ErrorCategory) (reply : Except PyError OperationResult) : Prop :=
  ∃ error : PyError, reply = .error error ∧ error.hasCategory category = true ∧
    error.hasType .identityConflict = false

/-- An answer that says that there is no such row. -/
def Missing (reply : Except PyError OperationResult) : Prop :=
  (∃ resources, reply = .ok ⟨.null, resources⟩) ∨ Fails .notFound reply

/-- Where the values of a kind come in a column. -/
def columnRank : JsonValue → Nat
  | .int _ => 0
  | .str _ => 1
  | .null => 3
  | _ => 2

/-- An order on the values of a column: missing values come last either way. -/
def columnLe (descending : Bool) : JsonValue → JsonValue → Bool
  | .int left, .int right => if descending then right ≤ left else left ≤ right
  | .str left, .str right => if descending then right ≤ left else left ≤ right
  | left, right => columnRank left ≤ columnRank right

/-- Rows that tie in one column are ordered by the next. -/
def rowLe : List OrderBy → Row → Row → Bool
  | [], _, _ => true
  | order :: rest, left, right =>
    let first := entryOf left.values order.field
    let second := entryOf right.values order.field
    columnLe order.descending first second &&
      (!columnLe order.descending second first || rowLe rest left right)

def matchesFilter (filter : Mapping) (row : Row) : Bool :=
  filter.all fun condition => entryOf row.values condition.1 = condition.2

/-- The offset a cursor stands for. -/
def offsetOf : Option String → Option Nat
  | none => some 0
  | some cursor => X.cursorOffset cursor

/-- The cursor of the page after the one that ends at an offset. -/
def nextCursor (reached total : Nat) : JsonValue :=
  if reached < total then .str (X.cursorAt reached) else .null

def pageData (items : List JsonValue) (cursor : JsonValue) : JsonValue :=
  .object [("items", .array items), ("cursor", cursor)]

def applyChanges (values changes : Mapping) : Mapping :=
  changes.foldl (fun values change => Mapping.set values change.1 change.2) values

def conforming : Environment structured World
  | .get collection filter, before, reply, after =>
    after = before ∧ ∃ key, keyOf collection filter = some key ∧
      match before.row? collection key with
      | some row => Found X collection key row reply
      | none => Missing reply
  | .put collection data, before, reply, after =>
    ∃ key, keyOf collection data = some key ∧
      match before.row? collection key with
      | some _ => after = before ∧ Fails .conflict reply
      | none => ∃ version, RecordVersion.IsValid version ∧
          after = before.setRow collection key ⟨data, version⟩ ∧
          Found X collection key ⟨data, version⟩ reply
  | .patch collection filter changes expected, before, reply, after =>
    ∃ key, keyOf collection filter = some key ∧
      match before.row? collection key with
      | none => after = before ∧ Fails .notFound reply
      | some row =>
        if row.version = expected then
          ∃ version data, RecordVersion.IsValid version ∧ version ≠ row.version ∧
            after = before.setRow collection key ⟨applyChanges row.values changes, version⟩ ∧
            Presents X collection key ⟨applyChanges row.values changes, version⟩ data ∧
            reply = .ok ⟨.array [data], [X.collectionRef collection]⟩
        else after = before ∧ Fails .conflict reply
  | .query collection filter orderBy limit cursor, before, reply, after =>
    after = before ∧ match offsetOf X cursor with
    | none => ∃ error : PyError, reply = .error error
    | some offset => ∃ selected items resources,
      List.Perm selected ((before.rows collection).filter (matchesFilter filter)) ∧
      selected.Pairwise (fun left right => rowLe orderBy left right = true) ∧
      List.Forall₂ (fun row item => ∃ key, before.row? collection key = some row ∧
        Presents X collection key row item) ((selected.drop offset).take limit.toNat) items ∧
      reply = .ok ⟨pageData items (nextCursor X (offset + limit.toNat) selected.length), resources⟩

abbrev objectCatalog : Interface := .fallible ObjectCall (fun _ => OperationResult) PyError

/-- A registered payload may yield these bytes. -/
def Delivers (world : World) (payload : PayloadReference) (content : Bytes) : Prop :=
  ∃ source, world.payload? payload.token = some source ∧ source.yields content

/-- The bytes are the declared ones. -/
def IsIntact (digest : String) (length : Nat) (content : Bytes) : Prop :=
  X.digestOf content = digest ∧ content.length = length

/-- A payload that yields bytes, and never any but the declared ones. -/
def IsReplayable (world : World) (payload : PayloadReference) (digest : String) (length : Nat) :
    Prop :=
  (∃ content, Delivers world payload content) ∧
    ∀ content, Delivers world payload content → IsIntact X digest length content

/-- The Object a reference names, if the digests agree. -/
def World.find? (world : World) (reference : ObjectReference) : Option StoredObject :=
  (world.object? reference.objectId).filter fun object =>
    reference.digest = none || reference.digest = some object.metadata.digest

def objectData (metadata : ObjectMetadata) : Mapping :=
  [("metadata", .object (X.objectMetadataToDict metadata))]

def isMissingObject (error : PyError) : Bool :=
  error.hasType .objectNotFound && error.hasCategory .notFound

/-- The Objects whose ids have a prefix, by id. -/
def World.listed (world : World) (start : String) : List ObjectMetadata :=
  ((world.objects.entries.filter fun entry => start.toList.isPrefixOf entry.1.toList).insertionSort
    fun left right => left.1 ≤ right.1).map fun entry => entry.2.metadata

/-- The metadata of an Object that a put has committed. -/
def committedMetadata (objectId digest : String) (length : Nat) (mediaType : String)
    (userMetadata : StringMapping) (creationContext provenance : Mapping) : ObjectMetadata :=
  ⟨⟨X.objectResource, objectId, some digest⟩, digest, length, mediaType, userMetadata,
    creationContext, provenance⟩

def conformingObjects : Environment objectCatalog World
  | .put objectId payload mediaType digest length userMetadata creationContext provenance, before,
      reply, after =>
    let metadata := committedMetadata X objectId digest length mediaType userMetadata
      creationContext provenance
    X.checkMetadata metadata = .ok () ∧
      ((∃ content resources, Delivers before payload content ∧ IsIntact X digest length content ∧
          before.object? objectId = none ∧ after = before.setObject objectId ⟨metadata, content⟩ ∧
          reply = .ok ⟨.object (objectData X metadata), resources⟩) ∨
        (after = before ∧ before.object? objectId ≠ none ∧
          ∃ error : PyError, reply = .error error ∧ error.isObjectConflict = true) ∨
        (after = before ∧ ¬IsReplayable X before payload digest length ∧
          ∃ error : PyError, reply = .error error)) ∨
    ∃ error, X.checkMetadata metadata = .error error ∧ after = before ∧ reply = .error error
  | .stat reference, before, reply, after =>
    after = before ∧
      match before.find? reference with
      | some object => ∃ resources, reply = .ok ⟨.object (objectData X object.metadata), resources⟩
      | none => ∃ error : PyError, reply = .error error ∧ isMissingObject error = true
  | .get reference, before, reply, after =>
    match before.find? reference with
    | some object => ∃ token resources, before.payload? token = none ∧
        after = before.setPayload token (.ofBytes object.content) ∧
        reply = .ok ⟨.object (objectData X object.metadata ++ [("payload",
          .object (X.payloadReferenceToDict ⟨token, some object.metadata.digest,
            some object.metadata.byteLength⟩))]), resources⟩
    | none => after = before ∧ ∃ error : PyError, reply = .error error ∧ isMissingObject error = true
  | .readRange _ _, before, _, after =>
    after = before ∨ ∃ token source, before.payload? token = none ∧
      after = before.setPayload token source
  | .list start limit cursor, before, reply, after =>
    after = before ∧ match offsetOf X cursor with
    | none => ∃ error : PyError, reply = .error error
    | some offset => ∃ resources, reply = .ok ⟨pageData
        ((((before.listed start).drop offset).take limit.toNat).map fun metadata =>
          .object (X.objectMetadataToDict metadata))
        (nextCursor X (offset + limit.toNat) (before.listed start).length), resources⟩

/-- A transaction commits the effects of its body when the body returns, and none when it raises. -/
def Transacts {A : Type} (records : Environment structured World)
    (body : Program structured (Except PyError A)) (before : World) (reply : Except PyError A)
    (after : World) : Prop :=
  ∃ state, body.Runs records before reply state ∧
    match reply with
    | .ok _ => after = state
    | .error _ => after = before

/-- A clock reading that has a UTC timestamp. -/
def IsReading (reply : Except PyError DateTime) : Prop :=
  ∃ time, reply = .ok time ∧ (utcTimestampOfDatetime time).isOk = true

/-- The runtime over a structured and an Object store. -/
def deployed (records : Environment structured World) (objects : Environment objectCatalog World) :
    Environment (runtime X) World
  | .structured call, before, reply, after => records call before reply after
  | .object call, before, reply, after => objects call before reply after
  | .transaction body, before, reply, after => Transacts records body before reply after
  | .clock, before, reply, after => after = before ∧ IsReading reply
  | .utcNow, before, reply, after => after = before ∧ IsReading reply
  | .validate payload schema, before, reply, after =>
    after = before ∧ reply = X.validate payload schema.namespace schema.name schema.version
  | .registerPayload source digest length, before, reply, after =>
    ∃ token, before.payload? token = none ∧ after = before.setPayload token source ∧
      reply = .ok ⟨token, some digest, some (length : Int)⟩
  | .openPayload payload, before, reply, after =>
    after = before ∧ ((∃ content, Delivers before payload content ∧ reply = .ok (.ofBytes content)) ∨
      ((¬∃ content, Delivers before payload content) ∧ ∃ error, reply = .error error))
  | .releasePayload _, before, reply, after => after = before ∧ reply = .ok ()

/-- Every call is answered as documented. -/
def reliable : Environment (runtime X) World := deployed X (conforming X) (conformingObjects X)

/-- Any call, also inside a transaction, may fail without effect, or take effect
and then report an error. -/
def faulty : Environment (runtime X) World :=
  (deployed X (conforming X).interrupted (conformingObjects X).interrupted).interrupted

/-- Every call takes effect or not, and is answered anything at all. -/
def untrusted : Environment (runtime X) World :=
  (deployed X (conforming X).unreliable (conformingObjects X).unreliable).unreliable

end ConfigArtifact
