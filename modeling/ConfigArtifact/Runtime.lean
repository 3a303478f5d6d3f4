import ConfigArtifact.Interaction.Fallible
import ConfigArtifact.Models.StoredResource

/-! The calls the package issues to its runtime.

Structured and Object Catalog calls, transactions, the clock, the payload
registry and the payload validator are the only effects. A transaction carries
the structured calls of its body; it commits when the body returns and not when
the body raises.
-/

set_option autoImplicit false

namespace ConfigArtifact

open Interaction

structure OrderBy where
  field : String
  descending : Bool
  deriving DecidableEq, Repr

inductive StructuredCall where
  | get (collection : Collection) (filter : Mapping)
  | put (collection : Collection) (data : Mapping)
  | patch (collection : Collection) (filter changes : Mapping) (expectedVersion : RecordVersion)
  | query (collection : Collection) (filter : Mapping) (orderBy : List OrderBy) (limit : Int)
      (cursor : Option String)
  deriving DecidableEq

structure OperationResult where
  data : JsonValue
  resources : List ResourceRef
  deriving DecidableEq

/-- A byte range as it is sent to the Object Catalog. -/
structure ByteRange where
  document : Mapping
  deriving DecidableEq

inductive ObjectCall where
  | put (objectId : String) (payload : PayloadReference) (mediaType expectedDigest : String)
      (expectedLength : Nat) (userMetadata : StringMapping) (creationContext provenance : Mapping)
  | stat (reference : ObjectReference)
  | get (reference : ObjectReference)
  | readRange (reference : ObjectReference) (range : ByteRange)
  | list (start : String) (limit : Int) (cursor : Option String)
  deriving DecidableEq

/-- What a payload may yield when it is opened. -/
structure PayloadSource where
  yields : Bytes → Prop

/-- A payload that yields fixed bytes each time it is opened. -/
def PayloadSource.ofBytes (raw : Bytes) : PayloadSource := ⟨fun value => value = raw⟩

inductive ReadResult where
  | bytes (value : Bytes)
  | other
  deriving DecidableEq

/-- An open payload: what a read of a size answers after the sizes asked for before, and
how its context is left. -/
structure PayloadStream where
  read : List Int → Int → Except PyError ReadResult
  close : Except PyError Unit := .ok ()

/-- How far a stream of fixed bytes has been read. -/
def positionAfter (content : Bytes) (sizes : List Int) : Nat :=
  sizes.foldl (fun position size =>
    if size < 0 then content.length else min (position + size.toNat) content.length) 0

/-- A stream of fixed bytes, as `BytesIO` reads them. -/
def PayloadStream.ofBytes (content : Bytes) : PayloadStream where
  read sizes size :=
    let rest := content.drop (positionAfter content sizes)
    .ok (.bytes (if size < 0 then rest else rest.take size.toNat))

abbrev structured : Interface := .fallible StructuredCall (fun _ => OperationResult) PyError

abbrev StructuredM (A : Type) := Fallible structured PyError A

inductive Call (X : Platform) where
  | structured (call : StructuredCall)
  | object (call : ObjectCall)
  | transaction (body : Program structured (Except PyError (StoredResourceV1 X)))
  | clock
  | utcNow
  | validate (payload : JsonValue) (schema : PayloadSchemaRef)
  | registerPayload (source : PayloadSource) (expectedDigest : String) (expectedLength : Nat)
  | openPayload (reference : PayloadReference)
  | releasePayload (reference : PayloadReference)

abbrev Call.Result {X : Platform} : Call X → Type
  | .structured _ => OperationResult
  | .object _ => OperationResult
  | .transaction _ => StoredResourceV1 X
  | .clock => DateTime
  | .utcNow => DateTime
  | .validate _ _ => JsonValue
  | .registerPayload _ _ _ => PayloadReference
  | .openPayload _ => PayloadStream
  | .releasePayload _ => Unit

abbrev runtime (X : Platform) : Interface := .fallible (Call X) Call.Result PyError

abbrev PyM (X : Platform) (A : Type) := Fallible (runtime X) PyError A

variable {X : Platform}

/-- A structured call outside any transaction. -/
def outsideTransaction (X : Platform) : structured.Embedding (runtime X) where
  call := .structured
  reply := fun _ reply => reply

def StructuredM.lift {A : Type} (body : StructuredM A) : PyM X A :=
  Fallible.embed (outsideTransaction X) body

def execute (call : StructuredCall) : StructuredM OperationResult := Fallible.invoke call

def executeObject (call : ObjectCall) : PyM X OperationResult := Fallible.invoke (Call.object call)

/-- `with self._metadata.transaction(): body`. -/
def inTransaction (body : StructuredM (StoredResourceV1 X)) : PyM X (StoredResourceV1 X) :=
  Fallible.invoke (Call.transaction body.run)

/-- `utc_timestamp(self._clock())`. -/
def currentTimestamp : PyM X String := do
  let time ← Fallible.invoke (Call.clock : Call X)
  Fallible.settle (utcTimestampOfDatetime time)

end ConfigArtifact
