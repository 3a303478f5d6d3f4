import ConfigArtifact.Artifact.Consumer
import ConfigArtifact.Interaction.Execution

/-! Consumption of artifact bytes.

An open payload is read by the consumer's block and then by `verify`, which
drains it until it is empty. A stream need not come to its end, so the loop has a
patience after which it is interrupted, as by any exception that the stream or
the process may raise. Nothing is said about a consumption for one patience only.
-/

set_option autoImplicit false

namespace ConfigArtifact

open Interaction Fallible

variable {X : Platform}

/-- What a block asks of its reader. `readinto`, `readline` and `readall` are reads. -/
inductive ReaderCall where
  | read (size : Int)
  | close

abbrev ReaderCall.Result : ReaderCall → Type
  | .read _ => Bytes
  | .close => Unit

abbrev reading : Interface := .fallible ReaderCall ReaderCall.Result PyError

/-- The body of a `with` statement over a reader. -/
abbrev Block (A : Type) := Fallible reading PyError A

/-- `_VerifyingReader`, with the bytes that its hasher and its length have seen. -/
structure VerifyingReader where
  stream : PayloadStream
  expectedDigest : String
  expectedLength : Nat
  asked : List Int := []
  received : Bytes := []
  closed : Bool := false
  done : Bool := false

namespace VerifyingReader

def read (reader : VerifyingReader) (size : Int) : Except PyError Bytes × VerifyingReader :=
  if reader.closed then (.error (.valueError "I/O operation on closed file."), reader)
  else
    let asked := { reader with asked := reader.asked ++ [size] }
    match reader.stream.read reader.asked size with
    | .error error => (.error error, asked)
    | .ok .other => (.error (.typeError "artifact stream returned non-binary data"), asked)
    | .ok (.bytes value) => (.ok value, { asked with received := reader.received ++ value })

def answer : Answers reading VerifyingReader
  | .read size, reader => reader.read size
  | .close, reader => (.ok (), { reader with closed := true })

/-- `1024 * 1024` -/
def chunk : Int := 1048576

def interrupted : PyError := .other "KeyboardInterrupt"

/-- `while self.read(1024 * 1024): pass` -/
def drain : Nat → VerifyingReader → Except PyError Unit × VerifyingReader
  | 0, reader => (.error interrupted, reader)
  | patience + 1, reader =>
    match reader.read chunk with
    | (.error error, later) => (.error error, later)
    | (.ok [], later) => (.ok (), later)
    | (.ok (_ :: _), later) => drain patience later

def verify (X : Platform) (patience : Nat) (reader : VerifyingReader) :
    Except PyError Unit × VerifyingReader :=
  if reader.done then (.ok (), reader)
  else
    match reader.drain patience with
    | (.error error, later) => (.error error, later)
    | (.ok _, later) =>
      (raiseIf (later.received.length ≠ later.expectedLength ∨
        X.digestOf later.received ≠ later.expectedDigest) (artifactDigestMismatch none),
        { later with done := true })

end VerifyingReader

/-- What range reads take from the package of the Object Catalog. -/
structure RangeSupport where
  /-- `byte_range.resolve(byte_length).length` -/
  resolve : ByteRange → Nat → Except PyError Nat
  /-- `b"".join(iter_payload_chunks(stream))` -/
  join : PayloadStream → Except PyError Bytes

namespace ArtifactConsumer

/-- What the block and the verification make of an open payload, and leaving its context. -/
def session {A : Type} (patience : Nat) (resource : StoredResourceV1 X) (block : Block A)
    (stream : PayloadStream) : Except PyError A :=
  let (ended, reader) := block.run.execute VerifyingReader.answer
    { stream, expectedDigest := resource.digest, expectedLength := resource.byteLength }
  let outcome := do
    let value ← ended
    (reader.verify X patience).1
    .ok value
  -- What leaving the context raises takes the place of any outcome.
  stream.close >>= fun _ => outcome

/-- The answer to a read, once its metadata is verified. -/
def verifiedRead (resource : StoredResourceV1 X) (fetch : ObjectReference → PyM X ObjectRead) :
    PyM X ObjectRead := do
  let reference ← settle (consumedReference resource)
  match ← attempt (fetch reference) with
  | .error error => throw (orMissing resource error)
  | .ok result =>
    match verifyConsumedMetadata result.metadata resource with
    | .error error => do
      -- Nothing has been opened, so the payload is released here.
      invoke (Call.releasePayload result.payload : Call X)
      throw error
    | .ok _ => return result

/-- `with self._payloads.open(payload) as stream: body`, and the release of the payload. -/
def consuming {A : Type} (payload : PayloadReference) (body : PayloadStream → Except PyError A) :
    PyM X A :=
  ensuring (do
    let stream ← invoke (Call.openPayload payload : Call X)
    settle (body stream)) (invoke (Call.releasePayload payload : Call X))

/-- `with consumer.open(resource) as stream: block` -/
def «open» {A : Type} (patience : Nat) (resource : StoredResourceV1 X) (block : Block A) :
    PyM X A := do
  let result ← verifiedRead resource ObjectRepository.get
  consuming result.payload (session patience resource block)

def read (patience : Nat) (resource : StoredResourceV1 X) : PyM X Bytes :=
  «open» patience resource (invoke (ReaderCall.read (-1)))

def rangeRead (support : RangeSupport) (resource : StoredResourceV1 X) (byteRange : ByteRange) :
    PyM X Bytes := do
  let result ← verifiedRead resource fun reference => ObjectRepository.readRange reference byteRange
  -- Between the two releasing blocks: what this raises releases nothing.
  let length ← settle (support.resolve byteRange resource.byteLength)
  let value ← consuming result.payload fun stream => stream.close >>= fun _ => support.join stream
  settle (raiseIf (value.length ≠ length)
    (artifactDigestMismatch none "artifact range length verification failed"))
  return value

end ArtifactConsumer

end ConfigArtifact
