import ConfigArtifact.Runtime

/-! Registration of artifact payloads without placing bytes in Core envelopes. -/

set_option autoImplicit false

namespace ConfigArtifact

open Interaction Fallible

variable {X : Platform}

/-- What a caller may pass as the payload of an artifact. -/
inductive ArtifactPayload where
  | bytes (raw : Bytes)
  | reference (reference : PayloadReference)
  | source (source : PayloadSource)
  | factory (source : PayloadSource)
  | stream (source : PayloadSource)
  | unsupported

structure RegisteredPayload where
  reference : PayloadReference
  digest : String
  byteLength : Nat
  owned : Bool

def requiredDigest (value : JsonValue) : Except PyError String :=
  if value = .null then
    .error (invalidPayload "streamed artifact publication requires expected_digest" none none)
  else
    match digest value with
    | .ok selected => .ok selected
    | .error _ =>
      .error (invalidPayload "expected_digest must use sha256:<lowercase-hex>" none none)

def requiredLength : JsonValue → Except PyError Nat
  | .null =>
    .error (invalidPayload "streamed artifact publication requires expected_length" none none)
  | .int length =>
    if length < 0 then
      .error (invalidPayload "expected_length must be a non-negative integer" none none)
    else .ok length.toNat
  | _ => .error (invalidPayload "expected_length must be a non-negative integer" none none)

/-- `_match_declared`. -/
def matchDeclared (observedDigest : String) (observedLength : Nat)
    (expectedDigest expectedLength : JsonValue) : Except PyError Unit := do
  if expectedDigest ≠ .null then
    let declared ← requiredDigest expectedDigest
    raiseIf (declared ≠ observedDigest)
      (invalidPayload "artifact bytes do not match expected_digest" none none)
  if expectedLength ≠ .null then
    let declared ← requiredLength expectedLength
    raiseIf (declared ≠ observedLength)
      (invalidPayload "artifact bytes do not match expected_length" none none)

/-- Register a source the caller must declare the identity of. -/
def registerDeclared (source : PayloadSource) (expectedDigest expectedLength : JsonValue) :
    PyM X RegisteredPayload := do
  let selectedDigest ← settle (requiredDigest expectedDigest)
  let selectedLength ← settle (requiredLength expectedLength)
  let reference ← invoke (Call.registerPayload source selectedDigest selectedLength : Call X)
  return ⟨reference, selectedDigest, selectedLength, true⟩

def registerPayload (payload : ArtifactPayload) (expectedDigest expectedLength : JsonValue) :
    PyM X RegisteredPayload :=
  match payload with
  | .bytes raw => do
    let observedDigest := X.digestOf raw
    settle (matchDeclared observedDigest raw.length expectedDigest expectedLength)
    let reference ← invoke (Call.registerPayload (.ofBytes raw) observedDigest raw.length : Call X)
    return ⟨reference, observedDigest, raw.length, true⟩
  | .reference reference => do
    -- `or` falls through on an empty digest as well as on a missing one.
    let selectedDigest ← settle (requiredDigest
      (if expectedDigest.truthy then expectedDigest
       else optionalJson .str reference.expectedDigest))
    let selectedLength ← settle (requiredLength
      (if expectedLength ≠ .null then expectedLength
       else optionalJson .int reference.expectedLength))
    return ⟨reference, selectedDigest, selectedLength, false⟩
  | .source source | .factory source | .stream source =>
    registerDeclared source expectedDigest expectedLength
  | .unsupported => do
    -- What is declared is checked before the type of the payload.
    let _ ← settle (requiredDigest expectedDigest)
    let _ ← settle (requiredLength expectedLength)
    throw (.typeError "artifact payload must be bytes, a binary stream, or a PayloadSource")

end ConfigArtifact
