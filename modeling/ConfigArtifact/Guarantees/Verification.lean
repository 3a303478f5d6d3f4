import ConfigArtifact.Guarantees.Release

/-! What a whole read returns, and what it has verified.

The bytes that are returned come from one read of the stream. The digest is that
of everything the stream delivers, until it is drained.
-/

set_option autoImplicit false

namespace ConfigArtifact

open Interaction Fallible ArtifactConsumer
open VerifyingReader (chunk)

variable {X : Platform}

/-- What a stream delivers until it is drained, after the sizes it was asked for before. -/
inductive Drains (stream : PayloadStream) : List Int → Bytes → Prop
  | ended {asked : List Int} (empty : stream.read asked chunk = .ok (.bytes [])) :
      Drains stream asked []
  | more {asked : List Int} {value rest : Bytes} (reads : stream.read asked chunk = .ok (.bytes value))
      (delivered : value ≠ []) (later : Drains stream (asked ++ [chunk]) rest) :
      Drains stream asked (value ++ rest)

namespace VerifyingReader

variable {reader : VerifyingReader}

theorem read_ok {size : Int} {value : Bytes} {later : VerifyingReader}
    (unclosed : reader.closed = false) : reader.read size = (.ok value, later) ↔
      reader.stream.read reader.asked size = .ok (.bytes value) ∧
        later = { reader with
          asked := reader.asked ++ [size], received := reader.received ++ value } := by
  unfold read
  rw [unclosed, if_neg Bool.false_ne_true]
  cases reader.stream.read reader.asked size with
  | error error => simp
  | ok result =>
    cases result with
    | other => simp
    | bytes given =>
      constructor
      · intro same
        cases same
        exact ⟨rfl, rfl⟩
      · rintro ⟨same, rfl⟩
        cases same
        rfl

/-- A loop that comes to its end has seen what the stream delivers. -/
theorem drain_ok {patience : Nat} {later : VerifyingReader} (unclosed : reader.closed = false)
    (drained : reader.drain patience = (.ok (), later)) :
    ∃ rest asked, Drains reader.stream reader.asked rest ∧
      later = { reader with asked, received := reader.received ++ rest } := by
  induction patience generalizing reader with
  | zero => cases drained
  | succ patience ih =>
    unfold drain at drained
    split at drained
    · cases drained
    · next first reads =>
      cases drained
      obtain ⟨empty, rfl⟩ := (read_ok unclosed).mp reads
      exact ⟨[], _, .ended empty, rfl⟩
    · next byte bytes first reads =>
      obtain ⟨delivered, rfl⟩ := (read_ok unclosed).mp reads
      obtain ⟨rest, asked, drains, rfl⟩ := @ih { reader with
        asked := reader.asked ++ [chunk]
        received := reader.received ++ byte :: bytes } unclosed drained
      refine ⟨byte :: bytes ++ rest, asked, .more delivered (by simp) drains, ?_⟩
      rw [← List.append_assoc]

/-- With enough patience a stream that can be drained is. -/
theorem drain_of_drains {stream : PayloadStream} {asked : List Int} {rest : Bytes}
    (drains : Drains stream asked rest) : ∀ reader : VerifyingReader, reader.stream = stream →
      reader.asked = asked → reader.closed = false → ∃ patience asked', reader.drain patience =
        (.ok (), { reader with asked := asked', received := reader.received ++ rest }) := by
  induction drains with
  | ended empty =>
    rintro reader rfl rfl unclosed
    refine ⟨1, reader.asked ++ [chunk], ?_⟩
    unfold drain
    rw [(read_ok unclosed).mpr ⟨empty, rfl⟩]
  | @more _ value rest reads delivered later ih =>
    rintro reader rfl rfl unclosed
    obtain ⟨patience, asked', drained⟩ := ih { reader with
      asked := reader.asked ++ [chunk], received := reader.received ++ value } rfl rfl unclosed
    refine ⟨patience + 1, asked', ?_⟩
    unfold drain
    rw [(read_ok unclosed).mpr ⟨reads, rfl⟩]
    cases value with
    | nil => exact absurd rfl delivered
    | cons byte bytes =>
      dsimp only
      rw [drained]
      simp

end VerifyingReader

section

variable {resource : StoredResourceV1 X} {stream : PayloadStream} {first rest : Bytes}

/-- The first read of a stream, and what is drained from it, pass for a resource. -/
structure Passes (resource : StoredResourceV1 X) (stream : PayloadStream) (first rest : Bytes) :
    Prop where
  reads : stream.read [] (-1) = .ok (.bytes first)
  drains : Drains stream [-1] rest
  digest : X.digestOf (first ++ rest) = resource.digest
  byteLength : (first ++ rest).length = resource.byteLength
  closes : stream.close = .ok ()

/-- The reader that a block starts with. -/
def fresh (resource : StoredResourceV1 X) (stream : PayloadStream) : VerifyingReader :=
  { stream, expectedDigest := resource.digest, expectedLength := resource.byteLength }

theorem session_eq {A : Type} (patience : Nat) (block : Block A) (stream : PayloadStream) :
    session patience resource block stream = (stream.close >>= fun _ =>
      (block.run.execute VerifyingReader.answer (fresh resource stream)).1 >>= fun value =>
        ((block.run.execute VerifyingReader.answer (fresh resource stream)).2.verify X patience).1
          >>= fun _ => .ok value) := rfl

theorem session_read (patience : Nat) :
    session patience resource (invoke (ReaderCall.read (-1))) stream =
      (stream.close >>= fun _ => ((fresh resource stream).read (-1)).1 >>= fun value =>
        (((fresh resource stream).read (-1)).2.verify X patience).1 >>= fun _ => .ok value) := rfl

theorem passes_of_session {patience : Nat}
    (returned : session patience resource (invoke (ReaderCall.read (-1))) stream = .ok first) :
    ∃ rest, Passes resource stream first rest := by
  rw [session_read] at returned
  cases answered : (fresh resource stream).read (-1) with | mk ended later
  rw [answered] at returned
  obtain ⟨_, closes, returned⟩ := bind_ok.mp returned
  obtain ⟨value, rfl, returned⟩ := bind_ok.mp returned
  obtain ⟨_, verified, same⟩ := bind_ok.mp returned
  cases same
  obtain ⟨reads, rfl⟩ := (VerifyingReader.read_ok rfl).mp answered
  unfold VerifyingReader.verify at verified
  rw [if_neg (by simp [fresh])] at verified
  split at verified
  · cases verified
  · next drained =>
    obtain ⟨rest, asked, drains, rfl⟩ := VerifyingReader.drain_ok rfl drained
    rw [raiseIf_ok, not_or, not_not, not_not] at verified
    exact ⟨rest, reads, drains, verified.2, verified.1, closes⟩

theorem Passes.session (passes : Passes resource stream first rest) :
    ∃ patience, session patience resource (invoke (ReaderCall.read (-1))) stream = .ok first := by
  have reads := (@VerifyingReader.read_ok (fresh resource stream) (-1) first _ rfl).mpr
    ⟨passes.reads, rfl⟩
  obtain ⟨patience, asked, drained⟩ := VerifyingReader.drain_of_drains passes.drains
    { fresh resource stream with asked := [-1], received := first } rfl rfl rfl
  refine ⟨patience, ?_⟩
  rw [session_read, passes.closes, reads]
  refine bind_ok.mpr ⟨(), rfl, bind_ok.mpr ⟨first, rfl, bind_ok.mpr ⟨(), ?_, rfl⟩⟩⟩
  unfold VerifyingReader.verify
  rw [if_neg (by simp [fresh])]
  dsimp only [fresh, List.nil_append] at drained ⊢
  rw [drained]
  refine raiseIf_ok.mpr ?_
  rintro (short | altered)
  · exact short passes.byteLength
  · exact altered passes.digest

/-- The registry opens one stream. Whatever else is called answers anything. -/
def opening (stream : PayloadStream) : (request : Call X) → Except PyError request.Result → Prop
  | .openPayload _, reply => reply = .ok stream
  | _, _ => True

/-- The registry opens one stream and takes its payload back. Whatever else is called answers
anything. -/
def lending (stream : PayloadStream) : (request : Call X) → Except PyError request.Result → Prop
  | .openPayload _, reply => reply = .ok stream
  | .releasePayload _, reply => reply = .ok ()
  | _, _ => True

/-- The payload has been opened, and the block entered. -/
def Entered (log : Log X) : Prop := ∃ payload reply, ⟨Call.openPayload payload, reply⟩ ∈ log

/-- Bytes that are returned are those of the resource. -/
def IsVerified (resource : StoredResourceV1 X) (result : Except PyError Bytes) : Prop :=
  ∀ bytes, result = .ok bytes →
    X.digestOf bytes = resource.digest ∧ bytes.length = resource.byteLength

/-- The metadata of the Object that a resource names. -/
def metadataFor (resource : StoredResourceV1 X) (reference : ObjectReference) : ObjectMetadata :=
  ⟨reference, resource.digest, resource.byteLength, resource.mediaType, [], [], []⟩

/-- An answer that hands over a payload of the resource. -/
def answerFor (resource : StoredResourceV1 X) (reference : ObjectReference) : OperationResult :=
  ⟨.object [("metadata", .object (X.objectMetadataToDict (metadataFor resource reference))),
    ("payload", .object (X.payloadReferenceToDict ⟨"payload", none, none⟩))], []⟩

theorem readOf_whole {metadata : ObjectMetadata} (accepted : X.checkMetadata metadata = .ok ())
    (payload : PayloadReference)
    (resources : List ResourceRef) (description : String) :
    ObjectRepository.readOf X ⟨.object (objectData X metadata ++
      [("payload", .object (X.payloadReferenceToDict payload))]), resources⟩ description =
      .ok ⟨metadata, payload, none⟩ := by
  have parsed : orInvalid (description ++ " violated the V1 contract")
      (X.parseObjectMetadata (X.objectMetadataToDict metadata)) = .ok metadata := by
    rw [X.parse_metadata accepted]
    rfl
  have handed : orInvalid (description ++ " payload violated the V1 contract")
      (X.parsePayloadReference (X.payloadReferenceToDict payload)) = .ok payload := by
    rw [X.parse_payload]
    rfl
  refine bind_ok.mpr ⟨_, rfl, bind_ok.mpr ⟨_, bind_ok.mpr ⟨_, rfl, parsed⟩, ?_⟩⟩
  exact bind_ok.mpr ⟨_, handed, rfl⟩

theorem readOf_answerFor {reference : ObjectReference}
    (checked : X.checkObjectReference reference = .ok reference)
    (named : reference.digest = some resource.digest) (description : String) :
    ObjectRepository.readOf X (answerFor resource reference) description =
      .ok ⟨metadataFor resource reference, ⟨"payload", none, none⟩, none⟩ :=
  readOf_whole (X.check_content checked named resource.valid.mediaType.1 resource.valid.mediaType.2)
    ⟨"payload", none, none⟩ [] description

theorem consumedReference_artifact (artifact : resource.profile = .artifact) :
    ∃ reference, consumedReference resource = .ok reference ∧
      resource.objectRef = some reference ∧ X.checkObjectReference reference = .ok reference ∧
      reference.digest = some resource.digest := by
  have contained := resource.valid.content
  rw [artifact] at contained
  obtain ⟨-, -, reference, named, checked, digested⟩ := contained
  refine ⟨reference, bind_ok.mpr ⟨(), raiseIf_ok.mpr (by simp [artifact]), ?_⟩, named, checked,
    digested⟩
  rw [named]

/-- What a session makes of a stream, a consumption that is handed a payload of its
resource makes of it. -/
theorem runs_open {A : Type} {patience : Nat} {block : Block A} {result : Except PyError A}
    (artifact : resource.profile = .artifact)
    (ended : session patience resource block stream = result) :
    ∃ log, («open» patience resource block).run.Runs (.logging (lending stream)) [] result log ∧
      Entered log := by
  obtain ⟨reference, asks, named, checked, digested⟩ := consumedReference_artifact artifact
  have matching : verifyConsumedMetadata (metadataFor resource reference) resource = .ok () :=
    raiseIf_ok.mpr (by simp [metadataFor, named])
  have fetches : (verifiedRead resource ObjectRepository.get).run.Runs (.logging (lending stream)) []
      (.ok ⟨metadataFor resource reference, ⟨"payload", none, none⟩, none⟩)
      [⟨.object (.get reference), .ok (answerFor resource reference)⟩] := by
    have answered : (ObjectRepository.get reference : PyM X ObjectRead).run.Runs
        (.logging (lending stream)) []
        (.ok ⟨metadataFor resource reference, ⟨"payload", none, none⟩, none⟩)
        [⟨.object (.get reference), .ok (answerFor resource reference)⟩] := by
      rw [run_getObject]
      exact ⟨_, _, ⟨trivial, rfl⟩, readOf_answerFor checked digested _, rfl⟩
    unfold verifiedRead
    rw [run_settle_bind, asks, andThen_ok, run_attempt_bind]
    refine (Program.runs_bind _ _ _ _ _ _).mpr ⟨_, _, answered, ?_⟩
    dsimp only
    rw [matching]
    exact ⟨rfl, rfl⟩
  have consumes : ∃ log, (consuming ⟨"payload", none, none⟩
      (session patience resource block) : PyM X A).run.Runs
      (.logging (lending stream)) [⟨.object (.get reference), .ok (answerFor resource reference)⟩]
      result log ∧ Entered log := by
    unfold consuming
    rw [run_ensuring]
    exact ⟨_, (Program.runs_bind _ _ _ _ _ _).mpr ⟨result, _,
      ⟨.ok stream, _, ⟨rfl, rfl⟩, ended, rfl⟩, .ok (), _, ⟨rfl, rfl⟩, rfl, rfl⟩,
      ⟨"payload", none, none⟩, .ok stream, by simp⟩
  obtain ⟨log, consumes, entered⟩ := consumes
  unfold ArtifactConsumer.open
  rw [run_bind]
  exact ⟨log, (Program.runs_bind _ _ _ _ _ _).mpr ⟨_, _, fetches, consumes⟩, entered⟩

theorem opening_of_lending {request : Call X} {reply : Except PyError request.Result}
    (permitted : lending stream request reply) : opening stream request reply := by
  cases request with
  | openPayload payload => exact permitted
  | _ => trivial

/-- What a session returns, a read that is handed a payload of its resource returns. -/
theorem runs_read {patience : Nat} (artifact : resource.profile = .artifact)
    (returned : session patience resource (invoke (ReaderCall.read (-1))) stream = .ok first) :
    ∃ log, (read patience resource).run.Runs (.logging (opening stream)) [] (.ok first) log := by
  obtain ⟨log, runs, -⟩ := runs_open artifact returned
  refine ⟨log, runs.mono ?_⟩
  rintro request before reply after ⟨permitted, rfl⟩
  exact ⟨opening_of_lending permitted, rfl⟩

/-- What a read returns, a session over the stream returns. -/
theorem session_of_runs {patience : Nat} {log : Log X}
    (runs : (read patience resource).run.Runs (.logging (opening stream)) [] (.ok first) log) :
    session patience resource (invoke (ReaderCall.read (-1))) stream = .ok first := by
  obtain ⟨found, u, -, runs⟩ := runs_then runs
  cases found with
  | error error => cases runs.1
  | ok found =>
    obtain ⟨opened, released, rfl, -, same, -⟩ := runs_consuming runs
    obtain ⟨_, -, same⟩ := bind_ok.mp same.symm
    exact same

end

/-- A whole read of an artifact returns verified bytes only exactly if, wherever the stream
passes for the resource, its first read has delivered everything. -/
theorem read_verified (resource : StoredResourceV1 X) (artifact : resource.profile = .artifact)
    (stream : PayloadStream) :
    (∀ patience result log,
      (read patience resource).run.Runs (.logging (opening stream)) [] result log →
      IsVerified resource result) ↔
    ∀ first rest, Passes resource stream first rest → rest = [] := by
  constructor
  · intro verified first rest passes
    obtain ⟨patience, returned⟩ := passes.session
    obtain ⟨log, runs⟩ := runs_read artifact returned
    obtain ⟨-, length⟩ := verified patience _ log runs first rfl
    have whole := passes.byteLength
    rw [List.length_append] at whole
    exact List.length_eq_zero_iff.mp (by omega)
  · rintro whole patience result log runs first rfl
    obtain ⟨rest, passes⟩ := passes_of_session (session_of_runs runs)
    obtain rfl := whole first rest passes
    have digest := passes.digest
    have length := passes.byteLength
    rw [List.append_nil] at digest length
    exact ⟨digest, length⟩

/-- The first read of fixed bytes leaves nothing to drain. -/
theorem whole_ofBytes {resource : StoredResourceV1 X} {content first rest : Bytes}
    (passes : Passes resource (.ofBytes content) first rest) : rest = [] := by
  cases passes.drains with
  | ended => rfl
  | more reads delivered =>
    refine absurd ?_ delivered
    have same := ReadResult.bytes.inj (Except.ok.inj reads)
    rw [← same]
    simp [positionAfter, chunk]

/-- A stream of fixed bytes is read whole. -/
theorem read_verified_ofBytes : ∃ log,
    (read 2 Reference.storedArtifact).run.Runs
      (.logging (opening (.ofBytes Reference.emptyObject))) [] (.ok Reference.emptyObject) log ∧
    IsVerified Reference.storedArtifact (.ok Reference.emptyObject) := by
  have verified := (read_verified Reference.storedArtifact rfl (.ofBytes Reference.emptyObject)).mpr
    fun _ _ passes => whole_ofBytes passes
  obtain ⟨log, runs⟩ := @runs_read _ Reference.storedArtifact (.ofBytes Reference.emptyObject)
    Reference.emptyObject 2 rfl (by decide +kernel)
  exact ⟨log, runs, verified 2 _ log runs⟩

/-- A stream of two bytes, which delivers one at a time. -/
def Reference.trickle : PayloadStream where
  read asked _ := .ok (.bytes ((emptyObject.drop asked.length).take 1))

/-- A stream that answers the first read with a part of its bytes has that part returned. -/
theorem read_unverified : ∃ log,
    (read 2 Reference.storedArtifact).run.Runs (.logging (opening Reference.trickle)) []
      (.ok [0x7b]) log ∧ ¬IsVerified Reference.storedArtifact (.ok [0x7b]) := by
  obtain ⟨log, runs⟩ := @runs_read _ Reference.storedArtifact Reference.trickle [0x7b] 2 rfl
    (by decide +kernel)
  refine ⟨log, runs, fun verified => ?_⟩
  have length := (verified _ rfl).2
  revert length
  decide

end ConfigArtifact
