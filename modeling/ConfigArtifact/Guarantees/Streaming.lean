import ConfigArtifact.Guarantees.Verification

/-! Verification does not depend on how the block reads.

However a stream cuts its content into chunks and whatever a block asks for, the
reader has seen a prefix of the content when the block ends, and all of it once it
is drained.
-/

set_option autoImplicit false

namespace ConfigArtifact

open Interaction Fallible ArtifactConsumer
open VerifyingReader (chunk)

variable {X : Platform}

/-- A stream that delivers a content in chunks of its own choosing. A read answers with
the next bytes, no more than it was asked for, and with none only where none are left
or none were asked for. -/
structure Chunked (content : Bytes) (stream : PayloadStream) (position : List Int → Nat) : Prop where
  start : position [] = 0
  bounded : ∀ asked, position asked ≤ content.length
  forward : ∀ asked size, position asked ≤ position (asked ++ [size])
  limited : ∀ asked size, 0 ≤ size → position (asked ++ [size]) ≤ position asked + size.toNat
  moves : ∀ asked size, size ≠ 0 → position asked < content.length →
    position asked < position (asked ++ [size])
  reads : ∀ asked size, stream.read asked size =
    .ok (.bytes ((content.take (position (asked ++ [size]))).drop (position asked)))
  closes : stream.close = .ok ()

def ReaderCall.IsRead : ReaderCall → Prop
  | .read _ => True
  | .close => False

/-- The bytes that are handed over while a program runs, one answer after the other. -/
def handed {A : Type} : Program reading A → VerifyingReader → Bytes
  | .done _, _ => []
  | .call (.read size) resume, reader =>
    ((reader.read size).1.toOption.getD []) ++
      handed (resume (reader.read size).1) (reader.read size).2
  | .call .close resume, reader => handed (resume (.ok ())) { reader with closed := true }

theorem execute_read {A : Type} {reader later : VerifyingReader} {size : Int} {value : Bytes}
    (resume : Except PyError Bytes → Program reading A)
    (answered : reader.read size = (.ok value, later)) :
    (@Program.call reading A (.read size) resume).execute VerifyingReader.answer reader =
        (resume (.ok value)).execute VerifyingReader.answer later ∧
      handed (@Program.call reading A (.read size) resume) reader = value ++ handed (resume (.ok value)) later := by
  constructor
  · change (resume (reader.read size).1).execute _ (reader.read size).2 = _
    rw [answered]
  · rw [handed, answered]
    rfl

theorem execute_bind {A B : Type} (program : Program reading A) (next : A → Program reading B)
    (reader : VerifyingReader) :
    (program.bind next).execute VerifyingReader.answer reader =
        (next (program.execute VerifyingReader.answer reader).1).execute VerifyingReader.answer
          (program.execute VerifyingReader.answer reader).2 ∧
      handed (program.bind next) reader = handed program reader ++
        handed (next (program.execute VerifyingReader.answer reader).1)
          (program.execute VerifyingReader.answer reader).2 := by
  induction program generalizing reader with
  | done value => exact ⟨rfl, rfl⟩
  | call request resume ih =>
    cases request with
    | close =>
      obtain ⟨executes, hands⟩ := ih (.ok ()) { reader with closed := true }
      refine ⟨executes, ?_⟩
      rw [Program.call_bind, handed, handed]
      exact hands
    | read size =>
      obtain ⟨executes, hands⟩ := ih (reader.read size).1 (reader.read size).2
      refine ⟨executes, ?_⟩
      rw [Program.call_bind, handed, handed, List.append_assoc]
      exact congrArg _ hands

section

variable {content : Bytes} {stream : PayloadStream} {position : List Int → Nat}
  {reader : VerifyingReader}

/-- The reader has seen the content up to the position of its stream. -/
structure Reached (content : Bytes) (stream : PayloadStream) (position : List Int → Nat)
    (reader : VerifyingReader) : Prop where
  stream : reader.stream = stream
  received : reader.received = content.take (position reader.asked)
  unclosed : reader.closed = false
  undone : reader.done = false

theorem Chunked.piece (chunked : Chunked content stream position) (asked : List Int) (size : Int) :
    content.take (position asked) ++
      (content.take (position (asked ++ [size]))).drop (position asked) =
        content.take (position (asked ++ [size])) := by
  have front : content.take (position asked) =
      (content.take (position (asked ++ [size]))).take (position asked) := by
    rw [List.take_take, Nat.min_eq_left (chunked.forward asked size)]
  rw [front, List.take_append_drop]

/-- A read moves the reader on with its stream. -/
theorem Reached.read (chunked : Chunked content stream position)
    (reached : Reached content stream position reader) (size : Int) :
    ∃ value later, reader.read size = (.ok value, later) ∧
      Reached content stream position later ∧ later.asked = reader.asked ++ [size] ∧
      later.received = reader.received ++ value ∧
      later.expectedDigest = reader.expectedDigest ∧
      later.expectedLength = reader.expectedLength := by
  have answered : reader.stream.read reader.asked size = .ok (.bytes
      ((content.take (position (reader.asked ++ [size]))).drop (position reader.asked))) := by
    rw [reached.stream, chunked.reads]
  refine ⟨_, _, (VerifyingReader.read_ok reached.unclosed).mpr ⟨answered, rfl⟩,
    ⟨reached.stream, ?_, reached.unclosed, reached.undone⟩, rfl, rfl, rfl, rfl⟩
  dsimp only
  rw [reached.received, chunked.piece]

theorem Reached.length (chunked : Chunked content stream position)
    (reached : Reached content stream position reader) :
    reader.received.length = position reader.asked := by
  rw [reached.received, List.length_take, Nat.min_eq_left (chunked.bounded reader.asked)]

/-- Whatever a program reads, what it is handed is what its reader has seen. -/
theorem Reached.execute {A : Type} (chunked : Chunked content stream position)
    {program : Program reading A} (reads : program.Uses ReaderCall.IsRead)
    (reached : Reached content stream position reader) :
    Reached content stream position (program.execute VerifyingReader.answer reader).2 ∧
      (program.execute VerifyingReader.answer reader).2.received = reader.received ++ handed program reader ∧
      (program.execute VerifyingReader.answer reader).2.expectedDigest = reader.expectedDigest ∧
      (program.execute VerifyingReader.answer reader).2.expectedLength = reader.expectedLength := by
  induction program generalizing reader with
  | done value => exact ⟨reached, (List.append_nil _).symm, rfl, rfl⟩
  | call request resume ih =>
    cases request with
    | close => exact absurd reads.1 id
    | read size =>
      obtain ⟨value, later, answered, moved, -, received, digest, length⟩ :=
        reached.read chunked size
      obtain ⟨ended, seen, sameDigest, sameLength⟩ := ih (.ok value) (reads.2 _) moved
      obtain ⟨executes, hands⟩ := execute_read resume answered
      rw [executes, hands]
      refine ⟨ended, ?_, sameDigest.trans digest, sameLength.trans length⟩
      rw [seen, received, List.append_assoc]

/-- Each read of the loop that delivers anything moves the reader on, so the loop ends,
and then the reader has seen the whole content. -/
theorem Reached.drain (chunked : Chunked content stream position)
    (reached : Reached content stream position reader) {patience : Nat}
    (enough : content.length < position reader.asked + patience) :
    ∃ later, reader.drain patience = (.ok (), later) ∧ later.received = content ∧
      later.expectedDigest = reader.expectedDigest ∧
      later.expectedLength = reader.expectedLength := by
  induction patience generalizing reader with
  | zero =>
    have := chunked.bounded reader.asked
    omega
  | succ patience ih =>
    obtain ⟨value, later, answered, moved, asked, received, digest, length⟩ :=
      reached.read chunked chunk
    have before := reached.length chunked
    have after := moved.length chunked
    rw [received, List.length_append, asked] at after
    unfold VerifyingReader.drain
    rw [answered]
    cases value with
    | nil =>
      refine ⟨later, rfl, ?_, digest, length⟩
      -- Nothing came, so nothing was left.
      have whole : content.length ≤ position reader.asked := by
        by_contra short
        have further := chunked.moves reader.asked chunk (by decide) (by omega)
        rw [List.length_nil] at after
        omega
      rw [received, List.append_nil, reached.received, List.take_of_length_le whole]
    | cons byte rest =>
      have further : position reader.asked < position later.asked := by
        rw [List.length_cons] at after
        rw [asked]
        omega
      obtain ⟨last, drained, whole, sameDigest, sameLength⟩ := ih moved (by omega)
      exact ⟨last, drained, whole, sameDigest.trans digest, sameLength.trans length⟩

theorem Chunked.fresh (chunked : Chunked content stream position) (resource : StoredResourceV1 X) :
    Reached content stream position (fresh resource stream) :=
  ⟨rfl, by rw [ConfigArtifact.fresh, chunked.start, List.take_zero], rfl, rfl⟩

/-- A session in which the block returns ends as the whole content decides. -/
theorem Chunked.session {A : Type} (chunked : Chunked content stream position)
    {resource : StoredResourceV1 X} {block : Block A} (reads : block.run.Uses ReaderCall.IsRead)
    {value : A} (returned : (block.run.execute VerifyingReader.answer
      (ConfigArtifact.fresh resource stream)).1 = .ok value)
    {patience : Nat} (enough : content.length < patience) :
    session patience resource block stream =
      (raiseIf (content.length ≠ resource.byteLength ∨ X.digestOf content ≠ resource.digest)
        (artifactDigestMismatch none) >>= fun _ => .ok value) := by
  obtain ⟨ended, -, digest, length⟩ := (chunked.fresh resource).execute chunked reads
  obtain ⟨later, drained, whole, sameDigest, sameLength⟩ :=
    ended.drain chunked (Nat.lt_add_left _ enough)
  have expected : later.expectedDigest = resource.digest ∧
      later.expectedLength = resource.byteLength :=
    ⟨sameDigest.trans digest, sameLength.trans length⟩
  rw [session_eq, chunked.closes, returned]
  simp only [ok_bind, VerifyingReader.verify, ended.undone, Bool.false_eq_true, if_false, drained,
    whole, expected]

end

/-- A call that opens no payload. -/
def Call.IsClosed : Call X → Prop
  | .openPayload _ => False
  | _ => True

theorem uses_verifiedRead (resource : StoredResourceV1 X) :
    (verifiedRead resource ObjectRepository.get).run.Uses (@Call.IsClosed X) := by
  unfold verifiedRead
  refine uses_settle_bind fun reference _ => uses_attempt_bind ?_ fun ended => ?_
  · rw [run_getObject]
    exact ⟨trivial, fun _ => trivial⟩
  · cases ended with
    | error error => trivial
    | ok found =>
      dsimp only
      cases verifyConsumedMetadata found.metadata resource with
      | ok value => trivial
      | error error => exact uses_bind ⟨trivial, fun _ => trivial⟩ fun _ => trivial

/-- What is written down between two logs opens no payload. -/
def AddsClosed (before after : Log X) : Prop :=
  ∀ exchange ∈ after, exchange ∈ before ∨ exchange.request.IsClosed

/-- Nothing is opened before the metadata is verified. -/
theorem not_entered {permits : (request : Call X) → Except PyError request.Result → Prop} {A : Type}
    {program : Program (runtime X) A} (uses : program.Uses Call.IsClosed) {result : A} {log : Log X}
    (runs : program.Runs (.logging permits) [] result log) : ¬Entered log := by
  have added : AddsClosed [] log := by
    refine runs.relates ?_ ?_ ?_ uses
    · exact fun log exchange member => .inl member
    · exact fun first second exchange member => (second exchange member).elim (first exchange) .inr
    · rintro request before reply after closed ⟨-, rfl⟩ exchange member
      rcases List.mem_append.mp member with member | member
      · exact .inl member
      · rw [List.mem_singleton.mp member]
        exact .inr closed
  rintro ⟨payload, reply, member⟩
  exact (added _ member).elim (fun none => by cases none) id

/-- However the content is cut into chunks and however the block reads, the block is handed
a prefix of the content, the reader can be drained, and the content as a whole decides
whether leaving the block raises. -/
theorem open_verifies {A : Type} {resource : StoredResourceV1 X} {content : Bytes}
    {stream : PayloadStream} {position : List Int → Nat}
    (chunked : Chunked content stream position) {block : Block A}
    (reads : block.run.Uses ReaderCall.IsRead) {value : A}
    (returned : (block.run.execute VerifyingReader.answer (fresh resource stream)).1 = .ok value)
    {patience : Nat} (enough : content.length < patience) {result : Except PyError A} {log : Log X}
    (runs : («open» patience resource block).run.Runs (.logging (lending stream)) [] result log)
    (entered : Entered log) :
    handed block.run (fresh resource stream) <+: content ∧
      ((block.run.execute VerifyingReader.answer (fresh resource stream)).2.drain patience).1 =
        .ok () ∧
      (result = .error (artifactDigestMismatch none) ↔
        (content.length ≠ resource.byteLength ∨ X.digestOf content ≠ resource.digest)) ∧
      (result = .ok value ↔
        (content.length = resource.byteLength ∧ X.digestOf content = resource.digest)) := by
  obtain ⟨found, u, fetched, runs⟩ := runs_then runs
  cases found with
  | error error =>
    obtain ⟨rfl, rfl⟩ := runs
    exact absurd entered (not_entered (uses_verifiedRead resource) fetched)
  | ok found =>
    obtain ⟨opened, released, rfl, rfl, same, -⟩ := runs_consuming runs
    obtain ⟨reached, seen, -⟩ := (chunked.fresh resource).execute chunked reads
    obtain ⟨later, drained, -⟩ := reached.drain chunked (Nat.lt_add_left _ enough)
    rw [ok_bind, ok_bind, chunked.session reads returned enough] at same
    refine ⟨?_, by rw [drained], ?_⟩
    · have empty : (fresh resource stream).received = [] := rfl
      rw [empty, List.nil_append] at seen
      rw [← seen, reached.received]
      exact List.take_prefix _ _
    · rw [same]
      by_cases differs : content.length ≠ resource.byteLength ∨ X.digestOf content ≠ resource.digest
      · rw [raiseIf, if_pos differs]
        refine ⟨iff_of_true rfl differs, iff_of_false (by rintro ⟨⟩) ?_⟩
        rintro ⟨length, digest⟩
        exact differs.elim (fun short => short length) fun altered => altered digest
      · rw [raiseIf, if_neg differs, ok_bind]
        refine ⟨iff_of_false (by rintro ⟨⟩) differs, iff_of_true rfl ?_⟩
        rwa [not_or, not_not, not_not] at differs

/-- `readinto`: the buffer with the bytes that were read at its front, and their number. -/
def readinto (buffer : Bytes) : Block (Bytes × Nat) := do
  let value ← invoke (ReaderCall.read buffer.length)
  settle (raiseIf (buffer.length < value.length)
    (.valueError "memoryview assignment: lvalue and rvalue have different structures"))
  return (value ++ buffer.drop value.length, value.length)

/-- What a consumer asks for. -/
inductive Ask where
  | read (size : Int)
  | readinto (buffer : Bytes)

/-- Ask for one after the other, and keep what is handed over each time. -/
def perform : List Ask → Block (List Bytes)
  | [] => return []
  | .read size :: rest => do
    let value ← invoke (ReaderCall.read size)
    let values ← perform rest
    return value :: values
  | .readinto buffer :: rest => do
    let (filled, count) ← readinto buffer
    let values ← perform rest
    return filled.take count :: values

theorem perform_reads (asks : List Ask) : (perform asks).run.Uses ReaderCall.IsRead := by
  induction asks with
  | nil => trivial
  | cons ask rest ih =>
    cases ask with
    | read size => exact uses_bind ⟨trivial, fun _ => trivial⟩ fun _ => uses_bind ih fun _ => trivial
    | readinto buffer =>
      refine uses_bind (uses_bind ⟨trivial, fun _ => trivial⟩ fun value => ?_) fun _ =>
        uses_bind ih fun _ => trivial
      exact uses_settle_bind fun _ _ => trivial

/-- The rest of a sequence, once a value is kept. -/
theorem keep_pieces {rest : List Ask} {reader : VerifyingReader} {pieces : List Bytes}
    (kept : ((perform rest).run.execute VerifyingReader.answer reader).1 = .ok pieces)
    (value : Bytes) :
    let keep := (perform rest >>= fun values => pure (value :: values) : Block (List Bytes)).run
    (keep.execute VerifyingReader.answer reader).1 = .ok (value :: pieces) ∧
      handed keep reader = handed (perform rest).run reader := by
  dsimp only
  obtain ⟨executes, hands⟩ := execute_bind (perform rest).run
    (andThen fun values => (pure (value :: values) : Block (List Bytes))) reader
  rw [run_bind, executes, hands, kept]
  exact ⟨rfl, List.append_nil _⟩

/-- No sequence of reads raises, and what it keeps is what it is handed. -/
theorem perform_pieces {content : Bytes} {stream : PayloadStream} {position : List Int → Nat}
    (chunked : Chunked content stream position) {reader : VerifyingReader}
    (reached : Reached content stream position reader) (asks : List Ask) :
    ∃ pieces, ((perform asks).run.execute VerifyingReader.answer reader).1 = .ok pieces ∧
      pieces.flatten = handed (perform asks).run reader := by
  induction asks generalizing reader with
  | nil => exact ⟨[], rfl, rfl⟩
  | cons ask rest ih =>
    cases ask with
    | read size =>
      obtain ⟨value, later, answered, moved, -⟩ := reached.read chunked size
      obtain ⟨pieces, kept, same⟩ := ih moved
      obtain ⟨executes, hands⟩ := execute_read (andThen fun value =>
        (perform rest >>= fun values => pure (value :: values) : Block (List Bytes))) answered
      obtain ⟨ends, none⟩ := keep_pieces kept value
      refine ⟨value :: pieces, (congrArg Prod.fst executes).trans ends, ?_⟩
      rw [List.flatten_cons, same]
      exact (hands.trans (congrArg _ none)).symm
    | readinto buffer =>
      obtain ⟨value, later, answered, moved, asked, received, -⟩ :=
        reached.read chunked buffer.length
      obtain ⟨pieces, kept, same⟩ := ih moved
      -- No more bytes come than the buffer has room for.
      have fits : ¬buffer.length < value.length := by
        have before := reached.length chunked
        have after := moved.length chunked
        have limited := chunked.limited reader.asked buffer.length (Int.natCast_nonneg _)
        rw [received, List.length_append, asked] at after
        rw [Int.toNat_natCast] at limited
        omega
      let next (got : Bytes × Nat) : Block (List Bytes) :=
        perform rest >>= fun values => pure (got.1.take got.2 :: values)
      let copy (value : Bytes) : Block (Bytes × Nat) :=
        settle (raiseIf (buffer.length < value.length)
          (.valueError "memoryview assignment: lvalue and rvalue have different structures")) >>=
            fun _ => pure (value ++ buffer.drop value.length, value.length)
      obtain ⟨executes, hands⟩ := execute_read
        (fun reply => (andThen copy reply).bind (andThen next)) answered
      have copied : (andThen copy (.ok value)).bind (andThen next) =
          (perform rest >>= fun values => pure (value :: values) : Block (List Bytes)).run := by
        rw [andThen_ok, run_settle_bind, raiseIf, if_neg fits, andThen_ok, run_pure,
          Program.done_bind, andThen_ok]
        dsimp only [next]
        rw [List.take_left]
      rw [copied] at executes hands
      obtain ⟨ends, none⟩ := keep_pieces kept value
      refine ⟨value :: pieces, (congrArg Prod.fst executes).trans ends, ?_⟩
      rw [List.flatten_cons, same]
      exact (hands.trans (congrArg _ none)).symm

namespace Reference

/-- How far a stream that delivers one byte at a time has been read. -/
def trickled (asked : List Int) : Nat := min (asked.countP (· ≠ 0)) emptyObject.length

/-- A stream of two bytes that delivers one at a time. -/
def drops : PayloadStream where
  read asked size :=
    .ok (.bytes ((emptyObject.take (trickled (asked ++ [size]))).drop (trickled asked)))

theorem chunked_drops : Chunked emptyObject drops trickled where
  start := rfl
  bounded := fun asked => Nat.min_le_right _ _
  forward := by
    intro asked size
    simp only [trickled, List.countP_append]
    omega
  limited := by
    intro asked size natural
    simp only [trickled, List.countP_append, List.countP_singleton]
    split
    · next asks =>
      have : size ≠ 0 := of_decide_eq_true asks
      omega
    · omega
  moves := by
    intro asked size asks short
    simp only [trickled, List.countP_append, List.countP_singleton] at short ⊢
    rw [if_pos (by simpa using asks)]
    omega
  reads := fun _ _ => rfl
  closes := rfl

end Reference

open Reference in
/-- A byte, a buffer, no byte, and then whatever is left. -/
theorem open_verifies_drops : ∃ pieces log,
    («open» 3 storedArtifact (perform [.read 1, .readinto [0, 0], .read 0, .read (-1)])).run.Runs
      (.logging (lending drops)) [] (.ok pieces) log ∧ pieces.flatten <+: emptyObject := by
  let asks : List Ask := [.read 1, .readinto [0, 0], .read 0, .read (-1)]
  obtain ⟨pieces, kept, same⟩ := perform_pieces chunked_drops (chunked_drops.fresh storedArtifact) asks
  have intact : ¬(emptyObject.length ≠ storedArtifact.byteLength ∨
      Platform.reference.digestOf emptyObject ≠ storedArtifact.digest) := by decide +kernel
  have ends : session 3 storedArtifact (perform asks) drops = .ok pieces := by
    rw [chunked_drops.session (perform_reads asks) kept (by decide), raiseIf, if_neg intact]
    rfl
  obtain ⟨log, runs, entered⟩ := runs_open rfl ends
  have verified := open_verifies chunked_drops (perform_reads asks) kept (by decide) runs entered
  exact ⟨pieces, log, runs, same ▸ verified.1⟩

end ConfigArtifact
