import ConfigArtifact.Guarantees.CompareAndSet
import ConfigArtifact.Guarantees.Verification

/-! No artifact dangles.

Whatever calls fail and wherever callers stop, a row of an artifact names an Object
that is committed with its digest and length. Whoever consumes the artifact finds
that Object, and reads bytes that pass.
-/

set_option autoImplicit false

namespace ConfigArtifact

open Interaction Fallible Relation ArtifactConsumer

variable {X : Platform} {s t : World}

/-- Calls are answered as documented, in stores that may have changed since the last one. -/
def amid (X : Platform) : Environment (runtime X) World := fun request before reply after =>
  ∃ middle, Changes (Policy.unrestricted X) before middle ∧ reliable X request middle reply after

/-- The errors that tell of an artifact without its Object. -/
def IsDangling (error : PyError) : Prop :=
  error.hasType .missingObject = true ∨ error.hasType .artifactDigestMismatch = true

section

variable {content : Bytes} {asked : List Int}

theorem positionAfter_snoc (content : Bytes) (asked : List Int) (size : Int) :
    positionAfter content (asked ++ [size]) =
      if size < 0 then content.length
      else min (positionAfter content asked + size.toNat) content.length := by
  unfold positionAfter
  rw [List.foldl_append]
  rfl

/-- A read delivers what lies between two positions. -/
theorem take_read {size : Int} {value : Bytes}
    (reads : (PayloadStream.ofBytes content).read asked size = .ok (.bytes value)) :
    content.take (positionAfter content asked) ++ value =
      content.take (positionAfter content (asked ++ [size])) := by
  have same := ReadResult.bytes.inj (Except.ok.inj reads)
  rw [← same, positionAfter_snoc]
  split
  · rw [List.take_append_drop, List.take_length]
  · rw [← List.take_add, ← List.take_take, List.take_length]

/-- Draining delivers what is left. -/
theorem take_drains {stream : PayloadStream} {rest : Bytes} (drains : Drains stream asked rest)
    (fixed : stream = .ofBytes content) :
    content.take (positionAfter content asked) ++ rest = content := by
  subst fixed
  induction drains with
  | @ended asked empty =>
    have same := ReadResult.bytes.inj (Except.ok.inj empty)
    have reached : content.length ≤ positionAfter content asked := by
      by_contra short
      have left : content.drop (positionAfter content asked) ≠ [] := by
        rw [ne_eq, List.drop_eq_nil_iff]
        omega
      simp [VerifyingReader.chunk] at same
      omega
    rw [List.append_nil, List.take_of_length_le reached]
  | @more asked value rest reads delivered later ih =>
    rw [← List.append_assoc, take_read reads]
    exact ih

/-- A reader has received what lies before its position, of the bytes that it expects. -/
structure Tracks (X : Platform) (content : Bytes) (reader : VerifyingReader) : Prop where
  stream : reader.stream = .ofBytes content
  received : reader.received = content.take (positionAfter content reader.asked)
  undone : reader.done = false
  intact : IsIntact X reader.expectedDigest reader.expectedLength content

theorem Tracks.read {reader : VerifyingReader} (tracks : Tracks X content reader) (size : Int) :
    Tracks X content (reader.read size).2 := by
  unfold VerifyingReader.read
  split
  · exact tracks
  · obtain ⟨value, reads⟩ : ∃ value, reader.stream.read reader.asked size = .ok (.bytes value) := by
      rw [tracks.stream]
      exact ⟨_, rfl⟩
    dsimp only
    rw [reads]
    refine ⟨tracks.stream, ?_, tracks.undone, tracks.intact⟩
    dsimp only
    rw [tracks.stream] at reads
    rw [tracks.received, take_read reads]

theorem Tracks.answer {reader : VerifyingReader} (tracks : Tracks X content reader)
    (call : ReaderCall) : Tracks X content (VerifyingReader.answer call reader).2 := by
  cases call with
  | read size => exact tracks.read size
  | close => exact ⟨tracks.stream, tracks.received, tracks.undone, tracks.intact⟩

theorem Tracks.execute {A : Type} {reader : VerifyingReader} (tracks : Tracks X content reader)
    (program : Program reading A) :
    Tracks X content (program.execute VerifyingReader.answer reader).2 := by
  induction program generalizing reader with
  | done value => exact tracks
  | call request resume ih => exact ih _ (tracks.answer request)

/-- A closed reader cannot be drained. -/
theorem unclosed_of_drain {reader later : VerifyingReader} {patience : Nat}
    (drained : reader.drain patience = (.ok (), later)) : reader.closed = false := by
  cases closed : reader.closed with
  | false => rfl
  | true =>
    cases patience with
    | zero => cases drained
    | succ patience =>
      unfold VerifyingReader.drain VerifyingReader.read at drained
      rw [if_pos closed] at drained
      cases drained

/-- Reading fixed bytes fails only where the reader is closed, or interrupted. -/
theorem Tracks.drain_error {reader later : VerifyingReader} {patience : Nat} {error : PyError}
    (tracks : Tracks X content reader) (stopped : reader.drain patience = (.error error, later)) :
    ¬IsDangling error := by
  induction patience generalizing reader with
  | zero =>
    cases stopped
    rintro (typed | typed) <;> cases typed
  | succ patience ih =>
    have next := tracks.read VerifyingReader.chunk
    unfold VerifyingReader.drain at stopped
    split at stopped
    · next other reached failed =>
      cases stopped
      unfold VerifyingReader.read at failed
      split at failed
      · cases failed
        rintro (typed | typed) <;> cases typed
      · dsimp only at failed
        rw [tracks.stream] at failed
        cases failed
    · cases stopped
    · next byte bytes reached delivered =>
      rw [delivered] at next
      exact ih next stopped

/-- Bytes that are the expected ones are verified. -/
theorem Tracks.verify {reader : VerifyingReader} {patience : Nat} {error : PyError}
    (tracks : Tracks X content reader) (refused : (reader.verify X patience).1 = .error error) :
    ¬IsDangling error := by
  unfold VerifyingReader.verify at refused
  rw [if_neg (by simp [tracks.undone])] at refused
  split at refused
  · next stopped =>
    cases refused
    exact tracks.drain_error stopped
  · next drained =>
    have unclosed := unclosed_of_drain drained
    obtain ⟨rest, asked, drains, rfl⟩ := VerifyingReader.drain_ok unclosed drained
    have whole := take_drains drains tracks.stream
    rw [← tracks.received] at whole
    dsimp only at refused
    rw [whole] at refused
    rw [tracks.intact.1, tracks.intact.2] at refused
    simp [raiseIf] at refused

end

section

variable {resource : StoredResourceV1 X}

/-- A session over the bytes of a resource fails as its block does, or in another way. -/
theorem session_intact {A : Type} {content : Bytes} {patience : Nat} {block : Block A}
    {error : PyError} (intact : IsIntact X resource.digest resource.byteLength content)
    (raised : session patience resource block (.ofBytes content) = .error error)
    (dangling : IsDangling error) :
    (block.run.execute VerifyingReader.answer (fresh resource (.ofBytes content))).1 =
      .error error := by
  have tracks : Tracks X content (fresh resource (.ofBytes content)) :=
    ⟨rfl, by simp [fresh, positionAfter], rfl, intact⟩
  have ended := tracks.execute block.run
  rw [session_eq] at raised
  change (_ >>= _) = _ at raised
  cases first : (block.run.execute VerifyingReader.answer (fresh resource (.ofBytes content))).1 with
  | error other =>
    rw [first] at raised
    exact raised
  | ok value =>
    rw [first] at raised
    cases verified : ((block.run.execute VerifyingReader.answer
        (fresh resource (.ofBytes content))).2.verify X patience).1 with
    | error other =>
      rw [verified] at raised
      cases raised
      exact absurd dangling (ended.verify verified)
    | ok _ =>
      rw [verified] at raised
      cases raised

/-- The Object of an artifact is found, whatever has changed. -/
theorem finds_object {reference : ObjectReference} (consistent : Consistent X s)
    (stores : Stores s resource) (artifact : resource.profile = .artifact)
    (named : resource.objectRef = some reference) (moved : Changes (Policy.unrestricted X) s t) :
    ∃ object, t.find? reference = some object ∧
      X.checkMetadata object.metadata = .ok () ∧
      verifyConsumedMetadata object.metadata resource = .ok () ∧
      IsIntact X resource.digest resource.byteLength object.content := by
  obtain ⟨object, found, backs⟩ := consistent.backed resource stores artifact
  have intact := consistent.intact _ object found
  have shaped := consistent.objects _ object found
  rw [backs.digest, backs.byteLength] at intact
  have same := Option.some.inj (named.symm.trans backs.reference)
  refine ⟨object, ?_, consistent.accepted _ object found, raiseIf_ok.mpr ?_, intact⟩
  · unfold World.find?
    rw [same, shaped]
    dsimp only
    rw [moved.evolves.objects _ object found]
    simp [Option.filter]
  · simp [named, same, backs.digest, backs.byteLength, backs.mediaType]

theorem stat_backed {result : Except PyError ObjectMetadata} (consistent : Consistent X s)
    (stores : Stores s resource) (artifact : resource.profile = .artifact)
    (runs : (stat resource).run.Runs (amid X) s result t) : ∃ metadata, result = .ok metadata := by
  obtain ⟨reference, asks, named, -⟩ := consumedReference_artifact artifact
  have runs := runs_settle runs
  rw [asks, andThen_ok] at runs
  obtain ⟨ended, u, body, runs⟩ := runs_attempt runs
  rw [run_stat] at body
  obtain ⟨reply, after, ⟨middle, moved, same, answered⟩, rfl, rfl⟩ := body
  obtain ⟨object, found, accepted, matching, -⟩ :=
    finds_object consistent stores artifact named moved
  rw [found] at answered
  obtain ⟨resources, rfl⟩ := answered
  rw [metadataOf_data accepted] at runs
  have runs := runs_settle runs
  rw [matching] at runs
  exact ⟨object.metadata, runs.1.symm⟩

/-- What is read for a stored artifact is a payload of the bytes that it names. -/
theorem fetches_backed {first : Except PyError ObjectRead} (consistent : Consistent X s)
    (stores : Stores s resource) (artifact : resource.profile = .artifact)
    (runs : (verifiedRead resource ObjectRepository.get).run.Runs (amid X) s first t) :
    ∃ content found, first = .ok found ∧ IsIntact X resource.digest resource.byteLength content ∧
      t.payload? found.payload.token = some (.ofBytes content) := by
  obtain ⟨reference, asks, named, -⟩ := consumedReference_artifact artifact
  have runs := runs_settle runs
  rw [asks, andThen_ok] at runs
  obtain ⟨ended, u, body, runs⟩ := runs_attempt runs
  rw [run_getObject] at body
  obtain ⟨reply, after, ⟨middle, moved, answered⟩, rfl, rfl⟩ := body
  obtain ⟨object, found, accepted, matching, intact⟩ :=
    finds_object consistent stores artifact named moved
  change conformingObjects X (.get reference) middle reply after at answered
  unfold conformingObjects at answered
  dsimp only at answered
  rw [found] at answered
  obtain ⟨token, resources, fresh, rfl, rfl⟩ := answered
  rw [ok_bind, readOf_whole accepted] at runs
  dsimp only at runs
  rw [matching] at runs
  obtain ⟨rfl, rfl⟩ := runs
  exact ⟨object.content, _, rfl, intact, World.payload?_setPayload_self _ _ _⟩

theorem open_backed {A : Type} {patience : Nat} {block : Block A} {result : Except PyError A}
    (consistent : Consistent X s) (stores : Stores s resource) (artifact : resource.profile = .artifact)
    (runs : («open» patience resource block).run.Runs (amid X) s result t) :
    ∃ content, IsIntact X resource.digest resource.byteLength content ∧
      result = session patience resource block (.ofBytes content) := by
  obtain ⟨first, u, fetches, runs⟩ := runs_then runs
  obtain ⟨content, found, rfl, intact, kept⟩ := fetches_backed consistent stores artifact fetches
  refine ⟨content, intact, ?_⟩
  obtain ⟨ended, v, final, opens, ⟨released, w, ⟨_, _, _, rfl⟩, rfl, rfl⟩, rfl⟩ := runs_ensuring runs
  obtain ⟨opened, x, ⟨stream, y, ⟨later, since, same, opening⟩, rfl, rfl⟩, rest⟩ := runs_then opens
  have yields := since.evolves.payloads _ _ kept
  -- The registry yields these bytes, however often and whenever it is asked.
  obtain rfl : stream = .ok (.ofBytes content) := by
    rcases opening with ⟨other, ⟨source, registered, delivered⟩, rfl⟩ | ⟨missing, -⟩
    · obtain rfl := Option.some.inj (yields.symm.trans registered)
      rw [delivered]
    · exact absurd ⟨content, _, yields, rfl⟩ missing
  obtain ⟨rfl, -⟩ := rest
  rfl

/-- Whoever asks for the Object of an artifact is answered, and what a block reads of it to
the end passes: an error that tells otherwise is the block's own. -/
structure IsConsumable (world : World) (resource : StoredResourceV1 X) : Prop where
  stat : ∀ result t, (ArtifactConsumer.stat resource).run.Runs (amid X) world result t →
    ∃ metadata, result = .ok metadata
  opened : ∀ (A : Type) (patience : Nat) (block : Block A) (error : PyError) (t : World),
    (ArtifactConsumer.open patience resource block).run.Runs (amid X) world (.error error) t →
      IsDangling error → ∃ content, IsIntact X resource.digest resource.byteLength content ∧
        (block.run.execute VerifyingReader.answer (fresh resource (.ofBytes content))).1 =
          .error error

theorem isConsumable (consistent : Consistent X s) (stores : Stores s resource)
    (artifact : resource.profile = .artifact) : IsConsumable s resource where
  stat := fun _ _ runs => stat_backed consistent stores artifact runs
  opened := by
    intro A patience block error t runs dangling
    obtain ⟨content, intact, same⟩ := open_backed consistent stores artifact runs
    exact ⟨content, intact, session_intact intact same.symm dangling⟩

/-- What the row of an artifact promises of its Object. -/
structure KeepsObject (world : World) (resource : StoredResourceV1 X) : Prop where
  named : resource.objectRef =
    some ⟨X.objectResource, objectIdOf resource.resourceId, some resource.digest⟩
  committed : ∃ object, world.object? (objectIdOf resource.resourceId) = some object ∧
    object.metadata.digest = resource.digest ∧ object.metadata.byteLength = resource.byteLength ∧
    object.metadata.mediaType = resource.mediaType ∧
    IsIntact X resource.digest resource.byteLength object.content

theorem keepsObject (consistent : Consistent X s) (stores : Stores s resource)
    (artifact : resource.profile = .artifact) : KeepsObject s resource := by
  obtain ⟨object, found, backs⟩ := consistent.backed resource stores artifact
  have shaped := consistent.objects _ object found
  have intact := consistent.intact _ object found
  rw [backs.digest] at shaped
  rw [backs.digest, backs.byteLength] at intact
  refine ⟨?_, object, found, backs.digest, backs.byteLength, backs.mediaType, intact⟩
  rw [backs.reference, shaped]

end

/-- In every state that clients can reach, however calls fail and wherever clients stop, the
row of an artifact names a committed Object, and the artifact can be consumed. -/
theorem artifacts_backed {ι : Type} [DecidableEq ι] {first : World}
    {admits : World → Request X → Prop} (fresh : Fresh X first) {pool : Clients X ι}
    (reachable : Pool.Reachable (deployment (faulty X) admits) first pool) {key : String} {row : Row}
    (found : pool.state.row? .metadata key = some row) :
    ∃ resource : StoredResourceV1 X, row.Holds resource ∧ resource.resourceId = key ∧
      (resource.profile = .artifact →
        KeepsObject pool.state resource ∧ IsConsumable pool.state resource) := by
  have sound : Pool.Sound (deployment (faulty X) admits) (following (Policy.unrestricted X) first)
      (Request.Ends True False (Policy.unrestricted X) first) first pool :=
    deployment_sound serving_of_faulty (serves_unrestricted admits) fresh.consistent reachable
  have consistent : Consistent X pool.state := sound.invariant.1
  obtain ⟨resource, holds, keyed, -⟩ := consistent.metadata key row found
  have stores := stores_of_row found holds keyed
  refine ⟨resource, holds, keyed, fun artifact => ⟨?_, ?_⟩⟩
  · exact keepsObject consistent stores artifact
  · exact isConsumable consistent stores artifact

/-- An artifact is published. -/
def artifactPublication : List (Turn Bool (Request Platform.reference)) :=
  Turn.alone false (.publishArtifact Reference.artifact) 8

/-- The profile of a resource is the one its row is written with. -/
theorem Row.Holds.profile_of_lookup {X : Platform} {row : Row} {resource : StoredResourceV1 X}
    (holds : row.Holds resource) {profile : ResourceProfile}
    (written : row.values.lookup "profile" = some (.str profile.value)) :
    resource.profile = profile := by
  have recorded : resource.toRecord.lookup "profile" = some (.str resource.profile.value) := rfl
  rw [holds.1, recorded] at written
  have same := congrArg parseProfile (Option.some.inj written)
  rw [parseProfile_value, parseProfile_value] at same
  exact Except.ok.inj same

/-- The Object of the published artifact is there for whoever asks. -/
theorem artifacts_backed_publication :
    let pool := simulate Platform.reference Reference.emptyObject artifactPublication World.empty
    ∃ resource : StoredResourceV1 Platform.reference, Stores pool.state resource ∧
      resource.profile = .artifact ∧ KeepsObject pool.state resource ∧
      IsConsumable pool.state resource := by
  intro pool
  have registering : Registering Reference.emptyObject artifactPublication := by
    intro request member
    rw [List.mem_singleton.mp member]
    exact rfl
  have reachable := (simulate_reachable (isUniform_empty Reference.emptyObject) registering).mono
    faulty_of_reliable
  obtain ⟨row, found⟩ : ∃ row, pool.state.row? .metadata
      (Reference.identity.resourceId Platform.reference) = some row :=
    Option.isSome_iff_exists.mp (by decide +kernel)
  obtain ⟨resource, holds, keyed, backed⟩ :=
    artifacts_backed (fresh_empty Platform.reference) reachable found
  have written : (pool.state.row? .metadata (Reference.identity.resourceId Platform.reference)).map
      (fun row => row.values.lookup "profile") = some (some (.str "artifact")) := by
    decide +kernel
  rw [found] at written
  have profile : resource.profile = .artifact := holds.profile_of_lookup (Option.some.inj written)
  exact ⟨resource, stores_of_row found holds keyed, profile, backed profile⟩

end ConfigArtifact
