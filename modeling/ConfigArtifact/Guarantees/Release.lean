import ConfigArtifact.Artifact.Reading
import ConfigArtifact.Simulation

/-! What becomes of the payload that a read is handed.

A consumer learns of the registration from the answer to its read. It releases
what it has parsed, so an answer that does not parse leaves its payload
registered, and so does a range that cannot be resolved.
-/

set_option autoImplicit false

namespace ConfigArtifact

open Interaction Fallible ArtifactConsumer

variable {X : Platform}

abbrev Log (X : Platform) := List (Exchange (Call X) Call.Result PyError)

/-- The payload registration that an answer carries. -/
def OperationResult.Carries (X : Platform) (answer : OperationResult) (payload : PayloadReference) :
    Prop :=
  ∃ data entries, answer.data = .object data ∧ entryOf data "payload" = .object entries ∧
    X.parsePayloadReference entries = .ok payload

/-- The Object adapter gives one answer to a read. Whatever else is called answers anything. -/
def handing (given : Except PyError OperationResult) :
    (request : Call X) → Except PyError request.Result → Prop
  | .object (.get _), reply | .object (.readRange _ _), reply => reply = given
  | _, _ => True

def Call.Releases (payload : PayloadReference) : Call X → Prop
  | .releasePayload other => other = payload
  | _ => False

instance (payload : PayloadReference) : DecidablePred (@Call.Releases X payload)
  | .releasePayload other => inferInstanceAs (Decidable (other = payload))
  | .structured _ | .object _ | .transaction _ | .clock | .utcNow | .validate _ _
  | .registerPayload _ _ _ | .openPayload _ => isFalse id

@[simp] theorem Call.releases_release (payload other : PayloadReference) :
    (Call.releasePayload other : Call X).Releases payload ↔ other = payload := Iff.rfl

@[simp] theorem Call.releases_open (payload other : PayloadReference) :
    ¬(Call.openPayload other : Call X).Releases payload := id

@[simp] theorem Call.releases_object (payload : PayloadReference) (call : ObjectCall) :
    ¬(Call.object call : Call X).Releases payload := id

def releases (payload : PayloadReference) (log : Log X) : Nat :=
  log.countP fun exchange => exchange.request.Releases payload

/-- The Object adapter has handed a payload over. -/
def Hands (log : Log X) (payload : PayloadReference) : Prop :=
  ∃ (call : ObjectCall) (answer : OperationResult),
    ⟨Call.object call, .ok answer⟩ ∈ log ∧ answer.Carries X payload

/-- What was handed over has been released, and not more than once. -/
def ReleasedOnce (log : Log X) : Prop := ∀ payload, Hands log payload → releases payload log = 1

theorem asObjectMapping_ok {value : JsonValue} {description : String} {entries : Mapping}
    (accepted : asObjectMapping value description = .ok entries) : value = .object entries := by
  unfold asObjectMapping at accepted
  split at accepted
  · cases accepted
    rfl
  · cases accepted

theorem readOf_carries {answer : OperationResult} {description : String} {found : ObjectRead}
    (read : ObjectRepository.readOf X answer description = .ok found) {payload : PayloadReference} :
    answer.Carries X payload ↔ payload = found.payload := by
  obtain ⟨data, shaped, read⟩ := bind_ok.mp read
  obtain ⟨metadata, _, read⟩ := bind_ok.mp read
  obtain ⟨reference, parsed, read⟩ := bind_ok.mp read
  obtain ⟨entries, given, parsed⟩ := bind_ok.mp (orInvalid_ok parsed)
  have shaped := asObjectMapping_ok shaped
  have given := asObjectMapping_ok given
  have same : found.payload = reference := by
    split at read
    · cases read
      rfl
    · obtain ⟨_, _, read⟩ := bind_ok.mp read
      cases read
      rfl
  rw [same]
  constructor
  · rintro ⟨data', entries', shaped', given', parsed'⟩
    cases shaped.symm.trans shaped'
    cases given.symm.trans given'
    exact Except.ok.inj (parsed'.symm.trans parsed)
  · rintro rfl
    exact ⟨data, entries, shaped, given, parsed⟩

section

variable {given : Except PyError OperationResult} {resource : StoredResourceV1 X}
  {description : String}

/-- What is written down of a read and of what its answer is found to be. -/
inductive Fetches (given : Except PyError OperationResult) (description : String)
    (resource : StoredResourceV1 X) (call : ObjectReference → ObjectCall) :
    Except PyError ObjectRead → Log X → Prop
  | unasked {error reason : PyError} (refused : consumedReference resource = .error reason) :
      Fetches given description resource call (.error error) []
  | unread {error reason : PyError} {reference : ObjectReference}
      (asks : consumedReference resource = .ok reference)
      (unread : (given >>= fun answer => ObjectRepository.readOf X answer description) =
        .error reason) :
      Fetches given description resource call (.error error) [⟨.object (call reference), given⟩]
  | mismatched {error reason : PyError} {reference : ObjectReference} {found : ObjectRead}
      {released : Except PyError Unit} (asks : consumedReference resource = .ok reference)
      (read : (given >>= fun answer => ObjectRepository.readOf X answer description) = .ok found)
      (different : verifyConsumedMetadata found.metadata resource = .error reason) :
      Fetches given description resource call (.error error)
        [⟨.object (call reference), given⟩, ⟨.releasePayload found.payload, released⟩]
  | verified {reference : ObjectReference} {found : ObjectRead}
      (asks : consumedReference resource = .ok reference)
      (read : (given >>= fun answer => ObjectRepository.readOf X answer description) = .ok found)
      (matching : verifyConsumedMetadata found.metadata resource = .ok ()) :
      Fetches given description resource call (.ok found) [⟨.object (call reference), given⟩]

theorem run_getObject (reference : ObjectReference) :
    (ObjectRepository.get reference : PyM X ObjectRead).run =
      .call (Call.object (.get reference) : Call X) fun reply =>
        .done (reply >>= fun answer => ObjectRepository.readOf X answer "Object get result") := by
  apply congrArg (Program.call _)
  funext reply
  cases reply <;> rfl

theorem run_readRange (reference : ObjectReference) (byteRange : ByteRange) :
    (ObjectRepository.readRange reference byteRange : PyM X ObjectRead).run =
      .call (Call.object (.readRange reference byteRange) : Call X) fun reply =>
        .done (reply >>= fun answer => ObjectRepository.readOf X answer "Object range result") := by
  apply congrArg (Program.call _)
  funext reply
  cases reply <;> rfl

theorem runs_verifiedRead {fetch : ObjectReference → PyM X ObjectRead}
    (call : ObjectReference → ObjectCall)
    (handed : ∀ reference reply, handing given (Call.object (call reference) : Call X) reply →
      reply = given)
    (fetches : ∀ reference, (fetch reference).run = .call (Call.object (call reference) : Call X)
      fun reply => .done (reply >>= fun answer => ObjectRepository.readOf X answer description))
    {result : Except PyError ObjectRead} {log : Log X}
    (runs : (verifiedRead resource fetch).run.Runs (.logging (handing given)) [] result log) :
    Fetches given description resource call result log := by
  unfold verifiedRead at runs
  have runs := runs_settle runs
  cases asks : consumedReference resource with
  | error reason =>
    rw [asks] at runs
    obtain ⟨rfl, rfl⟩ := runs
    exact .unasked asks
  | ok reference =>
    rw [asks, andThen_ok] at runs
    obtain ⟨ended, u, body, runs⟩ := runs_attempt runs
    rw [fetches] at body
    obtain ⟨reply, middle, ⟨permitted, rfl⟩, rfl, rfl⟩ := body
    obtain rfl := handed reference reply permitted
    cases read : reply >>= fun answer => ObjectRepository.readOf X answer description with
    | error reason =>
      rw [read] at runs
      obtain ⟨rfl, rfl⟩ := runs
      exact .unread asks read
    | ok found =>
      rw [read] at runs
      dsimp only at runs
      cases matching : verifyConsumedMetadata found.metadata resource with
      | ok value =>
        rw [matching] at runs
        obtain ⟨rfl, rfl⟩ := runs
        exact .verified asks read matching
      | error reason =>
        rw [matching] at runs
        obtain ⟨released, v, ⟨reply', _, ⟨-, rfl⟩, rfl, rfl⟩, runs⟩ := runs_then runs
        cases reply' with
        | ok value =>
          obtain ⟨rfl, rfl⟩ := runs
          exact .mismatched asks read matching
        | error error =>
          obtain ⟨rfl, rfl⟩ := runs
          exact .mismatched asks read matching

/-- A consumption opens the payload and releases it, whatever else it does. -/
theorem runs_consuming {A : Type} {permits : (request : Call X) → Except PyError request.Result → Prop}
    {payload : PayloadReference} {body : PayloadStream → Except PyError A} {before : Log X}
    {result : Except PyError A} {log : Log X}
    (runs : (consuming payload body : PyM X A).run.Runs (.logging permits) before result log) :
    ∃ opened released, permits (Call.openPayload payload) opened ∧
      permits (Call.releasePayload payload) released ∧
      result = (released >>= fun _ => opened >>= body) ∧ log = before ++
        [⟨Call.openPayload payload, opened⟩, ⟨.releasePayload payload, released⟩] := by
  obtain ⟨ended, u, final, opens, ⟨released, _, ⟨allowed, rfl⟩, rfl, rfl⟩, rfl⟩ :=
    runs_ensuring runs
  obtain ⟨first, v, ⟨opened, _, ⟨permitted, rfl⟩, rfl, rfl⟩, rest⟩ := runs_then opens
  cases opened with
  | error error =>
    obtain ⟨rfl, rfl⟩ := rest
    exact ⟨_, released, permitted, allowed, rfl, List.append_assoc _ _ _⟩
  | ok stream =>
    obtain ⟨rfl, rfl⟩ := rest
    exact ⟨_, released, permitted, allowed, rfl, List.append_assoc _ _ _⟩

/-- Where an answer carries a payload, it parses, and what else is asked of it holds. -/
def Accounts (given : Except PyError OperationResult) (description : String)
    (resource : StoredResourceV1 X) (also : Prop) : Prop :=
  ∀ reference answer payload, consumedReference resource = .ok reference → given = .ok answer →
    answer.Carries X payload → ∃ found, ObjectRepository.readOf X answer description = .ok found ∧
      (verifyConsumedMetadata found.metadata resource = .ok () → also)

theorem hands_cons {call : ObjectCall} {rest : Log X} {payload : PayloadReference}
    (others : ∀ exchange ∈ rest, ∀ other, exchange.request ≠ .object other) :
    Hands (⟨Call.object call, given⟩ :: rest) payload ↔
      ∃ answer, given = .ok answer ∧ answer.Carries X payload := by
  constructor
  · rintro ⟨other, answer, member, carries⟩
    rcases List.mem_cons.mp member with same | member
    · cases same
      exact ⟨answer, rfl, carries⟩
    · exact absurd rfl (others _ member other)
  · rintro ⟨answer, rfl, carries⟩
    exact ⟨call, answer, List.mem_cons_self, carries⟩

/-- A read whose answer parses hands over the payload that it parses to. -/
theorem hands_read {call : ObjectCall} {rest : Log X} {payload : PayloadReference}
    {found : ObjectRead} (others : ∀ exchange ∈ rest, ∀ other, exchange.request ≠ .object other)
    (read : (given >>= fun answer => ObjectRepository.readOf X answer description) = .ok found) :
    Hands (⟨Call.object call, given⟩ :: rest) payload ↔ payload = found.payload := by
  obtain ⟨answer, rfl, read⟩ := bind_ok.mp read
  rw [hands_cons others]
  constructor
  · rintro ⟨other, same, carries⟩
    cases same
    exact (readOf_carries read).mp carries
  · intro same
    exact ⟨answer, rfl, (readOf_carries read).mpr same⟩

theorem accounts_of_read {also : Prop} {found : ObjectRead}
    (read : (given >>= fun answer => ObjectRepository.readOf X answer description) = .ok found)
    (rest : verifyConsumedMetadata found.metadata resource = .ok () → also) :
    Accounts given description resource also := by
  intro reference answer payload asks same carries
  obtain ⟨other, same', read⟩ := bind_ok.mp read
  cases same.symm.trans same'
  exact ⟨found, read, rest⟩

/-- Once its answer is read, a log that goes on with one release of the payload accounts for it. -/
theorem releasedOnce_of_read {call : ObjectCall} {rest : Log X} {found : ObjectRead}
    (others : ∀ exchange ∈ rest, ∀ other, exchange.request ≠ .object other)
    (read : (given >>= fun answer => ObjectRepository.readOf X answer description) = .ok found)
    (released : releases found.payload rest = 1) :
    ReleasedOnce (⟨Call.object call, given⟩ :: rest : Log X) := by
  intro payload handed
  obtain rfl := (hands_read others read).mp handed
  exact released

/-- Where a read ends before it has its answer verified, it has released what it was handed
exactly if the answer is accounted for. -/
theorem Fetches.releases {call : ObjectReference → ObjectCall} {error : PyError} {log : Log X}
    {also : Prop} (fetches : Fetches given description resource call (.error error) log) :
    ReleasedOnce log ↔ Accounts given description resource also := by
  cases fetches with
  | unasked refused =>
    constructor
    · intro _ reference answer payload asks
      cases refused.symm.trans asks
    · rintro - payload ⟨_, _, member, -⟩
      cases member
  | @unread _ reason reference asks unread =>
    have none := @hands_cons X given (call reference) []
    constructor
    · intro released _ answer payload _ same carries
      have once := released payload ((none (by simp)).mpr ⟨answer, same, carries⟩)
      cases once
    · intro accounts payload handed
      obtain ⟨answer, rfl, carries⟩ := (none (by simp)).mp handed
      obtain ⟨found, read, -⟩ := accounts _ answer payload asks rfl carries
      cases unread.symm.trans read
  | mismatched asks read different =>
    refine ⟨fun _ => accounts_of_read read fun matching => ?_, fun _ => ?_⟩
    · cases different.symm.trans matching
    · refine releasedOnce_of_read (by simp) read ?_
      simp [ConfigArtifact.releases]

/-- A consumption that opens what it has read releases it once. -/
theorem releasedOnce_consuming {A : Type} {call : ObjectCall} {found : ObjectRead}
    {body : PayloadStream → Except PyError A} {result : Except PyError A} {log : Log X}
    (read : (given >>= fun answer => ObjectRepository.readOf X answer description) = .ok found)
    (runs : (consuming found.payload body : PyM X A).run.Runs (.logging (handing given))
      [⟨.object call, given⟩] result log) : ReleasedOnce log := by
  obtain ⟨opened, released, -, -, -, rfl⟩ := runs_consuming runs
  refine releasedOnce_of_read (by simp) read ?_
  simp [ConfigArtifact.releases]

theorem open_releases {A : Type} {patience : Nat} {block : Block A} {result : Except PyError A}
    {log : Log X}
    (runs : («open» patience resource block).run.Runs (.logging (handing given)) [] result log) :
    ReleasedOnce log ↔ Accounts given "Object get result" resource True := by
  obtain ⟨first, u, fetches, runs⟩ := runs_then runs
  have fetches := runs_verifiedRead .get (fun _ _ permitted => permitted) run_getObject fetches
  cases first with
  | error error =>
    obtain ⟨rfl, rfl⟩ := runs
    exact fetches.releases
  | ok found =>
    cases fetches with
    | verified asks read matching =>
      exact ⟨fun _ => accounts_of_read read fun _ => trivial, fun _ => releasedOnce_consuming read runs⟩

theorem rangeRead_releases {support : RangeSupport} {byteRange : ByteRange}
    {result : Except PyError Bytes} {log : Log X}
    (runs : (rangeRead support resource byteRange).run.Runs (.logging (handing given)) [] result log) :
    ReleasedOnce log ↔ Accounts given "Object range result" resource
      (∃ length, support.resolve byteRange resource.byteLength = .ok length) := by
  obtain ⟨first, u, fetches, runs⟩ := runs_then runs
  have fetches := runs_verifiedRead (fun reference => .readRange reference byteRange)
    (fun _ _ permitted => permitted) (fun reference => run_readRange reference byteRange) fetches
  cases first with
  | error error =>
    obtain ⟨rfl, rfl⟩ := runs
    exact fetches.releases
  | ok found =>
    cases fetches with
    | verified asks read matching =>
      have runs := runs_settle runs
      cases resolved : support.resolve byteRange resource.byteLength with
      | error error =>
        rw [resolved] at runs
        obtain ⟨rfl, rfl⟩ := runs
        obtain ⟨answer, rfl, parsed⟩ := bind_ok.mp read
        -- The answer has handed a payload over, and nothing has released it.
        have carries := (readOf_carries parsed).mpr rfl
        constructor
        · intro released
          cases released _ ((hands_read (by simp) read).mpr rfl)
        · intro accounts
          obtain ⟨found', parsed', ranges⟩ := accounts _ answer _ asks rfl carries
          cases parsed.symm.trans parsed'
          obtain ⟨length, accepted⟩ := ranges matching
          cases accepted
      | ok length =>
        rw [resolved] at runs
        obtain ⟨value, v, consumes, runs⟩ := runs_then runs
        have released := releasedOnce_consuming read consumes
        have same : log = v := by
          cases value with
          | error error => exact runs.2.symm
          | ok value =>
            have runs := runs_settle runs
            cases checked : raiseIf (value.length ≠ length) (artifactDigestMismatch none
                "artifact range length verification failed") <;> rw [checked] at runs
            · exact runs.2.symm
            · exact runs.2.symm
        rw [same]
        exact ⟨fun _ => accounts_of_read read fun _ => ⟨length, rfl⟩, fun _ => released⟩

end

/-- A consumption releases what it was handed once, on every exit, exactly if the answer
that hands it over parses, and the range that is read can be resolved. -/
theorem consumption_releases (resource : StoredResourceV1 X)
    (given : Except PyError OperationResult) :
    (∀ (A : Type) (patience : Nat) (block : Block A) result log,
      («open» patience resource block).run.Runs (.logging (handing given)) [] result log →
      (ReleasedOnce log ↔ Accounts given "Object get result" resource True)) ∧
    (∀ patience result log,
      (read patience resource).run.Runs (.logging (handing given)) [] result log →
      (ReleasedOnce log ↔ Accounts given "Object get result" resource True)) ∧
    ∀ support byteRange result log,
      (rangeRead support resource byteRange).run.Runs (.logging (handing given)) [] result log →
      (ReleasedOnce log ↔ Accounts given "Object range result" resource
        (∃ length, support.resolve byteRange resource.byteLength = .ok length)) :=
  ⟨fun _ _ _ _ _ runs => open_releases runs, fun _ _ _ runs => open_releases runs,
    fun _ _ _ _ runs => rangeRead_releases runs⟩

namespace Reference

/-- An artifact of the identity, as it is stored. -/
def storedArtifact : StoredResourceV1 Platform.reference where
  identity := identity
  profile := .artifact
  state := .published
  mediaType := "application/octet-stream"
  digest := resource.digest
  byteLength := 2
  createdBy := "alice"
  createdAt := "2026-01-01T00:00:00.000000Z"
  objectRef := some ⟨Platform.reference.objectResource, identity.objectId Platform.reference,
    some resource.digest⟩
  payload := none
  payloadSchema := none
  labels := []
  annotations := []
  provenance := none
  supersedes := none
  immutable := true
  versionOrder := none
  recordVersion := some (.number 1)
  valid := {
    mediaType := by decide
    digest := by decide
    createdBy := by decide
    createdAt := by decide
    labels := ⟨by decide, by decide, by decide⟩
    annotations := by decide
    supersedes := by decide
    immutable_iff := by decide
    content := ⟨rfl, rfl, _, rfl, rfl, rfl⟩ }

/-- The payload that the adapter registers. -/
def handed : PayloadReference := ⟨"payload-1", some resource.digest, some 2⟩

def storedMetadata : ObjectMetadata :=
  ⟨⟨Platform.reference.objectResource, identity.objectId Platform.reference, some resource.digest⟩,
    resource.digest, 2, "application/octet-stream", [], [], []⟩

/-- A whole answer to a read of the artifact. -/
def wholeAnswer : OperationResult :=
  ⟨.object [("metadata", .object (Platform.reference.objectMetadataToDict storedMetadata)),
    ("payload", .object (Platform.reference.payloadReferenceToDict handed))], []⟩

/-- An answer with the payload, but without the metadata. -/
def bareAnswer : OperationResult :=
  ⟨.object [("payload", .object (Platform.reference.payloadReferenceToDict handed))], []⟩

/-- A range that no length satisfies. -/
def unsatisfiable : RangeSupport where
  resolve := fun _ _ => .error (.other "RangeNotSatisfiable")
  join := fun _ => .ok []

theorem readOf_wholeAnswer (description : String) :
    ObjectRepository.readOf Platform.reference wholeAnswer description =
      .ok ⟨storedMetadata, handed, none⟩ := rfl

end Reference

/-- A whole answer's payload is released by a read that ends in any way. -/
theorem consumption_releases_whole : ∀ result log,
    (read 2 Reference.storedArtifact).run.Runs (.logging (handing (.ok Reference.wholeAnswer))) []
      result log → ReleasedOnce log := by
  intro result log runs
  have releases := consumption_releases Reference.storedArtifact (.ok Reference.wholeAnswer)
  refine (releases.2.1 2 result log runs).mpr ?_
  exact accounts_of_read (Reference.readOf_wholeAnswer "Object get result") fun _ => trivial

/-- Registrations are left by a read of an answer without metadata, and by a read of a
range that cannot be resolved. -/
theorem registration_left :
    (∃ result log, (read 2 Reference.storedArtifact).run.Runs
      (.logging (handing (.ok Reference.bareAnswer))) [] result log ∧ ¬ReleasedOnce log) ∧
    ∃ result log, (rangeRead Reference.unsatisfiable Reference.storedArtifact ⟨[]⟩).run.Runs
      (.logging (handing (.ok Reference.wholeAnswer))) [] result log ∧ ¬ReleasedOnce log := by
  constructor
  · refine ⟨_, _, ⟨_, _, ⟨rfl, rfl⟩, rfl, rfl⟩, fun released => ?_⟩
    have carries : Reference.bareAnswer.Carries Platform.reference Reference.handed :=
      ⟨_, _, rfl, rfl, rfl⟩
    cases released _ ((hands_cons (by simp)).mpr ⟨_, rfl, carries⟩)
  · refine ⟨_, _, ⟨_, _, ⟨rfl, rfl⟩, rfl, rfl⟩, fun released => ?_⟩
    have carries : Reference.wholeAnswer.Carries Platform.reference Reference.handed :=
      ⟨_, _, rfl, rfl, rfl⟩
    cases released _ ((hands_cons (by simp)).mpr ⟨_, rfl, carries⟩)

end ConfigArtifact
