import ConfigArtifact.Guarantees.Identities
import ConfigArtifact.Operations.Recording
import ConfigArtifact.Operations.Rewriting
import ConfigArtifact.Operations.Scanning
import ConfigArtifact.Simulation

/-! Recording an orphan converges.

Publications that fail after their Object and scans record candidates for the
same Object in any order. All of them compute the same one, the first to be put
stays, and the others find it in the place of their own.
-/

set_option autoImplicit false

namespace ConfigArtifact

open Interaction Fallible MetadataRepository
open StoredResourceFields (sameArtifact)

variable {X : Platform} {s t u T : World} {calm : Prop} {kind : PyError → Bool}

def isNotIdentityConflict (error : PyError) : Bool := !error.hasType .identityConflict

def isNotIncomplete (error : PyError) : Bool := !error.hasType .incompletePublication

/-- Whatever is raised, it is not an IdentityConflict. -/
abbrev Unconflicted {A : Type} (result : Except PyError A) : Prop :=
  RaisesOnly isNotIdentityConflict result

theorem tolerates_notIdentityConflict : Tolerates isNotIdentityConflict :=
  fun _ plain => (Bool.and_eq_true_iff.mp plain).1

theorem tolerates_notIncomplete : Tolerates isNotIncomplete :=
  fun _ plain => (Bool.and_eq_true_iff.mp plain).2

/-- An answer that is read as a record or as none, unless it is an error. -/
theorem readRecord_raisesOnly {A : Type} {parse : Mapping → Except PyError A}
    {description key : String} {reply : Except PyError OperationResult} (known : RaisesOnly kind reply)
    (whole : ∀ result, reply = .ok result →
      ∃ found, readRecord parse description key false (.ok result) = .ok found) :
    RaisesOnly kind (readRecord parse description key false reply) := by
  cases reply with
  | ok result =>
    obtain ⟨found, read⟩ := whole result rfl
    rw [read]
    exact .ok found
  | error error =>
    change RaisesOnly kind (if _ then _ else _)
    split
    · exact .ok none
    · exact .error (known error rfl)

/-- What a store makes of a lookup is read, if it does not fail. -/
theorem readRecord_of_served {A : Type} {collection : Collection} {key : String}
    (description : String) {parse : Mapping → Except PyError A}
    (reads : ∀ row, t.row? collection key = some row → ∃ value, Reads collection parse row value)
    {result : OperationResult}
    (answered : serving X True (.structured (.get collection [(keyField collection, .str key)])) t
      (.ok result) u) :
    ∃ found, readRecord parse description key false (.ok result) = .ok found := by
  rcases serving_plain answered trivial with ⟨-, name, named, conforms⟩ | ⟨-, error, failed, -⟩
  · obtain rfl : key = name := by
      unfold keyOf at named
      rw [List.lookup_cons_self] at named
      exact Option.some.inj named
    cases held : t.row? collection key with
    | some row =>
      rw [held] at conforms
      obtain ⟨data, resources, same, presented⟩ := conforms
      cases same
      obtain ⟨value, read⟩ := reads row held
      exact ⟨some value, readRecord_presented read presented⟩
    | none =>
      rw [held] at conforms
      rcases conforms with ⟨resources, same⟩ | ⟨error, failed, -⟩
      · cases same
        exact ⟨none, rfl⟩
      · cases failed
  · cases failed

theorem told_of_list {start : String} {limit : Int} {cursor : Option String}
    {reply : Except PyError OperationResult} (before : Consistent X t) (during : Evolves X t T)
    (served : serving X True (.object (.list start limit cursor)) t reply u)
    (known : calm → RaisesOnly kind reply) : Told X T calm kind (.object (.list start limit cursor)) reply := by
  have listed : (∃ error, reply = .error error) ∨ ∃ items reached total resources,
      items ⊆ t.listed start ∧ reply = .ok ⟨pageData (items.map fun metadata =>
        .object (X.objectMetadataToDict metadata)) (nextCursor X reached total), resources⟩ := by
    rcases serving_plain served trivial with ⟨-, conforms⟩ | ⟨-, error, failed, -⟩
    · cases started : offsetOf X cursor with
      | none =>
        rw [started] at conforms
        exact .inl conforms
      | some offset =>
        rw [started] at conforms
        obtain ⟨resources, same⟩ := conforms
        exact .inr ⟨_, _, _, resources,
          fun _ member => List.mem_of_mem_drop (List.mem_of_mem_take member), same⟩
    · exact .inl ⟨error, failed⟩
  rcases listed with ⟨error, rfl⟩ | ⟨items, reached, total, resources, among, rfl⟩
  · exact ⟨nofun, fun given => .error (known given error rfl)⟩
  · have accepted : ∀ item ∈ items, X.checkMetadata item = .ok () := fun item member =>
      accepted_of_listed before item (among member)
    refine ⟨fun page read => ?_, fun given => ?_⟩
    · rw [ok_bind, pageOf_listed accepted] at read
      cases read
      refine ArtifactConsumer.AreCommitted.later (fun item member => ?_) during
      exact ArtifactConsumer.listed_committed before item (among member)
    · rw [ok_bind, pageOf_listed accepted]
      exact .ok _

/-- An Object put or stat that is answered with metadata. -/
theorem told_of_metadata {objectId description : String} {reply : Except PyError OperationResult}
    (shown : ∀ result, reply = .ok result → ∃ object resources, T.object? objectId = some object ∧
      X.checkMetadata object.metadata = .ok () ∧ result = ⟨.object (objectData X object.metadata), resources⟩)
    (known : calm → RaisesOnly kind reply) :
    Shows T calm kind objectId (reply >>= fun result => ObjectRepository.metadataOf X result description) := by
  cases reply with
  | error error => exact ⟨nofun, fun given => .error (known given error rfl)⟩
  | ok result =>
    obtain ⟨object, resources, found, accepted, rfl⟩ := shown result rfl
    rw [metadataOf_data accepted]
    refine ⟨?_, fun _ => .ok _⟩
    rintro _ ⟨⟩
    exact ⟨object, found, rfl⟩

theorem told_of_object {call : ObjectCall} {reply : Except PyError OperationResult}
    (before : Consistent X t) (during : Evolves X t T) (later : Evolves X u T)
    (served : serving X True (.object call) t reply u) (known : calm → RaisesOnly kind reply) :
    Told X T calm kind (.object call) reply := by
  cases call with
  | list start limit cursor => exact told_of_list before during served known
  | put objectId payload mediaType digest length userMetadata creationContext provenance =>
    refine told_of_metadata (fun result same => ?_) known
    subst same
    rcases serving_plain served trivial with conforms | ⟨-, error, failed, -⟩
    · rcases conforms with ⟨accepted, ⟨content, resources, -, -, -, rfl, same⟩ |
        ⟨-, -, error, failed, -⟩ | ⟨-, -, error, failed⟩⟩ | ⟨error, -, -, failed⟩
      · cases same
        exact ⟨_, resources, later.objects _ _ (World.object?_setObject_self _ _ _), accepted, rfl⟩
      · cases failed
      · cases failed
      · cases failed
    · cases failed
  | stat reference =>
    refine told_of_metadata (fun result same => ?_) known
    subst same
    rcases serving_plain served trivial with ⟨-, conforms⟩ | ⟨-, error, failed, -⟩
    · cases found : t.find? reference with
      | none =>
        rw [found] at conforms
        obtain ⟨error, failed, -⟩ := conforms
        cases failed
      | some object =>
        rw [found] at conforms
        obtain ⟨resources, same⟩ := conforms
        cases same
        have present := (Option.filter_eq_some_iff.mp found).1
        exact ⟨object, resources, during.objects _ _ present, before.accepted _ _ present, rfl⟩
    · cases failed
  | get reference => exact known
  | readRange reference range => exact known

/-- Every answered call tells the truth about any later state. -/
theorem told_of_served {request : Call X} {reply : Except PyError request.Result}
    (before : Consistent X t) (during : Evolves X t T) (later : Evolves X u T)
    (answered : faulty X request t reply u) (known : calm → RaisesOnly kind reply) :
    Told X T calm kind request reply := by
  have served := serving_of_faulty request t reply u answered
  cases request with
  | structured call =>
    cases call with
    | get collection filter =>
      cases collection with
      | metadata =>
        rintro key rfl
        have reads : ∀ row, t.row? .metadata key = some row → ∃ resource : StoredResourceV1 X,
            Reads .metadata (parseResource X) row resource ∧ T.row? .metadata key ≠ none := by
          intro row found
          obtain ⟨resource, holds, -⟩ := before.stores found
          exact ⟨resource, holds.reads, during.metadata key (by simp [found])⟩
        refine ⟨fun given => readRecord_raisesOnly (known given) fun result same => ?_,
          fun existing read => ?_⟩
        · subst same
          exact readRecord_of_served "structured resource result"
            (fun row found => (reads row found).imp fun _ => And.left) served
        · obtain ⟨-, looked⟩ := lookup_of_served "structured resource result" false reads served
          rw [read] at looked
          exact looked
      | orphanCandidates =>
        rintro key rfl
        have reads : ∀ row, t.row? .orphanCandidates key = some row → ∃ orphan : OrphanCandidateV1 X,
            Reads .orphanCandidates (parseOrphan X) row orphan ∧
              (Records T orphan ∧ orphan.candidateId X = key) := by
          intro row found
          obtain ⟨orphan, read, ⟨kept, same, rest⟩, named⟩ := before.records found
          exact ⟨orphan, read, ⟨kept, during.rows .orphanCandidates (by decide) _ _ same, rest⟩, named⟩
        refine ⟨fun given => readRecord_raisesOnly (known given) fun result same => ?_,
          fun existing read => ?_⟩
        · subst same
          exact readRecord_of_served "structured orphan result"
            (fun row found => (reads row found).imp fun _ => And.left) served
        · obtain ⟨-, looked⟩ := lookup_of_served "structured orphan result" false reads served
          rw [read] at looked
          exact looked
      | channels => trivial
      | provenance => trivial
    | put collection data =>
      cases collection with
      | orphanCandidates =>
        refine ⟨known, ?_⟩
        rintro orphan rfl result rfl
        rcases put_of_served (keyOf_orphan orphan) served with
          ⟨version, absent, rfl, ⟨data, resources, same, presented⟩ | ⟨-, error, failed⟩⟩ |
          ⟨-, error, failed, -⟩
        · cases same
          refine ⟨_, recordOf_presented (reads_orphan orphan version) presented, ?_,
            sameOrphanIdentity_withVersion _ _⟩
          obtain ⟨row, found, rest⟩ := records_report (t := t) orphan version
          exact ⟨row, later.rows .orphanCandidates (by decide) _ _ found, rest⟩
        · cases failed
        · cases failed
      | metadata => trivial
      | channels => trivial
      | provenance => trivial
    | patch collection filter changes expected => trivial
    | query collection filter orderBy limit cursor => trivial
  | object call => exact told_of_object before during later served known
  | transaction body =>
    refine ⟨known, ?_⟩
    rintro candidate rfl stored rfl
    rcases serving_transaction served with ⟨stored', runs, -⟩ | ⟨-, error, failed, -⟩
    · obtain ⟨version, stamp, -, -, rfl, -⟩ := publication_commits sameArtifact_ignoresVersion runs
      apply later.metadata
      rw [row?_publish_metadata, if_pos rfl]
      exact Option.some_ne_none _
    · cases failed
  | clock => exact known
  | utcNow => exact known
  | validate payload schema => exact known
  | registerPayload source digest length => exact known
  | openPayload payload => exact known
  | releasePayload payload => exact known

/-- The rows of the candidates are those that were there, or of committed Objects. -/
theorem described_of_rewrites (rewrites : Rewrites (IsReport X T) s t) {key : String} {row : Row}
    (found : t.row? .orphanCandidates key = some row) :
    s.row? .orphanCandidates key = some row ∨ IsReport X T row.values := by
  induction rewrites with
  | refl => exact .inl found
  | tail _ rewrite ih =>
    cases rewrite with
    | untouched same =>
      rw [same] at found
      exact ih found
    | @inserted collection name data version keyed absent published reports =>
      rw [World.row?_setRow] at found
      split at found
      · next both =>
        cases found
        exact .inr (reports both.1.symm)
      · exact ih found
    | marked present =>
      rw [World.row?_setRow, if_neg (by simp)] at found
      exact ih found

theorem OrphanCandidateV1.eq_of_toRecord {orphan other : OrphanCandidateV1 X}
    (same : orphan.toRecord X = other.toRecord X) (version : Option RecordVersion) :
    orphan.withVersion version = other.withVersion version := by
  have read := orphan.fromRecord_toRecord version
  rw [same, other.fromRecord_toRecord] at read
  exact (Except.ok.inj read).symm

/-- Every recorded candidate describes a committed Object. -/
def DescribesObjects (X : Platform) (s : World) : Prop :=
  ∀ orphan : OrphanCandidateV1 X, Records s orphan → Describes s orphan

/-- `uuid5` tells the candidates of committed Objects apart. -/
def Apart (X : Platform) (s : World) : Prop :=
  ∀ resourceId other object another, s.object? (objectIdOf resourceId) = some object →
    s.object? (objectIdOf other) = some another →
    ¬Collision X orphanIdNamespace
      (orphanCandidateText resourceId (objectIdOf resourceId) object.metadata.digest)
      (orphanCandidateText other (objectIdOf other) another.metadata.digest)

/-- Stores with one Object have no two candidates to tell apart. -/
theorem apart_of_keys {s : World} {objectId : String} (only : s.objects.keys = [objectId]) :
    Apart X s := by
  intro resourceId other object another found present collision
  have key : ∀ {objectId' : String} {object : StoredObject}, s.object? objectId' = some object →
      objectId' = objectId := by
    intro objectId' object found
    have member := AList.lookup_isSome.mp (Option.isSome_of_eq_some found)
    rw [AList.mem_keys, only] at member
    exact List.mem_singleton.mp member
  have same : objectIdOf resourceId = objectIdOf other := (key found).trans (key present).symm
  obtain rfl : resourceId = other := objectIdOf_inj.mp same
  cases found.symm.trans present
  exact collision.1 rfl

/-- The id of a candidate for a committed Object. -/
theorem Describes.candidateId {orphan : OrphanCandidateV1 X} (consistent : Consistent X T)
    (describes : Describes T orphan) : ∃ object, T.object? (objectIdOf orphan.resourceId) = some object ∧
      orphan.candidateId X = orphanCandidateId X orphan.resourceId (objectIdOf orphan.resourceId)
        object.metadata.digest := by
  obtain ⟨object, found, reference, digest, -⟩ := describes
  refine ⟨object, found, ?_⟩
  unfold OrphanCandidateFields.candidateId
  rw [reference, digest, consistent.objects _ object found]

theorem unmistaken_of_described (consistent : Consistent X T) (described : DescribesObjects X T)
    (apart : Apart X T) : Unmistaken X T := by
  intro orphan existing describes records named
  have known := described existing records
  obtain ⟨object, found, derived⟩ := describes.candidateId consistent
  obtain ⟨another, present, derived'⟩ := known.candidateId consistent
  rw [derived, derived', orphanCandidateId_hashes, orphanCandidateId_hashes] at named
  rcases texts_of_ids named with same | collision
  · exact known.same describes (orphanCandidateText_inj same).1
  · exact absurd collision (apart _ _ _ _ present found)

/-- The orphan of a committed Object, whatever its reason, its time and its state. -/
structure IsOrphanOf (X : Platform) (resourceId : String) (object : StoredObject)
    (orphan : OrphanCandidateV1 X) : Prop where
  candidateId : orphan.candidateId X =
    orphanCandidateId X resourceId (objectIdOf resourceId) object.metadata.digest
  resourceId : orphan.resourceId = resourceId
  objectRef : orphan.objectRef = object.metadata.objectRef
  digest : orphan.digest = object.metadata.digest
  byteLength : orphan.byteLength = object.metadata.byteLength

/-- The candidate names the Object of a resource id. -/
def OfObject (resourceId : String) (orphan : OrphanCandidateV1 X) : Prop :=
  orphan.objectRef.objectId = objectIdOf resourceId

theorem Describes.isOrphanOf {resourceId : String} {object : StoredObject}
    {orphan : OrphanCandidateV1 X} (consistent : Consistent X T)
    (committed : T.object? (objectIdOf resourceId) = some object) (describes : Describes T orphan)
    (names : OfObject resourceId orphan) : IsOrphanOf X resourceId object orphan := by
  obtain ⟨other, found, derived⟩ := describes.candidateId consistent
  obtain ⟨_, again, reference, digest, length⟩ := describes
  rw [found] at again
  cases again
  unfold OfObject at names
  rw [reference, consistent.objects _ other found] at names
  have owner : orphan.resourceId = resourceId := objectIdOf_inj.mp names
  rw [owner, committed] at found
  cases found
  exact ⟨owner ▸ derived, owner, reference, digest, length⟩

/-- A put that is accepted is the only call. -/
theorem putOrphan_accepted {orphan stored : OrphanCandidateV1 X} {result : OperationResult}
    (read : (recordOf result "structured orphan put result" >>= parseOrphan X) = .ok stored) :
    (putOrphan orphan).run.replay [.ok result] = some (.ok stored) := by
  change some (recordOf result "structured orphan put result" >>= parseOrphan X) = _
  rw [read]

/-- A put that is refused is followed by a second look, and the same orphan is taken over. -/
theorem putOrphan_refused {orphan existing : OrphanCandidateV1 X} {error : PyError}
    {reread : Except PyError OperationResult} (conflict : error.hasCategory .conflict = true)
    (found : readRecord (parseOrphan X) "structured orphan result" (orphan.candidateId X) false
      reread = .ok (some existing)) (same : sameOrphanIdentity existing orphan = true) :
    (putOrphan orphan).run.replay [.error error, reread] = some (.ok existing) := by
  change (storedOrphan orphan (.error error)).run.replay [reread] = _
  unfold storedOrphan
  dsimp only
  rw [if_pos conflict]
  change Program.replay (andThen _ (readRecord (parseOrphan X) _ _ _ reread)) [] = _
  rw [found, andThen_ok]
  dsimp only
  rw [if_pos same]
  rfl

section

variable {ι : Type} [DecidableEq ι] {first : World} {admits : World → Request X → Prop}
  {pool : Clients X ι}

/-- What clients were answered is true of the state they have led to. -/
theorem told_of_reachable (calm : Prop) (kind : PyError → Bool) (consistent : Consistent X first)
    (reachable : Pool.Reachable (deployment (faulty X) admits) first pool)
    {entry : ι × Event (runtime X) World} (member : entry ∈ pool.log)
    (known : calm → @RaisesOnly (Call.Result entry.2.request) kind entry.2.reply) :
    Told X pool.state calm kind entry.2.request entry.2.reply := by
  have sound := deployment_sound serving_of_faulty (serves_unrestricted admits) consistent reachable
  obtain ⟨before, -, answered, during⟩ := sound.genuine entry member
  have later := (sound.past entry member).2
  exact told_of_served before.1 (Changes.evolves (during.trans later)) (Changes.evolves later) answered
    known

/-- Clients only record candidates that describe committed Objects. -/
theorem reporting_of_reachable (external : FailsWithData X) (consistent : Consistent X first)
    (reachable : Pool.Reachable (deployment (faulty X) admits) first pool)
    {entry : ι × Event (runtime X) World} (member : entry ∈ pool.log) :
    Reporting X pool.state entry.2.request := by
  have sound := deployment_sound serving_of_faulty (serves_unrestricted admits) consistent reachable
  obtain ⟨i, event⟩ := entry
  have own := Pool.mem_history_of_log member
  cases selected : pool.threads i with
  | none =>
    rw [sound.idle i selected] at own
    cases own
  | some thread =>
    obtain ⟨request, program⟩ := thread
    -- What calls raise does not matter here.
    let any : PyError → Bool := fun _ => true
    have covers : ∀ call reply, Told X pool.state False any call reply →
        Told X pool.state False any call reply := fun _ _ told => told
    refine (Pool.concludes_of_reachable reachable selected (request.concludes_program external
      (fun _ _ => rfl) sound.invariant.1 covers False.elim) ?_).2 event own
    intro other among
    exact told_of_reachable False any consistent reachable (Pool.mem_log_of_history among) False.elim

theorem described_of_reachable (external : FailsWithData X) (consistent : Consistent X first)
    (described : DescribesObjects X first)
    (reachable : Pool.Reachable (deployment (faulty X) admits) first pool) :
    DescribesObjects X pool.state := by
  have sound := deployment_sound serving_of_faulty (serves_unrestricted admits) consistent reachable
  have traced : Pool.Traced (Rewrites (IsReport X pool.state)) first pool.log pool.state := by
    refine ⟨Pool.linked_of_reachable reachable, fun entry member => ?_⟩
    have answered := (sound.genuine entry member).2.2.1
    exact rewrites_untrusted entry.2.reply
      (reporting_of_reachable external consistent reachable member) (untrusted_of_faulty _ _ _ _ answered)
  have rewrites := traced.moved (fun _ => .refl) fun one two => one.trans two
  rintro orphan ⟨row, found, values, version⟩
  rcases described_of_rewrites rewrites found with already | ⟨other, same, describes⟩
  · exact (described orphan ⟨row, already, values, version⟩).later (Changes.evolves sound.moved)
  · have equal := OrphanCandidateV1.eq_of_toRecord (values.symm.trans same) none
    change Describes pool.state (orphan.withVersion none)
    rw [equal]
    exact describes

/-- The recorded orphan of an Object is the only one. -/
theorem Records.unique {orphan other : OrphanCandidateV1 X} (records : Records s orphan)
    (also : Records s other) (same : orphan.candidateId X = other.candidateId X) : orphan = other := by
  obtain ⟨row, found, values, version⟩ := records
  obtain ⟨row', found', values', version'⟩ := also
  rw [same, found'] at found
  cases found
  have equal := OrphanCandidateV1.eq_of_toRecord (values.symm.trans values') orphan.recordVersion
  rw [OrphanCandidateV1.withVersion_self] at equal
  rw [equal, version, ← version', OrphanCandidateV1.withVersion_self]

/-- The calls that record a candidate as a log has them: a put that is accepted, or a put that the
store refuses and a second look that it answers. -/
inductive Recording (log : PoolLog X ι) (i : ι) (orphan : OrphanCandidateV1 X) :
    List (Except PyError OperationResult) → Prop
  | accepted {before after : World} {result : OperationResult}
      (put : (i, ⟨before, .structured (.put .orphanCandidates (orphan.toRecord X)), .ok result,
        after⟩) ∈ log) : Recording log i orphan [.ok result]
  | refused {early late : PoolLog X ι} {before after seen next : World} {error : PyError}
      {reread : Except PyError OperationResult}
      (put : log = early ++ (i, ⟨before, .structured (.put .orphanCandidates (orphan.toRecord X)),
        .error error, after⟩) :: late)
      (refused : reliable X (.structured (.put .orphanCandidates (orphan.toRecord X))) before
        (.error error) after)
      (looked : (i, ⟨seen, .structured (.get .orphanCandidates
        [("candidateId", .str (orphan.candidateId X))]), reread, next⟩) ∈ late)
      (answered : reliable X (.structured (.get .orphanCandidates
        [("candidateId", .str (orphan.candidateId X))])) seen reread next) :
      Recording log i orphan [.error error, reread]

theorem Records.later {orphan : OrphanCandidateV1 X} (records : Records s orphan)
    (evolves : Evolves X s t) : Records t orphan := by
  obtain ⟨row, found, rest⟩ := records
  exact ⟨row, evolves.rows .orphanCandidates (by decide) _ row found, rest⟩

/-- Every put of a candidate is of one for a committed Object. -/
theorem describes_of_put (external : FailsWithData X) (consistent : Consistent X first)
    (reachable : Pool.Reachable (deployment (faulty X) admits) first pool) {i : ι}
    {orphan : OrphanCandidateV1 X} {before after : World} {reply : Except PyError OperationResult}
    (put : (i, ⟨before, .structured (.put .orphanCandidates (orphan.toRecord X)), reply, after⟩) ∈
      pool.log) : Describes pool.state orphan := by
  obtain ⟨-, -, reports⟩ := reporting_of_reachable external consistent reachable put
  obtain ⟨other, same, describes⟩ := reports rfl
  have equal := OrphanCandidateV1.eq_of_toRecord same none
  change Describes pool.state (orphan.withVersion none)
  rw [equal]
  exact describes

/-- A recorder whose calls succeed obtains a recorded row of the same orphan. -/
theorem recording_obtains (external : FailsWithData X) (consistent : Consistent X first)
    (reachable : Pool.Reachable (deployment (faulty X) admits) first pool)
    (unmistaken : Unmistaken X pool.state) {i : ι} {orphan : OrphanCandidateV1 X}
    {replies : List (Except PyError OperationResult)}
    (recording : Recording pool.log i orphan replies) :
    ∃ stored, (putOrphan orphan).run.replay replies = some (.ok stored) ∧
      Records pool.state stored ∧ sameOrphanIdentity stored orphan = true := by
  cases recording with
  | accepted put =>
    obtain ⟨-, known⟩ := told_of_reachable False (fun _ => true) consistent reachable put False.elim
    obtain ⟨stored, read, records, same⟩ := known orphan rfl _ rfl
    exact ⟨stored, putOrphan_accepted read, records, same⟩
  | @refused early late before after seen next error reread log refused looked answered =>
    have sound := deployment_sound serving_of_faulty (serves_unrestricted admits) consistent reachable
    have put : (i, _) ∈ pool.log := log ▸ List.mem_append_right _ List.mem_cons_self
    have get : (i, _) ∈ pool.log :=
      log ▸ List.mem_append_right _ (List.mem_cons_of_mem _ looked)
    -- The row that has refused the put is still there at the second look.
    obtain ⟨present, conflict⟩ : before.row? .orphanCandidates (orphan.candidateId X) ≠ none ∧
        error.hasCategory .conflict = true := by
      have served : serving X False _ _ _ _ := serving_of_reliable _ _ _ _ refused
      rcases put_of_served (keyOf_orphan orphan) served with
        ⟨-, -, -, ⟨_, _, same, -⟩ | ⟨faulted, -⟩⟩ | ⟨-, _, same, faulted | held⟩
      · cases same
      · exact faulted.elim
      · exact faulted.elim
      · cases same
        exact held
    obtain ⟨row, found⟩ := Option.ne_none_iff_exists'.mp present
    have ordered : (following (Policy.unrestricted X) first).rely after seen := by
      have pairs := sound.ordered
      rw [log] at pairs
      exact (List.pairwise_cons.mp (List.pairwise_append.mp pairs).2.1).1 _ looked
    have between := (sound.genuine _ put).2.2.2.trans ordered
    have held := (Changes.evolves between).rows .orphanCandidates (by decide) _ row found
    have served : serving X False _ _ _ _ := serving_of_reliable _ _ _ _ answered
    have lookup := (lookup_of_served "structured orphan result" false
      (fun row found => (sound.genuine _ get).1.1.records found) served).2
    obtain ⟨existing, read, records, named⟩ : ∃ existing, readRecord (parseOrphan X)
        "structured orphan result" (orphan.candidateId X) false reread = .ok (some existing) ∧
        Records seen existing ∧ existing.candidateId X = orphan.candidateId X := by
      match read : readRecord (parseOrphan X) "structured orphan result" (orphan.candidateId X) false
        reread, lookup with
      | .ok (some existing), known => exact ⟨existing, rfl, known⟩
      | .ok none, ⟨_, gone⟩ => exact absurd (held.symm.trans (gone.resolve_left id)) nofun
      | .error failure, missing => cases missing.resolve_left id |>.1
    have later := (sound.genuine _ get).2.2.2.trans (sound.past _ get).2
    have still := records.later (Changes.evolves later)
    have same := unmistaken orphan existing (describes_of_put external consistent reachable put)
      still named
    exact ⟨existing, putOrphan_refused conflict read same, still, same⟩

/-- A put that is answered as documented leaves a row under the id of the candidate. -/
theorem recorded_of_put (consistent : Consistent X first)
    (reachable : Pool.Reachable (deployment (faulty X) admits) first pool) {i : ι}
    {orphan : OrphanCandidateV1 X} {before after : World} {reply : Except PyError OperationResult}
    (put : (i, ⟨before, .structured (.put .orphanCandidates (orphan.toRecord X)), reply, after⟩) ∈
      pool.log)
    (answered : reliable X (.structured (.put .orphanCandidates (orphan.toRecord X))) before reply after) :
    ∃ stored : OrphanCandidateV1 X, Records pool.state stored ∧
      stored.candidateId X = orphan.candidateId X := by
  have sound := deployment_sound serving_of_faulty (serves_unrestricted admits) consistent reachable
  obtain ⟨was, -, -, moved⟩ := sound.genuine _ put
  have later := (sound.past _ put).2
  have served : serving X False _ _ _ _ := serving_of_reliable _ _ _ _ answered
  rcases put_of_served (keyOf_orphan orphan) served with ⟨version, -, rfl, -⟩ | ⟨-, _, -, faulted | held⟩
  · exact ⟨_, (records_report orphan version).later (Changes.evolves later), rfl⟩
  · exact faulted.elim
  · obtain ⟨row, found⟩ := Option.ne_none_iff_exists'.mp held.1
    obtain ⟨existing, -, records, named⟩ := was.1.records found
    exact ⟨existing, records.later (Changes.evolves (moved.trans later)), named⟩

/-- What a client has been answered, as far as it is told. -/
def Heard (pool : Clients X ι) (i : ι) (calm : Prop) (kind : PyError → Bool) : Truth (runtime X) :=
  fun call reply => Told X pool.state calm kind call reply ∧
    ∃ before after, (i, ⟨before, call, reply, after⟩) ∈ pool.log

theorem heard_of_reachable (calm : Prop) (kind : PyError → Bool) (consistent : Consistent X first)
    (reachable : Pool.Reachable (deployment (faulty X) admits) first pool) {i : ι}
    (known : calm → ∀ event ∈ pool.history i,
      @RaisesOnly (Call.Result event.request) kind event.reply) :
    ∀ event ∈ pool.history i, Heard pool i calm kind event.request event.reply := by
  intro event own
  have logged := Pool.mem_log_of_history own
  exact ⟨told_of_reachable calm kind consistent reachable logged fun given => known given event own,
    event.before, event.after, logged⟩

/-- What a finished recorder has concluded from its own calls. -/
theorem concluded_of_finished (calm : Prop) (external : FailsWithData X) (tolerates : Tolerates kind)
    (consistent : Consistent X first)
    (reachable : Pool.Reachable (deployment (faulty X) admits) first pool)
    (unmistaken : Unmistaken X pool.state) {i : ι} {request : Request X} {result : request.Result}
    (finished : pool.Finished i request result)
    (known : calm → ∀ event ∈ pool.history i,
      @RaisesOnly (Call.Result event.request) kind event.reply) :
    request.Concluded pool.state calm kind (Heard pool i calm kind) result := by
  have sound := deployment_sound serving_of_faulty (serves_unrestricted admits) consistent reachable
  have covers : ∀ call reply, Heard pool i calm kind call reply →
      Told X pool.state calm kind call reply := fun _ _ => And.left
  exact (Pool.concludes_of_reachable reachable finished
    (request.concludes_program external tolerates sound.invariant.1 covers fun _ => unmistaken)
    (heard_of_reachable calm kind consistent reachable known)).1

/-- The client was answered with this page of Objects. -/
def ShownPage (pool : Clients X ι) (i : ι) (start : String) (limit : Int) (cursor : Option String)
    (objects : ObjectPage) : Prop :=
  ∃ before reply after, (i, ⟨before, .object (.list start limit cursor), reply, after⟩) ∈ pool.log ∧
    Listed X False before start limit cursor (.ok objects)

/-- What clients are answered is true of the pages they were shown and of the rows. -/
theorem surveyed_of_reachable {absent : String → Prop} (consistent : Consistent X first)
    (reachable : Pool.Reachable (deployment (faulty X) admits) first pool) {i : ι}
    (missing : ∀ before key reply after,
      (i, ⟨before, .structured (.get .metadata [("resourceId", .str key)]), reply, after⟩) ∈ pool.log →
      readRecord (parseResource X) "structured resource result" key false reply = .ok none → absent key)
    {event : Event (runtime X) World} (logged : (i, event) ∈ pool.log) :
    ArtifactConsumer.Surveyed X (ShownPage pool i) absent pool.state event.request event.reply := by
  have sound := deployment_sound serving_of_faulty (serves_unrestricted admits) consistent reachable
  have told := told_of_reachable False (fun _ => true) consistent reachable logged False.elim
  obtain ⟨was, -, answered, -⟩ := sound.genuine _ logged
  obtain ⟨before, request, reply, after⟩ := event
  cases request with
  | structured call =>
    cases call with
    | get collection filter =>
      cases collection with
      | metadata =>
        rintro key rfl
        exact ⟨missing before key reply after logged, (told key rfl).2⟩
      | _ => trivial
    | put collection data =>
      cases collection with
      | orphanCandidates =>
        intro orphan same result given
        obtain ⟨stored, read, -, matching⟩ := told.2 orphan same result given
        exact ⟨stored, read, matching⟩
      | _ => trivial
    | _ => trivial
  | object call =>
    cases call with
    | list start limit cursor =>
      intro page read
      have listed := listed_of_served was.1 (serving_of_faulty _ _ _ _ answered)
      rw [read] at listed
      exact ⟨before, reply, after, logged, listed⟩
    | _ => trivial
  | _ => trivial

/-- A finished scan was shown a page of Objects, and reports those of it that have no row. -/
theorem surveyed_of_finished (absent : String → Prop) (consistent : Consistent X first)
    (reachable : Pool.Reachable (deployment (faulty X) admits) first pool) {i : ι} {limit : Int}
    {cursor : Option String} {record : Bool} {page : OrphanPage X}
    (finished : pool.Finished i (.discoverOrphans limit cursor record) (.ok page))
    (missing : ∀ before key reply after,
      (i, ⟨before, .structured (.get .metadata [("resourceId", .str key)]), reply, after⟩) ∈ pool.log →
      readRecord (parseResource X) "structured resource result" key false reply = .ok none → absent key) :
    ∃ objects, ShownPage pool i "artifacts/" limit cursor objects ∧ page.cursor = objects.cursor ∧
      ArtifactConsumer.Scanned absent pool.state objects.items page.items := by
  have sound := deployment_sound serving_of_faulty (serves_unrestricted admits) consistent reachable
  have committed : ∀ start limit cursor objects, ShownPage pool i start limit cursor objects →
      ArtifactConsumer.AreCommitted pool.state objects.items := by
    rintro start limit cursor objects ⟨before, reply, after, logged, offset, -, items, -⟩
    obtain ⟨was, -, -, moved⟩ := sound.genuine _ logged
    have later := Changes.evolves (moved.trans (sound.past _ logged).2)
    refine ArtifactConsumer.AreCommitted.later (fun item member => ?_) later
    rw [items] at member
    exact ArtifactConsumer.listed_committed was.1 item
      (List.mem_of_mem_drop (List.mem_of_mem_take member))
  have body : ∀ request : Request X, request.program.run.Concludes
      (ArtifactConsumer.Surveyed X (ShownPage pool i) absent pool.state) (fun _ => True)
      (request.Surveys (ShownPage pool i) absent pool.state) :=
    Request.surveys_program sound.invariant.1 committed
  exact (Pool.concludes_of_reachable reachable finished (body _) fun event own =>
    surveyed_of_reachable consistent reachable missing (Pool.mem_log_of_history own)).1 page rfl

/-- A scan whose calls are all answered as documented does not fail. -/
theorem ok_of_served (consistent : Consistent X first)
    (reachable : Pool.Reachable (deployment (faulty X) admits) first pool)
    (unmistaken : Unmistaken X pool.state) {i : ι} {limit : Int} {cursor : Option String}
    {record : Bool} {result : Except PyError (OrphanPage X)}
    (finished : pool.Finished i (.discoverOrphans limit cursor record) result)
    (served : ∀ event ∈ pool.history i,
      reliable X event.request event.before event.reply event.after)
    (stands : offsetOf X cursor ≠ none) : ∃ page, result = .ok page := by
  have sound := deployment_sound serving_of_faulty (serves_unrestricted admits) consistent reachable
  have body : ∀ t, (following (Policy.unrestricted X) first).invariant t →
      ((deployment (faulty X) admits).body (.discoverOrphans limit cursor record)).Safe
        (following (Policy.unrestricted X) first) (reliable X)
        (ArtifactConsumer.DiscoveryEnds False (Policy.unrestricted X) first limit cursor) [] t :=
    fun t _ => ArtifactConsumer.safe_discoverOrphans.narrow serving_of_reliable
  have safe := Pool.served_of_reachable
    (deployment_starts serving_of_faulty (serves_unrestricted admits)) (fun _ _ moved => moved)
    ⟨consistent, .refl⟩ reachable finished body served
  cases result with
  | ok page => exact ⟨page, rfl⟩
  | error error =>
    -- Another orphan would have to be recorded in the place of one of the candidates.
    obtain faulted | unknown | ⟨objects, ⟨earlier, moved, later, offset, -, items, -⟩, discovered⟩ :=
      safe pool.state .refl sound.invariant
    · exact faulted.elim
    · exact absurd unknown stands
    · obtain faulted | ⟨item, resourceId, orphan, member, owned, reports, existing, records, named,
        different⟩ := discovered
      · exact faulted.elim
      · have was : Consistent X earlier := moved.consistent consistent
        rw [items] at member
        obtain ⟨object, found, rfl⟩ := ArtifactConsumer.listed_committed was item
          (List.mem_of_mem_drop (List.mem_of_mem_take member))
        have describes : Describes pool.state orphan := by
          refine Describes.later ⟨object, ?_, reports.2⟩ (Changes.evolves later)
          rw [reports.1, ← (ArtifactConsumer.scanned_some owned).2]
          exact found
        rw [unmistaken orphan existing describes records named] at different
        cases different

/-- What has become of one Object and its orphan. -/
structure Converged (admits : World → Request X → Prop) (pool : Clients X ι) (resourceId : String)
    (object : StoredObject) : Prop where
  /-- All candidates for the Object that are put are the same orphan. -/
  puts : ∀ i before data reply after,
    (i, ⟨before, .structured (.put .orphanCandidates data), reply, after⟩) ∈ pool.log →
    ∃ orphan : OrphanCandidateV1 X, data = orphan.toRecord X ∧
      (OfObject resourceId orphan → IsOrphanOf X resourceId object orphan)
  /-- It has one row at most. -/
  unique : ∀ orphan other : OrphanCandidateV1 X, Records pool.state orphan → OfObject resourceId orphan →
    Records pool.state other → OfObject resourceId other → orphan = other
  /-- The row never changes. -/
  stays : ∀ (orphan : OrphanCandidateV1 X) next, Records pool.state orphan →
    Pool.Steps (deployment (faulty X) admits) pool next → Records next.state orphan
  /-- Whoever has put it, and is not failed by the store, has obtained that row. -/
  obtains : ∀ i (orphan : OrphanCandidateV1 X) replies, Recording pool.log i orphan replies →
    OfObject resourceId orphan → ∃ stored, (putOrphan orphan).run.replay replies = some (.ok stored) ∧
      Records pool.state stored ∧ IsOrphanOf X resourceId object stored
  /-- A scan that was shown the Object, while it has no metadata, returns its orphan. -/
  finds : ∀ i limit cursor record page,
    pool.Finished i (.discoverOrphans limit cursor record) (.ok page) →
    ∃ objects, ShownPage pool i "artifacts/" limit cursor objects ∧
      (object.metadata ∈ objects.items → ArtifactConsumer.scanned object.metadata = some resourceId →
        pool.state.row? .metadata resourceId = none →
        ∃ candidate ∈ page.items, OfObject resourceId candidate)
  /-- What it returns of the Object is the orphan, and is the recorded row if it was to record. -/
  returns : ∀ i limit cursor record page,
    pool.Finished i (.discoverOrphans limit cursor record) (.ok page) →
    ∀ candidate ∈ page.items, OfObject resourceId candidate →
      IsOrphanOf X resourceId object candidate ∧ (record = true → Records pool.state candidate)
  /-- A scan whose calls are answered as documented does not raise. -/
  succeeds : ∀ i limit cursor record result,
    pool.Finished i (.discoverOrphans limit cursor record) result →
    (∀ event ∈ pool.history i, reliable X event.request event.before event.reply event.after) →
    offsetOf X cursor ≠ none → ∃ page, result = .ok page
  /-- A publication that is left incomplete has put the orphan, and its row is there if the store has
  answered the put as documented. -/
  files : ∀ i request content error, pool.Finished i (.publishArtifact request) (.error error) →
    error.hasType .incompletePublication = true →
    (∀ event ∈ pool.history i, @RaisesOnly (Call.Result event.request) isNotIncomplete event.reply) →
    ArtifactPublisher.contentOf request = .ok content → content.identity.resourceId X = resourceId →
    ArtifactPublisher.Strands pool.state request →
    ∃ (orphan : OrphanCandidateV1 X) (before after : World) (reply : Except PyError OperationResult),
      (i, ⟨before, .structured (.put .orphanCandidates (orphan.toRecord X)), reply, after⟩) ∈ pool.log ∧
      IsOrphanOf X resourceId object orphan ∧
      (reliable X (.structured (.put .orphanCandidates (orphan.toRecord X))) before reply after →
        ∃ stored, Records pool.state stored ∧ IsOrphanOf X resourceId object stored)
  /-- No recorder is told of a conflict that its store has not reported. -/
  calm : ∀ i,
    (∀ event ∈ pool.history i, @Unconflicted (Call.Result event.request) event.reply) →
    (∀ limit cursor record result, pool.Finished i (.discoverOrphans limit cursor record) result →
      Unconflicted result) ∧
    ∀ request result, pool.Finished i (.publishArtifact request) result →
      ArtifactPublisher.Strands pool.state request → Unconflicted result

/-- All that is recorded of a committed Object is one orphan, in one row that does not change. Whoever
records it and is not failed by the store obtains this row, and no one is told of a conflict. -/
theorem orphans_converge (external : FailsWithData X) (consistent : Consistent X first)
    (described : DescribesObjects X first)
    (reachable : Pool.Reachable (deployment (faulty X) admits) first pool)
    (apart : Apart X pool.state) {resourceId : String} {object : StoredObject}
    (committed : pool.state.object? (objectIdOf resourceId) = some object) :
    Converged admits pool resourceId object := by
  have sound := deployment_sound serving_of_faulty (serves_unrestricted admits) consistent reachable
  have kept : Consistent X pool.state := sound.invariant.1
  have known := described_of_reachable external consistent described reachable
  have unmistaken := unmistaken_of_described kept known apart
  -- A row under the id of a candidate for the Object is of the same orphan.
  have stored_as : ∀ {orphan stored : OrphanCandidateV1 X}, OfObject resourceId orphan →
      Records pool.state stored → sameOrphanIdentity stored orphan = true →
      IsOrphanOf X resourceId object stored := by
    intro orphan stored names records same
    refine (known stored records).isOrphanOf kept committed ?_
    simp only [sameOrphanIdentity, Bool.and_eq_true, decide_eq_true_eq] at same
    unfold OfObject
    rw [same.1.1.2]
    exact names
  constructor
  case puts =>
    intro i before data reply after put
    obtain ⟨orphan, rfl, describes⟩ := (reporting_of_reachable external consistent reachable put).2.2 rfl
    exact ⟨orphan, rfl, describes.isOrphanOf kept committed⟩
  case unique =>
    intro orphan other records names also named
    refine records.unique also ?_
    rw [((known orphan records).isOrphanOf kept committed names).candidateId,
      ((known other also).isOrphanOf kept committed named).candidateId]
  case stays =>
    intro orphan next records steps
    have moves := sound.moves (deployment_starts serving_of_faulty (serves_unrestricted admits))
      (fun _ _ moved => moved) steps
    exact records.later (Changes.evolves moves)
  case obtains =>
    intro i orphan replies recording names
    obtain ⟨stored, obtains, records, same⟩ :=
      recording_obtains external consistent reachable unmistaken recording
    exact ⟨stored, obtains, records, stored_as names records same⟩
  case finds =>
    intro i limit cursor record page finished
    obtain ⟨objects, shown, -, scan⟩ := surveyed_of_finished (fun _ => True) consistent reachable
      finished fun _ _ _ _ _ _ => trivial
    refine ⟨objects, shown, fun member owned absent => ?_⟩
    obtain present | ⟨candidate, among, reports⟩ := scan.complete _ member _ owned
    · exact absurd absent present
    · refine ⟨candidate, among, ?_⟩
      unfold OfObject
      rw [reports.2.1, kept.objects _ object committed]
  case returns =>
    intro i limit cursor record page finished candidate member names
    have scans := concluded_of_finished False external tolerates_notIdentityConflict consistent
      reachable unmistaken finished False.elim
    obtain ⟨describes, records⟩ := scans.1 page.items rfl candidate member
    exact ⟨describes.isOrphanOf kept committed names, records⟩
  case succeeds =>
    intro i limit cursor record result finished served stands
    exact ok_of_served consistent reachable unmistaken finished served stands
  case files =>
    intro i request content error finished incomplete answers read owner strands
    have concluded := concluded_of_finished True external tolerates_notIncomplete consistent
      reachable unmistaken finished fun _ => answers
    obtain kind | ⟨-, other, again, orphan, reply, same, describes, -, before, after, put⟩ :=
      concluded trivial strands error rfl
    · unfold isNotIncomplete at kind
      rw [incomplete] at kind
      cases kind
    · cases read.symm.trans again
      have names : OfObject resourceId orphan := by
        obtain ⟨stored, found, reference, -⟩ := describes
        unfold OfObject
        rw [reference, kept.objects _ stored found, same, owner]
      refine ⟨orphan, before, after, reply, put, describes.isOrphanOf kept committed names, ?_⟩
      intro answered
      obtain ⟨stored, records, named⟩ := recorded_of_put consistent reachable put answered
      exact ⟨stored, records,
        stored_as names records (unmistaken orphan stored describes records named)⟩
  case calm =>
    intro i calm
    refine ⟨fun limit cursor record result finished => ?_, fun request result finished strands => ?_⟩
    · have scans := concluded_of_finished True external tolerates_notIdentityConflict consistent
        reachable unmistaken finished fun _ => calm
      have items := scans.2 trivial
      cases result with
      | ok page => exact .ok page
      | error error => exact .error (items error rfl)
    · have concluded := concluded_of_finished True external tolerates_notIdentityConflict consistent
        reachable unmistaken finished fun _ => calm
      intro error raised
      obtain kind | ⟨incomplete, -⟩ := concluded trivial strands error raised
      · exact kind
      · -- An incomplete publication is no conflict.
        cases error with
        | meridian error =>
          simp only [isNotIdentityConflict, PyError.hasType, decide_eq_true_eq] at incomplete ⊢
          rw [incomplete]
          rfl
        | _ => rfl

end

namespace Reference

/-- The Object of the artifact. -/
def strandedObject : StoredObject where
  metadata := committedMetadata Platform.reference (objectIdOf (identity.resourceId Platform.reference))
    (Platform.reference.digestOf emptyObject) 2 "application/octet-stream"
    (ArtifactPublisher.userMetadata Platform.reference identity) [] []
  content := emptyObject

/-- A world that holds the Object of the artifact and no row. -/
def stranding : World :=
  World.empty.setObject (objectIdOf (identity.resourceId Platform.reference)) strandedObject

theorem object?_stranding {objectId : String} {object : StoredObject}
    (found : stranding.object? objectId = some object) :
    objectId = objectIdOf (identity.resourceId Platform.reference) ∧ object = strandedObject := by
  unfold stranding at found
  rw [World.object?_setObject] at found
  split at found
  · next same => exact ⟨same, (Option.some.inj found).symm⟩
  · cases found

theorem fresh_stranding : Fresh Platform.reference stranding where
  rows := fun _ _ => rfl
  objects := fun _ _ found => by
    obtain ⟨rfl, rfl⟩ := object?_stranding found
    rfl
  intact := fun _ _ found => by
    obtain ⟨rfl, rfl⟩ := object?_stranding found
    exact ⟨rfl, rfl⟩
  accepted := fun _ _ found => by
    obtain ⟨rfl, rfl⟩ := object?_stranding found
    rfl

/-- A scan that records what it finds. -/
def recordingScan : Request Platform.reference := .discoverOrphans 10 none true

/-- Two scans find the Object before either records it. -/
def scanRace : List (Turn Bool (Request Platform.reference)) :=
  [.start false recordingScan, .start true recordingScan, .run false, .run true, .run false,
    .run true, .run false, .run true, .run false, .run true, .run true]

end Reference

/-- Of two racing scans one records the Object, and the other returns what it has recorded. -/
theorem orphans_converge_race :
    let pool := simulate Platform.reference [] Reference.scanRace Reference.stranding
    ∃ page page' candidate, pool.Finished false Reference.recordingScan (.ok page) ∧
      pool.Finished true Reference.recordingScan (.ok page') ∧
      candidate ∈ page.items ∧ candidate ∈ page'.items ∧ Records pool.state candidate ∧
      IsOrphanOf Platform.reference (Reference.identity.resourceId Platform.reference)
        Reference.strandedObject candidate := by
  intro pool
  have registering : Registering [] Reference.scanRace := by
    intro request member
    rcases List.mem_pair.mp member with rfl | rfl <;> trivial
  have uniform : IsUniform [] Reference.stranding := fun _ _ found => by cases found
  have reachable := (simulate_reachable uniform registering).mono faulty_of_reliable
  have only : pool.state.objects.keys = [objectIdOf (Reference.identity.resourceId Platform.reference)] :=
    by decide +kernel
  have apart : Apart Platform.reference pool.state := apart_of_keys only
  have committed : pool.state.object? (objectIdOf (Reference.identity.resourceId Platform.reference)) =
      some Reference.strandedObject := by decide +kernel
  have converged := orphans_converge Reference.failsWithData
    Reference.fresh_stranding.consistent (fun _ ⟨_, found, _⟩ => by cases found) reachable apart committed
  have one : pool.request? false = some Reference.recordingScan :=
    simulate_request [.start false Reference.recordingScan] _ rfl
  have other : pool.request? true = some Reference.recordingScan :=
    simulate_request [.start false Reference.recordingScan, .start true Reference.recordingScan] _ rfl
  obtain ⟨page, finished⟩ := ok_of_returned one (by decide +kernel)
  obtain ⟨page', finished'⟩ := ok_of_returned other (by decide +kernel)
  -- Each scan was shown the Object, which has no metadata.
  have listed : ∀ entry ∈ pool.log, entry.2.before.listed "artifacts/" = [Reference.strandedObject.metadata] :=
    by decide +kernel
  have owned : ArtifactConsumer.scanned Reference.strandedObject.metadata =
      some (Reference.identity.resourceId Platform.reference) := by decide +kernel
  have absent : pool.state.row? .metadata (Reference.identity.resourceId Platform.reference) = none := by
    decide +kernel
  have holds : ∀ {i : Bool} {page : OrphanPage Platform.reference},
      pool.Finished i Reference.recordingScan (.ok page) → ∃ candidate ∈ page.items,
        OfObject (Reference.identity.resourceId Platform.reference) candidate := by
    intro i page finished
    obtain ⟨objects, ⟨before, reply, after, logged, offset, stands, items, -⟩, finds⟩ :=
      converged.finds _ _ _ _ _ finished
    cases stands
    refine finds ?_ owned absent
    rw [items, listed _ logged]
    exact List.mem_singleton_self _
  obtain ⟨candidate, member, names⟩ := holds finished
  obtain ⟨candidate', member', names'⟩ := holds finished'
  obtain ⟨isOrphan, records⟩ := converged.returns _ _ _ _ _ finished candidate member names
  obtain ⟨-, records'⟩ := converged.returns _ _ _ _ _ finished' candidate' member' names'
  obtain rfl := converged.unique candidate candidate' (records rfl) names (records' rfl) names'
  exact ⟨page, page', candidate, finished, finished', member, member', records rfl, isOrphan⟩

end ConfigArtifact
