import ConfigArtifact.Interaction.Execution
import ConfigArtifact.Models.Failures
import ConfigArtifact.Repositories.Metadata

/-! What the repository makes of the results a structured store returns.

A result may be any JSON-like value. Every check of a record refuses with an
error the repository translates, so a method that is given a result returns
models of the records in it or raises the one error kept for invalid results.
-/

set_option autoImplicit false

namespace ConfigArtifact

open Interaction Fallible

variable {X : Platform}

def isInvalidResult (error : PyError) : Bool := error.hasType .invalidRepositoryResult

theorem orInvalid_fails {A : Type} {message : String} {result : Except PyError A}
    (checks : RaisesData result) : RaisesOnly isInvalidResult (orInvalid message result) := by
  cases result with
  | ok value => exact .ok value
  | error error =>
    change RaisesOnly _ (if error.isDataError then _ else _)
    rw [if_pos (checks error rfl)]
    exact .error rfl

theorem checkTimestamps_argument {value : Mapping} {fields : List String} :
    RaisesOnly PyError.isArgumentError (checkTimestamps value fields) := by
  induction fields with
  | nil => exact .ok ()
  | cons field rest ih =>
    unfold checkTimestamps
    split
    · exact ih
    · apply utcTimestamp_argument.bind
      intro _
      exact ih

theorem withoutRecordTimestamps_argument {value : Mapping} {fields : List String} :
    RaisesOnly PyError.isArgumentError (withoutRecordTimestamps value fields) := by
  apply checkTimestamps_argument.bind
  intro _
  exact .ok _

section

variable {description : String}

theorem asMapping_fails {value : JsonValue} :
    RaisesOnly isInvalidResult (asMapping value description) := by
  unfold asMapping
  split
  · exact .ok _
  · exact .error rfl
  · exact .error rfl

theorem logicalRecord_fails {value : Mapping} :
    RaisesOnly isInvalidResult (logicalRecord value description) := by
  unfold logicalRecord
  split
  · exact .ok _
  · apply asMapping_fails.bind
    intro values
    split
    · exact .ok _
    · exact .ok _
    · exact .ok _

theorem pageOf_fails {result : OperationResult} :
    RaisesOnly isInvalidResult (pageOf result description) := by
  apply asMapping_fails.bind
  intro data
  split
  · exact .ok _
  · exact .ok _
  · exact .error rfl

end

theorem entryOf_without {fields : List String} {key : String} (kept : key ∉ fields)
    (value : Mapping) : entryOf (Mapping.without value fields) key = entryOf value key := by
  unfold entryOf Mapping.without
  induction value with
  | nil => rfl
  | cons entry rest ih =>
    obtain ⟨name, item⟩ := entry
    by_cases same : key = name
    · rw [List.filter_cons_of_pos (by simpa [← same] using kept)]
      simp [same]
    · have different : (key == name) = false := by simpa using same
      by_cases stripped : name ∈ fields
      · rw [List.filter_cons_of_neg (by simpa using stripped), ih]
        simp [List.lookup_cons, different]
      · rw [List.filter_cons_of_pos (by simpa using stripped)]
        simp only [List.lookup_cons, different]
        exact ih

/-- How the records of a collection are read: the entry that names a record, the key a
model derives for it, and what the constructor of the model ensures. -/
structure Reading (A : Type) where
  parse : Mapping → Except PyError A
  keyField : String
  keyOf : A → String
  Valid : A → Prop

/-- A reader that returns valid models of what it was given, or refuses it as invalid. -/
structure Reading.Sound {A : Type} (reading : Reading A) : Prop where
  reads : ∀ {record value}, reading.parse record = .ok value →
    reading.Valid value ∧ entryOf record reading.keyField = .str (reading.keyOf value)
  fails : ∀ {record}, RaisesOnly isInvalidResult (reading.parse record)

def resourceReading (X : Platform) : Reading (StoredResourceV1 X) where
  parse := parseResource X
  keyField := "resourceId"
  keyOf := fun resource => resource.resourceId
  Valid := fun resource => IsStoredResource X resource.toStoredResourceFields

def channelReading (X : Platform) : Reading ResourceChannelV1 where
  parse := parseChannel X
  keyField := "channelVersionId"
  keyOf := fun pointer => pointer.channelVersionId X
  Valid := fun pointer => IsResourceChannel pointer.toResourceChannelFields

def orphanReading (X : Platform) : Reading (OrphanCandidateV1 X) where
  parse := parseOrphan X
  keyField := "candidateId"
  keyOf := fun orphan => orphan.candidateId X
  Valid := fun orphan => IsOrphanCandidate X orphan.toOrphanCandidateFields

/-- A reader that strips the adapter's timestamps and then builds its model. -/
theorem sound_of_create {A : Type} {reading : Reading A} {message : String} {fields : List String}
    {read : Mapping → Except PyError A}
    (parse : ∀ record, reading.parse record = orInvalid message do
      let value ← withoutRecordTimestamps record fields
      read value)
    (kept : reading.keyField ∉ fields) (checks : ∀ record, RaisesData (read record))
    (reads : ∀ {record value}, read record = .ok value →
      reading.Valid value ∧ entryOf record reading.keyField = .str (reading.keyOf value)) :
    reading.Sound where
  reads := by
    intro record value parsed
    rw [parse] at parsed
    obtain ⟨stripped, stripping, created⟩ := bind_ok.mp (orInvalid_ok parsed)
    obtain ⟨_, -, same⟩ := bind_ok.mp stripping
    cases same
    obtain ⟨valid, named⟩ := reads created
    rw [entryOf_without kept] at named
    exact ⟨valid, named⟩
  fails := by
    intro record
    rw [parse]
    exact orInvalid_fails (withoutRecordTimestamps_argument.data.bind checks)

theorem resourceReading_sound (external : FailsWithData X) : (resourceReading X).Sound := by
  refine sound_of_create (fun _ => rfl) (by simp [resourceReading])
    (fun _ => StoredResourceV1.fromRecord_fails external) ?_
  intro record resource built
  refine ⟨resource.valid, ?_⟩
  obtain ⟨arguments, decoded, created⟩ := bind_ok.mp built
  obtain ⟨identity, identified, accepted⟩ := bind_ok.mp (StoredResourceV1.create_iff.mp created)
  obtain ⟨_, named, -⟩ := bind_ok.mp accepted
  have same := (StoredResourceV1.isBuilt_of_create created).identity
  rw [identified] at same
  cases same
  rw [raiseIf_ok, not_not] at named
  -- Decoding passes the entry on as it is.
  obtain ⟨_, _, decoded⟩ := bind_ok.mp decoded
  obtain ⟨_, _, decoded⟩ := bind_ok.mp decoded
  obtain ⟨_, _, decoded⟩ := bind_ok.mp decoded
  obtain ⟨_, _, decoded⟩ := bind_ok.mp decoded
  obtain ⟨_, _, decoded⟩ := bind_ok.mp decoded
  obtain ⟨_, _, decoded⟩ := bind_ok.mp decoded
  obtain ⟨_, _, decoded⟩ := bind_ok.mp decoded
  obtain ⟨_, _, decoded⟩ := bind_ok.mp decoded
  obtain ⟨_, _, decoded⟩ := bind_ok.mp decoded
  obtain ⟨_, _, decoded⟩ := bind_ok.mp decoded
  obtain ⟨_, _, same⟩ := bind_ok.mp decoded
  cases same
  exact named

theorem channelReading_sound : (channelReading X).Sound := by
  refine sound_of_create (fun _ => rfl) (by simp [channelReading])
    (fun _ => ResourceChannelV1.fromRecord_fails) ?_
  intro record pointer built
  refine ⟨pointer.valid, ?_⟩
  obtain ⟨_, -, created⟩ := bind_ok.mp built
  have accepted := ResourceChannelV1.create_iff.mp created
  obtain ⟨_, _, accepted⟩ := bind_ok.mp accepted
  obtain ⟨_, _, accepted⟩ := bind_ok.mp accepted
  obtain ⟨_, _, accepted⟩ := bind_ok.mp accepted
  obtain ⟨_, _, accepted⟩ := bind_ok.mp accepted
  obtain ⟨_, _, accepted⟩ := bind_ok.mp accepted
  obtain ⟨_, named, accepted⟩ := bind_ok.mp accepted
  obtain ⟨_, _, accepted⟩ := bind_ok.mp accepted
  obtain ⟨_, _, accepted⟩ := bind_ok.mp accepted
  obtain ⟨_, _, accepted⟩ := bind_ok.mp accepted
  obtain ⟨_, _, accepted⟩ := bind_ok.mp accepted
  obtain ⟨_, _, same⟩ := bind_ok.mp accepted
  rw [raiseIf_ok, not_not] at named
  show _ = JsonValue.str (pointer.toResourceChannelFields.channelVersionId X)
  rw [← Except.ok.inj same]
  exact named

theorem orphanReading_sound (external : FailsWithData X) : (orphanReading X).Sound := by
  refine sound_of_create (fun _ => rfl) (by simp [orphanReading])
    (fun _ => OrphanCandidateV1.fromRecord_fails external) ?_
  intro record orphan built
  refine ⟨orphan.valid, ?_⟩
  obtain ⟨_, -, built⟩ := bind_ok.mp built
  obtain ⟨_, _, built⟩ := bind_ok.mp built
  obtain ⟨_, _, created⟩ := bind_ok.mp built
  have accepted := OrphanCandidateV1.create_iff.mp created
  obtain ⟨_, _, accepted⟩ := bind_ok.mp accepted
  obtain ⟨_, _, accepted⟩ := bind_ok.mp accepted
  obtain ⟨_, _, accepted⟩ := bind_ok.mp accepted
  obtain ⟨_, _, accepted⟩ := bind_ok.mp accepted
  obtain ⟨_, named, accepted⟩ := bind_ok.mp accepted
  obtain ⟨_, _, accepted⟩ := bind_ok.mp accepted
  obtain ⟨_, _, accepted⟩ := bind_ok.mp accepted
  obtain ⟨_, _, accepted⟩ := bind_ok.mp accepted
  obtain ⟨_, _, accepted⟩ := bind_ok.mp accepted
  obtain ⟨_, _, same⟩ := bind_ok.mp accepted
  rw [raiseIf_ok, not_not] at named
  show _ = JsonValue.str (orphan.toOrphanCandidateFields.candidateId X)
  rw [← Except.ok.inj same]
  exact named

/-- The logical record that a value carries: itself, or the values of a Record envelope. -/
def IsRecordOf (data : JsonValue) (record : Mapping) : Prop :=
  ∃ description value, asMapping data description = .ok value ∧
    logicalRecord value description = .ok record

/-- A method returns what a property allows, or raises InvalidRepositoryResult. -/
def FailsClosed {A : Type} (holds : A → Prop) : Except PyError A → Prop
  | .ok value => holds value
  | .error error => isInvalidResult error = true

theorem failsClosed_of {A : Type} {holds : A → Prop} {ended : Except PyError A}
    (fails : RaisesOnly isInvalidResult ended) (returns : ∀ value, ended = .ok value → holds value) :
    FailsClosed holds ended := by
  cases ended with
  | ok value => exact returns value rfl
  | error error => exact fails error rfl

namespace Reading

variable {A : Type} {reading : Reading A}

/-- A valid model of the record that a value carries, under the key its identity derives. -/
def Models (reading : Reading A) (data : JsonValue) (value : A) : Prop :=
  reading.Valid value ∧
    ∃ record, IsRecordOf data record ∧ entryOf record reading.keyField = .str (reading.keyOf value)

/-- A method that may find no record: a null result is an absence, and nothing else is. -/
def ClosedOrAbsent (reading : Reading A) (result : OperationResult) (key : String)
    (required : Bool) (ended : Except PyError (Option A)) : Prop :=
  if result.data = .null then ended = absent key required
  else FailsClosed (fun found => ∃ value, found = some value ∧ reading.Models result.data value) ended

/-- A page of models, one for each item of the page that was answered, and its cursor. -/
def ModelsPage (reading : Reading A) (data : JsonValue) (values : List A) (cursor : Option String) :
    Prop :=
  ∃ entries items, data = .object entries ∧ entryOf entries "items" = .array items ∧
    entryOf entries "cursor" = optionalJson .str cursor ∧ List.Forall₂ reading.Models items values

/-- A method that reads the first record of a page: an empty page is an absence, and nothing
else is. -/
def ClosedOrEmpty (reading : Reading A) (data : JsonValue) (key : String) (required : Bool)
    (ended : Except PyError (Option A)) : Prop :=
  (∀ cursor, reading.ModelsPage data [] cursor → ended = absent key required) ∧
    ((∀ cursor, ¬reading.ModelsPage data [] cursor) →
      FailsClosed (fun found => ∃ entries item rest value, found = some value ∧
        data = .object entries ∧ entryOf entries "items" = .array (item :: rest) ∧
        reading.Models item value) ended)

theorem closed_readRecord (sound : reading.Sound) (description key : String) (required : Bool)
    (result : OperationResult) : reading.ClosedOrAbsent result key required
      (readRecord reading.parse description key required (.ok result)) := by
  unfold ClosedOrAbsent readRecord
  dsimp only
  split
  · rfl
  · apply failsClosed_of
    · apply (asMapping_fails.bind fun _ => logicalRecord_fails).bind
      intro record
      exact sound.fails.map
    · intro found ended
      obtain ⟨record, recorded, parsed⟩ := bind_ok.mp ended
      obtain ⟨value, read, rfl⟩ := map_ok.mp parsed
      obtain ⟨entries, mapped, logical⟩ := bind_ok.mp recorded
      obtain ⟨valid, named⟩ := sound.reads read
      exact ⟨value, rfl, valid, record, ⟨_, entries, mapped, logical⟩, named⟩

theorem closed_put (sound : reading.Sound) (description : String) (result : OperationResult) :
    FailsClosed (reading.Models result.data) (recordOf result description >>= reading.parse) := by
  apply failsClosed_of
  · exact (asMapping_fails.bind fun _ => logicalRecord_fails).bind fun _ => sound.fails
  · intro value ended
    obtain ⟨record, recorded, parsed⟩ := bind_ok.mp ended
    obtain ⟨entries, mapped, logical⟩ := bind_ok.mp recorded
    obtain ⟨valid, named⟩ := sound.reads parsed
    exact ⟨valid, record, ⟨_, entries, mapped, logical⟩, named⟩

theorem closed_item (sound : reading.Sound) (description : String) (item : JsonValue) :
    FailsClosed (reading.Models item) (pageItem reading.parse description item) := by
  apply failsClosed_of
  · apply asMapping_fails.bind
    intro entries
    exact logicalRecord_fails.bind fun _ => sound.fails
  · intro value ended
    obtain ⟨entries, mapped, read⟩ := bind_ok.mp ended
    obtain ⟨record, logical, parsed⟩ := bind_ok.mp read
    obtain ⟨valid, named⟩ := sound.reads parsed
    exact ⟨valid, record, ⟨_, entries, mapped, logical⟩, named⟩

theorem fails_item (sound : reading.Sound) (description : String) (item : JsonValue) :
    RaisesOnly isInvalidResult (pageItem reading.parse description item) := by
  intro error raised
  have closed := closed_item sound description item
  rw [raised] at closed
  exact closed

theorem models_item (sound : reading.Sound) {description : String} {item : JsonValue} {value : A}
    (read : pageItem reading.parse description item = .ok value) : reading.Models item value := by
  have closed := closed_item sound description item
  rw [read] at closed
  exact closed

theorem models_items (sound : reading.Sound) {description : String} {items : List JsonValue}
    {values : List A} (read : items.mapM (pageItem reading.parse description) = .ok values) :
    List.Forall₂ reading.Models items values := by
  induction items generalizing values with
  | nil =>
    cases read
    exact .nil
  | cons item rest ih =>
    rw [List.mapM_cons] at read
    obtain ⟨value, first, read⟩ := bind_ok.mp read
    obtain ⟨others, later, same⟩ := bind_ok.mp read
    cases same
    exact .cons (models_item sound first) (ih later)

end Reading

/-- What a result must be for a page to be read from it. -/
theorem pageOf_ok {result : OperationResult} {description : String} {items : List JsonValue}
    {cursor : Option String} : pageOf result description = .ok (items, cursor) ↔
      ∃ entries, result.data = .object entries ∧ entryOf entries "items" = .array items ∧
        entryOf entries "cursor" = optionalJson .str cursor := by
  constructor
  · intro read
    obtain ⟨entries, mapped, paged⟩ := bind_ok.mp read
    refine ⟨entries, ?_, ?_⟩
    · unfold asMapping at mapped
      split at mapped
      · cases mapped
        assumption
      · cases mapped
      · cases mapped
    · split at paged
      · next listed ended =>
        cases paged
        exact ⟨listed, ended⟩
      · next listed continued =>
        cases paged
        exact ⟨listed, continued⟩
      · cases paged
  · rintro ⟨entries, mapped, listed, continued⟩
    have read : asMapping result.data description = .ok entries := by rw [mapped]; rfl
    refine bind_ok.mpr ⟨entries, read, ?_⟩
    rw [listed, continued]
    cases cursor <;> rfl

namespace MetadataRepository

variable {A : Type}

/-- The answers of a store that has one result for every call. -/
def always (result : OperationResult) : Answers structured Unit :=
  fun _ _ => (Except.ok result, ())

/-- How a body ends when every call it issues has the same result. -/
def answered (result : OperationResult) (body : StructuredM A) : Except PyError A :=
  (body.run.execute (always result) ()).1

/-- The answers of a store whose puts conflict and whose other calls have one result. -/
def conflictThen (conflict : PyError) (result : OperationResult) : Answers structured Unit :=
  fun request _ => match (request : StructuredCall) with
    | .put _ _ => (.error conflict, ())
    | _ => (.ok result, ())

/-- How a body ends when its put conflicts and what it reads again is the result. -/
def reread (conflict : PyError) (result : OperationResult) (body : StructuredM A) :
    Except PyError A :=
  (body.run.execute (conflictThen conflict result) ()).1

/-- Every method that is given a result returns what the result holds, valid, or raises
InvalidRepositoryResult; an absence is reported for a null record or an empty page only. -/
structure ResultsFailClosed (X : Platform) (result : OperationResult) : Prop where
  getResource : ∀ resourceId required, (resourceReading X).ClosedOrAbsent result resourceId required
    (answered result (getResource X resourceId required))
  getOrphan : ∀ candidateId required, (orphanReading X).ClosedOrAbsent result candidateId required
    (answered result (getOrphan X candidateId required))
  listResources : ∀ «namespace» kind name profile state limit cursor,
    FailsClosed (fun page => (resourceReading X).ModelsPage result.data page.items page.cursor)
      (answered result (listResources X «namespace» kind name profile state limit cursor))
  listOrphans : ∀ state limit cursor,
    FailsClosed (fun page => (orphanReading X).ModelsPage result.data page.items page.cursor)
      (answered result (listOrphans X state limit cursor))
  latestChannel : ∀ key required, (channelReading X).ClosedOrEmpty result.data (channelText key)
    required (answered result (latestChannel X key required))
  putResource : ∀ resource, FailsClosed ((resourceReading X).Models result.data)
    (answered result (putResource (resource : StoredResourceV1 X)))
  putChannel : ∀ pointer, FailsClosed ((channelReading X).Models result.data)
    (answered result (putChannel X pointer))
  putOrphan : ∀ orphan, FailsClosed ((orphanReading X).Models result.data)
    (answered result (putOrphan (orphan : OrphanCandidateV1 X)))
  /-- A candidate that conflicts is read again: the conflict is raised if it is not there. -/
  rereadOrphan : ∀ (orphan : OrphanCandidateV1 X) conflict, conflict.hasCategory .conflict = true →
    result.data = .null ∧ reread conflict result (MetadataRepository.putOrphan orphan) = .error conflict ∨
      FailsClosed ((orphanReading X).Models result.data)
        (reread conflict result (MetadataRepository.putOrphan orphan)) ∨
      ∃ existing, (orphanReading X).Models result.data existing ∧
        sameOrphanIdentity existing orphan = false ∧
        reread conflict result (MetadataRepository.putOrphan orphan) =
          .error (identityConflict (some (orphan.candidateId X))
            "orphan candidate identity already has different metadata")
  /-- The provenance that is returned is the one written, beside the version of its row. -/
  putProvenance : ∀ written, FailsClosed
    (fun stored => pyEq (.object (Mapping.without stored ["recordVersion"])) (.object written) = true)
    (answered result (putProvenance written))

/-- The handler names the two errors a timestamp raises; the rest is invalid already. -/
theorem timestamps_fails {timed : Except PyError Mapping}
    (known : RaisesOnly (fun error => error.isArgumentError || isInvalidResult error) timed) :
    RaisesOnly isInvalidResult (readProvenance.timestamps timed) := by
  intro error raised
  unfold readProvenance.timestamps at raised
  split at raised
  · cases raised; rfl
  · cases raised; rfl
  · next typed valued =>
    have accused := known error raised
    rw [raised] at typed valued
    cases error with
    | typeError message => exact absurd rfl (typed message)
    | valueError message => exact absurd rfl (valued message)
    | _ => simpa [PyError.isArgumentError] using accused

theorem closed_readProvenance (written : Mapping) (result : OperationResult) : FailsClosed
    (fun stored => pyEq (.object (Mapping.without stored ["recordVersion"])) (.object written) = true)
    (readProvenance written result) := by
  have record : ∀ description, RaisesOnly isInvalidResult (recordOf result description) :=
    fun _ => asMapping_fails.bind fun _ => logicalRecord_fails
  apply failsClosed_of
  · apply RaisesOnly.bind
    · apply timestamps_fails
      apply ((record _).mono fun error invalid => by simp [invalid]).bind
      intro values
      apply (withoutRecordTimestamps_argument.mono fun error argument => by simp [argument]).bind
      intro stored
      split
      · exact .ok _
      · apply (utcTimestamp_argument.mono fun error argument => by simp [argument]).bind
        intro createdAt
        exact .ok _
    · intro stored
      apply RaisesOnly.bind (.raising rfl)
      intro _
      exact .ok stored
  · intro stored ended
    obtain ⟨_, -, ended⟩ := bind_ok.mp ended
    obtain ⟨_, same, ended⟩ := bind_ok.mp ended
    cases ended
    rwa [raiseIf_ok, Bool.not_eq_false] at same

theorem closed_readLatest (key : ChannelKey) (required : Bool) (result : OperationResult) :
    (channelReading X).ClosedOrEmpty result.data (channelText key) required
      (readLatest X key required result) := by
  constructor
  · rintro cursor ⟨entries, items, mapped, listed, continued, none⟩
    cases none
    have read : pageOf result "structured channel query result" = .ok ([], cursor) :=
      pageOf_ok.mpr ⟨entries, mapped, listed, continued⟩
    unfold readLatest
    rw [read]
    rfl
  · intro queried
    unfold readLatest
    cases read : pageOf result "structured channel query result" with
    | error error => exact pageOf_fails error read
    | ok page =>
      obtain ⟨items, cursor⟩ := page
      obtain ⟨entries, mapped, listed, continued⟩ := pageOf_ok.mp read
      cases items with
      | nil => exact absurd ⟨entries, [], mapped, listed, continued, .nil⟩ (queried cursor)
      | cons item rest =>
        apply failsClosed_of
        · exact (Reading.fails_item channelReading_sound _ item).map
        · intro found ended
          obtain ⟨pointer, parsed, rfl⟩ := map_ok.mp ended
          exact ⟨entries, item, rest, pointer, rfl, mapped, listed,
            Reading.models_item channelReading_sound parsed⟩

theorem closed_page {A B : Type} {reading : Reading A} (sound : reading.Sound)
    (description itemDescription : String) (result : OperationResult) (build : List A → Option String → B)
    (itemsOf : B → List A) (cursorOf : B → Option String)
    (built : ∀ items cursor, itemsOf (build items cursor) = items ∧
      cursorOf (build items cursor) = cursor) :
    FailsClosed (fun page => reading.ModelsPage result.data (itemsOf page) (cursorOf page)) (do
      let (items, next) ← pageOf result description
      let values ← items.mapM (pageItem reading.parse itemDescription)
      .ok (build values next)) := by
  apply failsClosed_of
  · apply pageOf_fails.bind
    rintro ⟨items, next⟩
    apply (RaisesOnly.mapM (Reading.fails_item sound _) items).bind
    intro values
    exact .ok _
  · intro page ended
    obtain ⟨⟨items, next⟩, read, ended⟩ := bind_ok.mp ended
    obtain ⟨values, parsed, same⟩ := bind_ok.mp ended
    cases same
    obtain ⟨entries, mapped, listed, continued⟩ := pageOf_ok.mp read
    rw [(built values next).1, (built values next).2]
    exact ⟨entries, items, mapped, listed, continued, Reading.models_items sound parsed⟩

theorem reread_putOrphan {orphan : OrphanCandidateV1 X} {conflict : PyError}
    (conflicting : conflict.hasCategory .conflict = true) (result : OperationResult) :
    reread conflict result (putOrphan orphan) =
      (readRecord (parseOrphan X) "structured orphan result" (orphan.candidateId X) false
        (.ok result) >>= fun
          | some existing =>
            if sameOrphanIdentity existing orphan then .ok existing
            else .error (identityConflict (some (orphan.candidateId X))
              "orphan candidate identity already has different metadata")
          | none => .error conflict) := by
  have branch : reread conflict result (putOrphan orphan) =
      ((storedOrphan orphan (.error conflict)).run.execute (conflictThen conflict result) ()).1 := rfl
  rw [branch]
  unfold storedOrphan
  dsimp only
  rw [if_pos conflicting]
  have read : ∀ next : Option (OrphanCandidateV1 X) → StructuredM (OrphanCandidateV1 X),
      (getOrphan X (orphan.candidateId X) false >>= next).run.execute (conflictThen conflict result) () =
        (andThen next (readRecord (parseOrphan X) "structured orphan result" (orphan.candidateId X)
          false (.ok result))).execute (conflictThen conflict result) () := fun _ => rfl
  rw [read]
  cases readRecord (parseOrphan X) "structured orphan result" (orphan.candidateId X) false
    (.ok result) with
  | error error => rfl
  | ok found =>
    cases found with
    | none => rfl
    | some existing =>
      rw [andThen_ok]
      dsimp only [ok_bind]
      split
      · rfl
      · rfl

/-- Whatever a structured store returns, the methods that read it fail closed. -/
theorem results_fail_closed (external : FailsWithData X) (result : OperationResult) :
    ResultsFailClosed X result where
  getResource := fun _ _ => Reading.closed_readRecord (resourceReading_sound external) _ _ _ _
  getOrphan := fun _ _ => Reading.closed_readRecord (orphanReading_sound external) _ _ _ _
  listResources := fun _ _ _ _ _ _ _ => closed_page (resourceReading_sound external) _ _ result
    ResourcePage.mk ResourcePage.items ResourcePage.cursor fun _ _ => ⟨rfl, rfl⟩
  listOrphans := fun _ _ _ => closed_page (orphanReading_sound external) _ _ result
    OrphanPage.mk OrphanPage.items OrphanPage.cursor fun _ _ => ⟨rfl, rfl⟩
  latestChannel := fun key required => closed_readLatest key required result
  putResource := fun _ => Reading.closed_put (resourceReading_sound external) _ result
  putChannel := fun _ => Reading.closed_put channelReading_sound _ result
  putOrphan := fun _ => Reading.closed_put (orphanReading_sound external) _ result
  rereadOrphan := by
    intro orphan conflict conflicting
    have closed := Reading.closed_readRecord (orphanReading_sound external)
      "structured orphan result" (orphan.candidateId X) false result
    rw [reread_putOrphan conflicting]
    unfold Reading.ClosedOrAbsent at closed
    split at closed
    -- The second look found nothing, so the conflict is raised on.
    · next null =>
      exact .inl ⟨null, by rw [show readRecord (parseOrphan X) _ _ _ _ = _ from closed]; rfl⟩
    · right
      change FailsClosed _ (readRecord (parseOrphan X) _ _ _ _) at closed
      cases read : readRecord (parseOrphan X) "structured orphan result" (orphan.candidateId X)
        false (.ok result) with
      | error error =>
        rw [read] at closed
        exact .inl closed
      | ok found =>
        rw [read] at closed
        obtain ⟨existing, rfl, models⟩ := closed
        cases same : sameOrphanIdentity existing orphan with
        | true =>
          left
          rw [ok_bind]
          dsimp only
          rw [if_pos same]
          exact models
        | false =>
          refine .inr ⟨existing, models, same, ?_⟩
          rw [ok_bind]
          dsimp only
          rw [same]
          rfl
  putProvenance := fun written => closed_readProvenance written result

/-- A result that is a list inside an envelope is refused by each of them. -/
theorem results_fail_closed_reference :
    ResultsFailClosed Platform.reference ⟨.object [("values", .array [])], []⟩ :=
  results_fail_closed Reference.failsWithData _

end MetadataRepository

end ConfigArtifact
