import ConfigArtifact.Interaction.Blind
import ConfigArtifact.Store.Conforming

/-! Bare records and Record envelopes are read alike.

A store may answer with bare logical records or wrap each of them in a Record
envelope. Nothing the repository makes of an answer tells the two apart.
-/

set_option autoImplicit false

namespace ConfigArtifact

open Interaction Fallible MetadataRepository

variable {X : Platform}

/-- A record under its key, bare and in a Record envelope. -/
inductive WrapsRecord (X : Platform) (collection : Collection) (key : String) :
    JsonValue → JsonValue → Prop
  | intro {row : Row} {timestamps : StringMapping} {createdAt updatedAt : String} {formatted : Bool} :
      IsPlain collection row.values → Shape.IsValid collection (.bare timestamps) →
      Shape.IsValid collection (.envelope createdAt updatedAt formatted) →
      WrapsRecord X collection key
        (.object (present X collection key row (.bare timestamps)))
        (.object (present X collection key row (.envelope createdAt updatedAt formatted)))

/-- The data of an answer, with bare records and with wrapped ones. -/
def WrapsData (X : Platform) : StructuredCall → JsonValue → JsonValue → Prop
  | .get collection _, bare, wrapped | .put collection _, bare, wrapped =>
    bare = .null ∧ wrapped = .null ∨ ∃ key, WrapsRecord X collection key bare wrapped
  | .patch collection filter _ _, bare, wrapped => ∃ key rows envelopes,
      keyOf collection filter = some key ∧ bare = .array rows ∧ wrapped = .array envelopes ∧
      List.Forall₂ (WrapsRecord X collection key) rows envelopes
  | .query collection _ _ _ _, bare, wrapped => ∃ rows envelopes cursor,
      bare = pageData rows cursor ∧ wrapped = pageData envelopes cursor ∧
      List.Forall₂ (fun row envelope => ∃ key, WrapsRecord X collection key row envelope)
        rows envelopes

/-- One answer, with bare records and with wrapped ones. An error is the same error. -/
def Wraps (X : Platform) : Likeness structured := fun call bare wrapped =>
  match bare, wrapped with
  | .ok first, .ok second =>
    first.resources = second.resources ∧ WrapsData X call first.data second.data
  | .error error, .error other => error = other
  | _, _ => False

theorem Wraps.cases {call : StructuredCall} {bare wrapped : Except PyError OperationResult}
    (wraps : Wraps X call bare wrapped) :
    (∃ error, bare = .error error ∧ wrapped = .error error) ∨
      ∃ first second resources, bare = .ok ⟨first, resources⟩ ∧ wrapped = .ok ⟨second, resources⟩ ∧
        WrapsData X call first second := by
  cases bare with
  | error error =>
    cases wrapped with
    | error other => exact .inl ⟨error, rfl, congrArg Except.error (Eq.symm wraps)⟩
    | ok second => cases wraps
  | ok first =>
    cases wrapped with
    | error other => cases wraps
    | ok second =>
      obtain ⟨first, resources⟩ := first
      obtain ⟨second, others⟩ := second
      obtain ⟨same, carried⟩ := wraps
      cases same
      exact .inr ⟨first, second, resources, rfl, rfl, carried⟩

/-- A reader of records that does not see which timestamps an adapter has added. -/
def IgnoresAdded {A : Type} (collection : Collection) (parse : Mapping → Except PyError A) : Prop :=
  ∀ {values first second : Mapping} (version : RecordVersion), IsPlain collection values →
    AddedTimestamps collection first → AddedTimestamps collection second →
    parse (values ++ versionEntry (some version) ++ first) =
      parse (values ++ versionEntry (some version) ++ second)

theorem ignores_stripped {A : Type} {collection : Collection} {message : String}
    (read : Mapping → Except PyError A) : IgnoresAdded collection fun record =>
      orInvalid message (withoutRecordTimestamps record (adapterTimestamps collection) >>= read) := by
  intro values first second version plain one two
  dsimp only
  rw [withoutRecordTimestamps_added version plain one, withoutRecordTimestamps_added version plain two]

theorem ignores_resource : IgnoresAdded .metadata (parseResource X) := ignores_stripped _

theorem ignores_channel : IgnoresAdded .channels (parseChannel X) := ignores_stripped _

theorem ignores_orphan : IgnoresAdded .orphanCandidates (parseOrphan X) := ignores_stripped _

section

variable {collection : Collection} {key description : String} {bare wrapped : JsonValue}
  {A : Type} {parse : Mapping → Except PyError A}

/-- The logical records of both forms agree, but for the timestamps that are added. -/
theorem WrapsRecord.logical (wraps : WrapsRecord X collection key bare wrapped) (description : String) :
    ∃ (row : Row) (first second : Mapping), IsPlain collection row.values ∧
      AddedTimestamps collection first ∧ AddedTimestamps collection second ∧
      (asMapping bare description >>= fun value => logicalRecord value description) =
        .ok (row.values ++ versionEntry (some row.version) ++ first) ∧
      (asMapping wrapped description >>= fun value => logicalRecord value description) =
        .ok (row.values ++ versionEntry (some row.version) ++ second) := by
  obtain ⟨plain, stamped, enveloped⟩ := wraps
  obtain ⟨first, one, logical⟩ := logicalRecord_present X key description plain stamped
  obtain ⟨second, two, again⟩ := logicalRecord_present X key description plain enveloped
  exact ⟨_, first, second, plain, one, two, logical, again⟩

theorem WrapsRecord.read (wraps : WrapsRecord X collection key bare wrapped)
    (ignores : IgnoresAdded collection parse) :
    ((asMapping bare description >>= fun value => logicalRecord value description) >>= parse) =
      ((asMapping wrapped description >>= fun value => logicalRecord value description) >>= parse) := by
  obtain ⟨row, first, second, plain, one, two, logical, again⟩ := wraps.logical description
  rw [logical, again]
  exact ignores row.version plain one two

theorem WrapsRecord.pageItem (wraps : WrapsRecord X collection key bare wrapped)
    (ignores : IgnoresAdded collection parse) :
    ConfigArtifact.pageItem parse description bare =
      ConfigArtifact.pageItem parse description wrapped := by
  have same := @WrapsRecord.read X collection key description bare wrapped A parse wraps ignores
  rw [bind_assoc, bind_assoc] at same
  exact same

theorem WrapsRecord.not_null (wraps : WrapsRecord X collection key bare wrapped) :
    bare ≠ .null ∧ wrapped ≠ .null := by
  cases wraps with
  | intro _ _ _ => exact ⟨by simp, by simp⟩

end

section

variable {collection : Collection} {data filter : Mapping} {bare wrapped : Except PyError OperationResult}
  {A : Type} {parse : Mapping → Except PyError A}

/-- What a lookup makes of its answer. -/
theorem readRecord_wraps (ignores : IgnoresAdded collection parse) (description key : String)
    (required : Bool) (wraps : Wraps X (.get collection filter) bare wrapped) :
    readRecord parse description key required bare =
      readRecord parse description key required wrapped := by
  rcases wraps.cases with ⟨error, rfl, rfl⟩ | ⟨first, second, resources, rfl, rfl, carried⟩
  · rfl
  · unfold readRecord
    dsimp only
    rcases carried with ⟨null, gone⟩ | ⟨name, carried⟩
    · rw [if_pos null, if_pos gone]
    · rw [if_neg carried.not_null.1, if_neg carried.not_null.2]
      unfold recordOf
      obtain ⟨row, added, other, plain, one, two, logical, again⟩ := carried.logical description
      rw [logical, again, ok_bind, ok_bind, ignores row.version plain one two]

/-- What a put makes of its answer. -/
theorem recordOf_wraps (ignores : IgnoresAdded collection parse) (description : String)
    (wraps : Wraps X (.put collection data) bare wrapped) :
    (bare >>= fun result => recordOf result description >>= parse) =
      (wrapped >>= fun result => recordOf result description >>= parse) := by
  rcases wraps.cases with ⟨error, rfl, rfl⟩ | ⟨first, second, resources, rfl, rfl, carried⟩
  · rfl
  · rw [ok_bind, ok_bind]
    unfold recordOf
    rcases carried with ⟨null, gone⟩ | ⟨name, carried⟩
    · rw [null, gone]
    · exact carried.read ignores

theorem pageOf_wraps {rows envelopes : List JsonValue} {cursor : JsonValue}
    {resources : List ResourceRef} (description : String)
    (next : List JsonValue → Option String → Except PyError A)
    (same : ∀ reached, next rows reached = next envelopes reached) :
    (pageOf ⟨pageData rows cursor, resources⟩ description >>= fun page => next page.1 page.2) =
      (pageOf ⟨pageData envelopes cursor, resources⟩ description >>= fun page =>
        next page.1 page.2) := by
  cases cursor with
  | null => exact same none
  | str reached => exact same (some reached)
  | _ => rfl

theorem mapM_wraps (ignores : IgnoresAdded collection parse) (description : String)
    {rows envelopes : List JsonValue}
    (wraps : List.Forall₂ (fun row envelope => ∃ key, WrapsRecord X collection key row envelope)
      rows envelopes) :
    rows.mapM (pageItem parse description) = envelopes.mapM (pageItem parse description) := by
  induction wraps with
  | nil => rfl
  | cons wraps _ ih =>
    obtain ⟨key, wraps⟩ := wraps
    rw [List.mapM_cons, List.mapM_cons, wraps.pageItem ignores, ih]

theorem query_wraps {B : Type} {filter : Mapping} {orderBy : List OrderBy} {limit : Int}
    {cursor : Option String} (description : String)
    (next : List JsonValue → Option String → Except PyError B)
    (same : ∀ rows envelopes, List.Forall₂
      (fun row envelope => ∃ key, WrapsRecord X collection key row envelope) rows envelopes →
      ∀ reached, next rows reached = next envelopes reached)
    (wraps : Wraps X (.query collection filter orderBy limit cursor) bare wrapped) :
    (bare >>= fun result => pageOf result description >>= fun page => next page.1 page.2) =
      (wrapped >>= fun result => pageOf result description >>= fun page => next page.1 page.2) := by
  rcases wraps.cases with ⟨error, rfl, rfl⟩ | ⟨first, second, resources, rfl, rfl, carried⟩
  · rfl
  · obtain ⟨rows, envelopes, cursor, rfl, rfl, items⟩ := carried
    exact pageOf_wraps description next (same rows envelopes items)

/-- What the items of a page of pointers tell. -/
def newestOf (X : Platform) (key : ChannelKey) (required : Bool) :
    List JsonValue → Except PyError (Option ResourceChannelV1)
  | [] => absent (channelText key) required
  | item :: _ => some <$> pageItem (parseChannel X) "channel page item" item

theorem readLatest_eq (key : ChannelKey) (required : Bool) :
    readLatest X key required = fun result =>
      pageOf result "structured channel query result" >>= fun page =>
        newestOf X key required page.1 := by
  funext result
  unfold readLatest
  cases pageOf result "structured channel query result" with
  | error error => rfl
  | ok page =>
    obtain ⟨items, cursor⟩ := page
    cases items <;> rfl

/-- What a query for the newest pointer makes of its answer. -/
theorem readLatest_wraps {key : ChannelKey} {required : Bool} {filter : Mapping}
    {orderBy : List OrderBy} {limit : Int} {cursor : Option String}
    (wraps : Wraps X (.query .channels filter orderBy limit cursor) bare wrapped) :
    (bare >>= readLatest X key required) = (wrapped >>= readLatest X key required) := by
  rw [readLatest_eq]
  apply query_wraps "structured channel query result" (fun items _ => newestOf X key required items) ?_
    wraps
  intro rows envelopes wraps _
  cases wraps with
  | nil => rfl
  | cons wraps others =>
    obtain ⟨name, wraps⟩ := wraps
    exact congrArg (some <$> ·) (wraps.pageItem ignores_channel)

/-- What a patch makes of its answer. -/
theorem deprecationResult_wraps {resource : StoredResourceV1 X} {changes : Mapping}
    {version : RecordVersion}
    (wraps : Wraps X (.patch .metadata [("resourceId", .str resource.resourceId)] changes version)
      bare wrapped) :
    (bare >>= fun result => deprecationResult result resource) =
      (wrapped >>= fun result => deprecationResult result resource) := by
  rcases wraps.cases with ⟨error, rfl, rfl⟩ | ⟨first, second, resources, rfl, rfl, carried⟩
  · rfl
  · obtain ⟨key, rows, envelopes, keyed, rfl, rfl, records⟩ := carried
    obtain rfl : resource.resourceId = key := Option.some.inj keyed
    rw [ok_bind, ok_bind]
    cases records with
    | nil => rfl
    | cons record others =>
      cases others with
      | nil =>
        cases record with
        | intro plain stamped enveloped =>
          obtain ⟨added, one, logical⟩ := logicalRecord_present X resource.resourceId
            "structured resource patch Record" plain stamped
          obtain ⟨other, two, again⟩ := logicalRecord_present X resource.resourceId
            "structured resource patch Record" plain enveloped
          have inside := checkScope_present (X := X) resource.resourceId plain stamped
          have enclosed := checkScope_present (X := X) resource.resourceId plain enveloped
          unfold deprecationResult
          simp only [asMapping, ok_bind, inside, enclosed, logical, again,
            ignores_resource _ plain one two]
      | cons _ _ => rfl

/-- What a provenance put makes of its answer. -/
theorem readProvenance_wraps {value : Mapping}
    (wraps : Wraps X (.put .provenance value) bare wrapped) :
    (bare >>= readProvenance value) = (wrapped >>= readProvenance value) := by
  rcases wraps.cases with ⟨error, rfl, rfl⟩ | ⟨first, second, resources, rfl, rfl, carried⟩
  · rfl
  · rw [ok_bind, ok_bind]
    unfold readProvenance recordOf
    rcases carried with ⟨null, gone⟩ | ⟨name, carried⟩
    · rw [null, gone]
    · obtain ⟨row, added, other, plain, one, two, logical, again⟩ :=
        carried.logical "structured provenance put result"
      have stripped := withoutRecordTimestamps_added row.version plain one
      have same := withoutRecordTimestamps_added row.version plain two
      change withoutRecordTimestamps _ ["updatedAt"] = _ at stripped same
      rw [logical, again, ok_bind, ok_bind, stripped, same]

end

end ConfigArtifact
