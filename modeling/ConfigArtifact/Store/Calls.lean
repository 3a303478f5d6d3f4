import ConfigArtifact.Store.Serving

/-! What each repository call concludes about the state it found.

One relation for each call says what its result tells and what it has changed;
one rule for each call carries that to the program that goes on with the result.
-/

set_option autoImplicit false

namespace ConfigArtifact

open Interaction Fallible Relation MetadataRepository

variable {X : Platform} {P : Policy X} {first s t u : World} {faults : Prop}

theorem run_latestChannel (key : ChannelKey) (required : Bool) :
    (StructuredM.lift (latestChannel X key required) : PyM X _).run =
      .call (.structured (.query .channels (channelFilter key) [⟨"pointerVersion", true⟩] 1 none))
        fun reply => .done (reply >>= readLatest X key required) := by
  apply congrArg (Program.call _)
  funext reply
  cases reply <;> rfl

/-- No event of a history has changed a row. -/
def Quiet (history : List (Event (runtime X) World)) : Prop :=
  ∀ event ∈ history, event.after.tables = event.before.tables

theorem quiet_nil : Quiet ([] : List (Event (runtime X) World)) := fun _ member => by cases member

theorem Quiet.append {history more : List (Event (runtime X) World)} (quiet : Quiet history)
    (silent : Quiet more) : Quiet (history ++ more) := by
  intro event member
  rcases List.mem_append.mp member with member | member
  · exact quiet event member
  · exact silent event member

theorem Quiet.snoc {history : List (Event (runtime X) World)} (quiet : Quiet history)
    {event : Event (runtime X) World} (same : event.after.tables = event.before.tables) :
    Quiet (history ++ [event]) := by
  refine quiet.append fun other member => ?_
  obtain rfl := List.mem_singleton.mp member
  exact same

/-- One event of a history has this effect, and no other has changed a row. -/
def Once (effect : World → World → Prop) (history : List (Event (runtime X) World)) : Prop :=
  ∃ front event rest, history = front ++ event :: rest ∧ Quiet front ∧ Quiet rest ∧
    effect event.before event.after

theorem Quiet.once {effect : World → World → Prop} {history : List (Event (runtime X) World)}
    (quiet : Quiet history) {event : Event (runtime X) World}
    (effective : effect event.before event.after) : Once effect (history ++ [event]) :=
  ⟨history, event, [], rfl, quiet, quiet_nil, effective⟩

theorem Once.append {effect : World → World → Prop} {history more : List (Event (runtime X) World)}
    (once : Once effect history) (quiet : Quiet more) : Once effect (history ++ more) := by
  obtain ⟨front, chosen, rest, rfl, before, after, effective⟩ := once
  exact ⟨front, chosen, rest ++ more, by simp, before, after.append quiet, effective⟩

theorem Once.mem {effect : World → World → Prop} {history : List (Event (runtime X) World)}
    (once : Once effect history) : ∃ event ∈ history, effect event.before event.after := by
  obtain ⟨front, event, rest, rfl, -, -, effective⟩ := once
  exact ⟨event, by simp, effective⟩

/-- What a lookup by key tells about the state it was answered in. -/
def Lookup {A : Type} (faults : Prop) (s : World) (collection : Collection) (key : String)
    (required : Bool) (holds : A → Prop) : Except PyError (Option A) → Prop
  | .ok (some value) => holds value
  | .ok none => required = false ∧ (faults ∨ s.row? collection key = none)
  | .error error => faults ∨ required = true ∧ s.row? collection key = none ∧
      error = resourceNotFound (some key)

abbrev Looked (X : Platform) (faults : Prop) (s : World) (resourceId : String) (required : Bool) :
    Except PyError (Option (StoredResourceV1 X)) → Prop :=
  Lookup faults s .metadata resourceId required fun resource =>
    Stores s resource ∧ resource.resourceId = resourceId

/-- What a query for the newest pointer tells about the state it was answered in. -/
def Newest (X : Platform) (faults : Prop) (s : World) (key : ChannelKey) (required : Bool) :
    Except PyError (Option ResourceChannelV1) → Prop
  | .ok (some pointer) => Points X s pointer ∧ pointer.key = key ∧
      ∀ other, Points X s other → other.key = key → other.pointerVersion ≤ pointer.pointerVersion
  | .ok none => required = false ∧ ∀ pointer, Points X s pointer → pointer.key ≠ key
  | .error error => faults ∨ required = true ∧ (∀ pointer, Points X s pointer → pointer.key ≠ key) ∧
      error = resourceNotFound (some (channelText key))

theorem absent_lookup {A : Type} {collection : Collection} {key : String} {required : Bool}
    {holds : A → Prop} (missing : faults ∨ s.row? collection key = none) :
    Lookup faults s collection key required holds (absent key required) := by
  unfold absent
  cases required with
  | false => exact ⟨rfl, missing⟩
  | true => exact missing.imp id fun missing => ⟨rfl, missing, rfl⟩

theorem lookup_of_served {A : Type} {collection : Collection} {key : String}
    (description : String) (required : Bool) {parse : Mapping → Except PyError A} {holds : A → Prop}
    (reads : ∀ row, t.row? collection key = some row →
      ∃ value, Reads collection parse row value ∧ holds value)
    {reply : Except PyError OperationResult}
    (answered : serving X faults (.structured (.get collection [(keyField collection, .str key)])) t
      reply u) :
    u = t ∧ Lookup faults t collection key required holds
      (readRecord parse description key required reply) := by
  rcases serving_plain answered trivial with ⟨same, name, named, conforms⟩ |
    ⟨faulted, error, failed, effect⟩
  · refine ⟨same, ?_⟩
    obtain rfl : key = name := by
      unfold keyOf at named
      rw [List.lookup_cons_self] at named
      exact Option.some.inj named
    cases held : t.row? collection key with
    | some row =>
      rw [held] at conforms
      obtain ⟨data, resources, rfl, presented⟩ := conforms
      obtain ⟨value, read, holding⟩ := reads row held
      rw [readRecord_presented read presented]
      exact holding
    | none =>
      rw [held] at conforms
      rcases conforms with ⟨resources, rfl⟩ | ⟨error, rfl, missing, -⟩
      · exact absent_lookup (Or.inr held)
      · change Lookup faults t collection key required holds (if _ then _ else _)
        rw [if_pos missing]
        exact absent_lookup (Or.inr held)
  · refine ⟨by rcases effect with same | ⟨other, same, -⟩ <;> exact same, ?_⟩
    rw [failed]
    change Lookup faults t collection key required holds (if _ then _ else _)
    split
    -- A fault may look like a missing record.
    · exact absent_lookup (Or.inl faulted)
    · exact Or.inl faulted

theorem safe_getResource {A : Type} {resourceId : String} {required : Bool}
    {next : Except PyError (Option (StoredResourceV1 X)) → Program (runtime X) A}
    {post : Postcondition (runtime X) World A} {history : List (Event (runtime X) World)}
    (rest : ∀ t, (following P first).invariant t → Changes P s t → ∀ event,
      event.before = t → event.after = t → ∀ result, Looked X faults t resourceId required result →
      (next result).Safe (following P first) (serving X faults) post (history ++ [event]) t) :
    ((StructuredM.lift (getResource X resourceId required) : PyM X _).run.bind next).Safe
      (following P first) (serving X faults) post history s := by
  intro t moved kept reply u answered
  have reads : ∀ row, t.row? .metadata resourceId = some row → ∃ resource : StoredResourceV1 X,
      Reads .metadata (parseResource X) row resource ∧
        (Stores t resource ∧ resource.resourceId = resourceId) := by
    intro row found
    obtain ⟨resource, holds, stores, keyed, -⟩ := kept.1.stores found
    exact ⟨resource, holds.reads, stores, keyed⟩
  obtain ⟨rfl, looked⟩ := lookup_of_served "structured resource result" required reads answered
  exact ⟨kept, .refl, rest u kept moved _ rfl rfl _ looked⟩

theorem matches_channelFilter {pointer : ResourceChannelV1} {row : Row}
    (values : row.values = pointer.toRecord X) (key : ChannelKey) :
    matchesFilter (channelFilter key) row = true ↔ pointer.key = key := by
  unfold matchesFilter
  rw [values]
  have fields : ∀ left right : ChannelKey, left = right ↔ left.namespace = right.namespace ∧
      left.kind = right.kind ∧ left.name = right.name ∧ left.channel = right.channel := by
    rintro ⟨⟩ ⟨⟩
    simp
  rw [fields]
  simp [channelFilter, entryOf, ResourceChannelFields.toRecord, List.lookup_cons]

/-- A row of the channels is read back as the pointer it holds. -/
theorem Consistent.points {key : String} {row : Row} (consistent : Consistent X t)
    (found : t.row? .channels key = some row) :
    ∃ pointer : ResourceChannelV1, Points X t pointer ∧ row.values = pointer.toRecord X ∧
      Reads .channels (parseChannel X) row pointer := by
  obtain ⟨pointer, values, version, rfl⟩ := consistent.channels key row found
  refine ⟨pointer, ⟨row, found, values, version⟩, values, ?_⟩
  obtain ⟨held, counted⟩ := row
  simp only at values version
  subst values
  have reads := reads_channel (X := X) pointer counted
  rwa [← version, pointer.withVersion_self] at reads

theorem Points.mem_rows {pointer : ResourceChannelV1} (points : Points X s pointer) :
    ∃ row ∈ s.rows .channels, row.values = pointer.toRecord X := by
  obtain ⟨row, found, values, -⟩ := points
  exact ⟨row, World.mem_rows.mpr ⟨_, found⟩, values⟩

theorem pageOf_pageData (items : List JsonValue) (reached total : Nat)
    (resources : List ResourceRef) (description : String) :
    ∃ cursor, pageOf ⟨pageData items (nextCursor X reached total), resources⟩ description =
      .ok (items, cursor) := by
  unfold nextCursor
  split
  · exact ⟨some (X.cursorAt reached), rfl⟩
  · exact ⟨none, rfl⟩

theorem readLatest_pageData {key : ChannelKey} {required : Bool} (items : List JsonValue)
    (reached total : Nat) (resources : List ResourceRef) :
    readLatest X key required ⟨pageData items (nextCursor X reached total), resources⟩ =
      match items with
      | [] => absent (channelText key) required
      | item :: _ => some <$> pageItem (parseChannel X) "channel page item" item := by
  obtain ⟨cursor, paged⟩ := pageOf_pageData (X := X) items reached total resources
    "structured channel query result"
  unfold readLatest
  rw [paged]
  rfl

theorem rowLe_pointers {pointer other : ResourceChannelV1} {row later : Row}
    (values : row.values = pointer.toRecord X) (others : later.values = other.toRecord X)
    (ordered : rowLe [⟨"pointerVersion", true⟩] row later = true) :
    other.pointerVersion ≤ pointer.pointerVersion := by
  unfold rowLe at ordered
  rw [values, others] at ordered
  simp only [entryOf, ResourceChannelFields.toRecord, List.lookup_cons, natJson, columnLe, rowLe] at ordered
  simp at ordered
  omega

theorem newest_of_served {key : ChannelKey} {required : Bool} (consistent : Consistent X t)
    {reply : Except PyError OperationResult}
    (answered : serving X faults (.structured (.query .channels (channelFilter key)
      [⟨"pointerVersion", true⟩] 1 none)) t reply u) :
    u = t ∧ Newest X faults t key required (reply >>= readLatest X key required) := by
  rcases serving_plain answered trivial with
    ⟨same, selected, items, resources, selection, sorted, shown, rfl⟩ |
    ⟨faulted, error, rfl, effect⟩
  · refine ⟨same, ?_⟩
    change Newest X faults t key required (readLatest X key required _)
    rw [readLatest_pageData]
    have chosen : ∀ pointer, Points X t pointer → pointer.key = key → ∃ row ∈ selected,
        row.values = pointer.toRecord X := by
      intro pointer points keyed
      obtain ⟨row, member, values⟩ := points.mem_rows
      have kept := (matches_channelFilter values key).mpr keyed
      exact ⟨row, selection.mem_iff.mpr (List.mem_filter.mpr ⟨member, kept⟩), values⟩
    cases selected with
    | nil =>
      cases shown
      have empty : ∀ pointer, Points X t pointer → pointer.key ≠ key := by
        intro pointer points keyed
        obtain ⟨row, member, -⟩ := chosen pointer points keyed
        cases member
      unfold absent
      cases required with
      | false => exact ⟨rfl, empty⟩
      | true => exact Or.inr ⟨rfl, empty, rfl⟩
    | cons row rest =>
      obtain ⟨item, others, ⟨name, found, presented⟩, -, rfl⟩ := List.forall₂_cons_left_iff.mp shown
      obtain ⟨pointer, points, values, reads⟩ := consistent.points found
      have member := List.mem_filter.mp (selection.mem_iff.mp List.mem_cons_self)
      have parsed : pageItem (parseChannel X) "channel page item" item = .ok pointer :=
        pageItem_presented reads presented
      change Newest X faults t key required (some <$> pageItem _ _ _)
      rw [parsed]
      refine ⟨points, (matches_channelFilter values key).mp member.2, ?_⟩
      intro other points' keyed
      obtain ⟨later, among, held⟩ := chosen other points' keyed
      rcases List.mem_cons.mp among with rfl | among
      · rw [values] at held
        have equal := congrArg (fun record => entryOf record "pointerVersion") held
        simp only [entryOf, ResourceChannelFields.toRecord, List.lookup_cons, natJson] at equal
        simp at equal
        omega
      · exact rowLe_pointers values held ((List.pairwise_cons.mp sorted).1 later among)
  · refine ⟨by rcases effect with same | ⟨other, same, -⟩ <;> exact same, ?_⟩
    exact Or.inl faulted

theorem safe_latestChannel {A : Type} {key : ChannelKey} {required : Bool}
    {next : Except PyError (Option ResourceChannelV1) → Program (runtime X) A}
    {post : Postcondition (runtime X) World A} {history : List (Event (runtime X) World)}
    (rest : ∀ t, (following P first).invariant t → Changes P s t → ∀ event,
      event.before = t → event.after = t → ∀ result, Newest X faults t key required result →
      (next result).Safe (following P first) (serving X faults) post (history ++ [event]) t) :
    ((StructuredM.lift (latestChannel X key required) : PyM X _).run.bind next).Safe
      (following P first) (serving X faults) post history s := by
  refine safe_call (run_latestChannel key required) ?_
  intro t moved kept reply u answered
  obtain ⟨rfl, newest⟩ := newest_of_served kept.1 answered
  exact ⟨kept, .refl, rest u kept moved _ rfl rfl _ newest⟩

/-- A put has inserted its record where no row was, whatever is reported of it, or
it has done nothing. -/
theorem put_of_served {collection : Collection} {data : Mapping} {key : String}
    (keyed : keyOf collection data = some key) {reply : Except PyError OperationResult}
    (answered : serving X faults (.structured (.put collection data)) t reply u) :
    (∃ version, t.row? collection key = none ∧ u = t.setRow collection key ⟨data, version⟩ ∧
      (Found X collection key ⟨data, version⟩ reply ∨ faults ∧ ∃ error, reply = .error error)) ∨
    u = t ∧ ∃ error, reply = .error error ∧
      (faults ∨ t.row? collection key ≠ none ∧ error.hasCategory .conflict = true) := by
  have settled : ∀ {reply : Except PyError OperationResult},
      conforming X (.put collection data) t reply u →
      (∃ version, t.row? collection key = none ∧ u = t.setRow collection key ⟨data, version⟩ ∧
        Found X collection key ⟨data, version⟩ reply) ∨
      u = t ∧ t.row? collection key ≠ none ∧ Fails .conflict reply := by
    rintro reply ⟨name, named, conforms⟩
    obtain rfl : key = name := Option.some.inj (keyed.symm.trans named)
    cases held : t.row? collection key with
    | some row =>
      rw [held] at conforms
      exact Or.inr ⟨conforms.1, by simp, conforms.2⟩
    | none =>
      rw [held] at conforms
      obtain ⟨version, -, changed, found⟩ := conforms
      exact Or.inl ⟨version, rfl, changed, found⟩
  -- A put that fails may have taken effect all the same.
  rcases serving_plain answered trivial with conforms | ⟨faulted, error, failed, same | ⟨_, conforms⟩⟩
  · rcases settled conforms with ⟨version, absent, changed, found⟩ |
      ⟨same, present, error, failed, conflict, -⟩
    · exact Or.inl ⟨version, absent, changed, Or.inl found⟩
    · exact Or.inr ⟨same, error, failed, Or.inr ⟨present, conflict⟩⟩
  · exact Or.inr ⟨same, error, failed, Or.inl faulted⟩
  · rcases settled conforms with ⟨version, absent, changed, -⟩ | ⟨same, -⟩
    · exact Or.inl ⟨version, absent, changed, Or.inr ⟨faulted, error, failed⟩⟩
    · exact Or.inr ⟨same, error, failed, Or.inl faulted⟩

/-- What putting a pointer tells, and what it has changed. -/
def Pointed (X : Platform) (faults : Prop) (requested : ResourceChannelV1) (t u : World) :
    Except PyError ResourceChannelV1 → Prop
  | .ok winner => ∃ version, t.row? .channels (requested.channelVersionId X) = none ∧
      u = t.promote X requested version ∧ winner = requested.withVersion (some version)
  | .error error => faults ∨ u = t ∧ t.row? .channels (requested.channelVersionId X) ≠ none ∧
      error.hasCategory .conflict = true

theorem run_putChannel (pointer : ResourceChannelV1) :
    (StructuredM.lift (putChannel X pointer) : PyM X _).run =
      .call (.structured (.put .channels (pointer.toRecord X))) fun reply => .done (reply >>=
        fun result => recordOf result "structured channel put result" >>= parseChannel X) := by
  apply congrArg (Program.call _)
  funext reply
  cases reply <;> rfl

theorem safe_putChannel {A : Type} {requested : ResourceChannelV1}
    {next : Except PyError ResourceChannelV1 → Program (runtime X) A}
    {post : Postcondition (runtime X) World A} {history : List (Event (runtime X) World)}
    (follows : ∀ t, Changes P s t → Follows X t requested)
    (target : ∀ t, Changes P s t → P.live → HasTarget X t requested)
    (rest : ∀ t u, (following P first).invariant t → (following P first).invariant u →
      Changes P s t → ∀ event, event.before = t → event.after = u →
      ∀ result, Pointed X faults requested t u result →
      (next result).Safe (following P first) (serving X faults) post (history ++ [event]) u) :
    ((StructuredM.lift (putChannel X requested) : PyM X _).run.bind next).Safe
      (following P first) (serving X faults) post history s := by
  refine safe_call (run_putChannel requested) ?_
  intro t moved kept reply u answered
  rcases put_of_served (keyOf_channel requested) answered with
    ⟨version, absent, rfl, reported⟩ | ⟨rfl, error, rfl, reason⟩
  · have change : Change P t (t.promote X requested version) :=
      .promoted absent (follows t moved) (target t moved)
    have step := following_step kept change
    refine ⟨step.1, step.2, rest t _ kept step.1 moved _ rfl rfl _ ?_⟩
    rcases reported with ⟨data, resources, rfl, presented⟩ | ⟨faulted, error, rfl⟩
    · have read : (recordOf ⟨data, resources⟩ "structured channel put result" >>= parseChannel X) =
          .ok (requested.withVersion (some version)) :=
        recordOf_presented (reads_channel requested version) presented
      change Pointed X faults requested t _ (recordOf _ _ >>= parseChannel X)
      rw [read]
      exact ⟨version, absent, rfl, rfl⟩
    · exact Or.inl faulted
  · refine ⟨kept, .refl, rest u u kept kept moved _ rfl rfl _ ?_⟩
    exact reason.imp id fun conflict => ⟨rfl, conflict⟩

/-- What reading the clock tells. -/
def Timed (faults : Prop) : Except PyError String → Prop
  | .ok text => ∃ time, utcTimestampOfDatetime time = .ok text
  | .error _ => faults

theorem run_currentTimestamp :
    (currentTimestamp : PyM X String).run =
      .call (.clock : Call X) fun reply => .done (reply >>= utcTimestampOfDatetime) := by
  apply congrArg (Program.call _)
  funext reply
  cases reply <;> rfl

theorem timed_of_reading {reply : Except PyError DateTime} (reading : IsReading reply) :
    Timed faults (reply >>= utcTimestampOfDatetime) := by
  obtain ⟨time, rfl, accepted⟩ := reading
  change Timed faults (utcTimestampOfDatetime time)
  cases written : utcTimestampOfDatetime time with
  | ok text => exact ⟨time, written⟩
  | error error =>
    rw [written] at accepted
    cases accepted

theorem safe_currentTimestamp {A : Type} {next : Except PyError String → Program (runtime X) A}
    {post : Postcondition (runtime X) World A} {history : List (Event (runtime X) World)}
    (rest : ∀ t, (following P first).invariant t → Changes P s t → ∀ event,
      event.before = t → event.after = t → ∀ result, Timed faults result →
      (next result).Safe (following P first) (serving X faults) post (history ++ [event]) t) :
    ((currentTimestamp : PyM X String).run.bind next).Safe (following P first) (serving X faults)
      post history s := by
  refine safe_call run_currentTimestamp ?_
  intro t moved kept reply u answered
  rcases serving_plain answered trivial with ⟨rfl, reading⟩ | ⟨faulted, error, rfl, effect⟩
  · exact ⟨kept, .refl, rest u kept moved _ rfl rfl _ (timed_of_reading reading)⟩
  · obtain rfl : u = t := by rcases effect with same | ⟨_, same, -⟩ <;> exact same
    exact ⟨kept, .refl, rest u kept moved _ rfl rfl _ faulted⟩

end ConfigArtifact
