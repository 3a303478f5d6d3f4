import ConfigArtifact.Interaction.Execution
import ConfigArtifact.Store.Conforming
import Mathlib.Algebra.GroupWithZero.Nat
import Mathlib.Algebra.Order.BigOperators.Group.List

/-! Stores that answer every call the package issues.

A deployment is run by choosing what the environment leaves open: the record
versions, the shape of the answers, the tokens of payloads, the time, and the
bytes a payload delivers. The choices conform, so every call can be answered and
what is computed with them is one of the executions of the package.
-/

set_option autoImplicit false

namespace ConfigArtifact

open Interaction

variable (X : Platform)

/-- An error of a store. -/
def storeError (type : ErrorType) (category : ErrorCategory) : PyError :=
  .meridian { type, code := type.name, category, message := "store error" }

def noRow : PyError := storeError (.external "NotFound") .notFound
def rowExists : PyError := storeError (.external "Conflict") .conflict
def noObject : PyError := storeError .objectNotFound .notFound
def objectExists : PyError := storeError .immutableObjectConflict .conflict
def malformed : PyError := .other "MalformedCall"

/-- A row as the reference stores present it. -/
def presented (collection : Collection) (key : String) (row : Row) : JsonValue :=
  .object (present X collection key row (.bare []))

/-- A version a row has not had so far. -/
def renewed : RecordVersion → RecordVersion
  | .text _ => .number 1
  | .number value => .number (value.natAbs + 1)

/-- The entries a query selects, in the order it asks for. -/
def selectedEntries (world : World) (collection : Collection) (filter : Mapping)
    (orderBy : List OrderBy) : List ((_ : String) × Row) :=
  ((world.tables collection).entries.filter fun entry => matchesFilter filter entry.2).insertionSort
    fun left right => rowLe orderBy left.2 right.2 = true

def answerStructured : Answers structured World
  | .get collection filter, world =>
    match keyOf collection filter with
    | none => (.error malformed, world)
    | some key =>
      match world.row? collection key with
      | none => (.error noRow, world)
      | some row => (.ok ⟨presented X collection key row, [X.collectionRef collection]⟩, world)
  | .put collection data, world =>
    match keyOf collection data with
    | none => (.error malformed, world)
    | some key =>
      match world.row? collection key with
      | some _ => (.error rowExists, world)
      | none =>
        (.ok ⟨presented X collection key ⟨data, .number 1⟩, [X.collectionRef collection]⟩,
          world.setRow collection key ⟨data, .number 1⟩)
  | .patch collection filter changes expected, world =>
    match keyOf collection filter with
    | none => (.error malformed, world)
    | some key =>
      match world.row? collection key with
      | none => (.error noRow, world)
      | some row =>
        if row.version = expected then
          let patched : Row := ⟨applyChanges row.values changes, renewed row.version⟩
          (.ok ⟨.array [presented X collection key patched], [X.collectionRef collection]⟩,
            world.setRow collection key patched)
        else (.error rowExists, world)
  | .query collection filter orderBy limit cursor, world =>
    match offsetOf X cursor with
    | none => (.error malformed, world)
    | some offset =>
      let selected := selectedEntries world collection filter orderBy
      (.ok ⟨pageData (((selected.drop offset).take limit.toNat).map fun entry =>
          presented X collection entry.1 entry.2)
        (nextCursor X (offset + limit.toNat) selected.length), [X.collectionRef collection]⟩, world)

/-- A token that no payload has. -/
def freshToken (world : World) : String :=
  String.ofList (List.replicate ((world.payloads.keys.map String.length).sum + 1) 't')

theorem freshToken_fresh (world : World) : world.payload? (freshToken world) = none := by
  refine AList.lookup_eq_none.mpr fun member => ?_
  have longer : (freshToken world).length ≤ (world.payloads.keys.map String.length).sum :=
    List.le_sum_of_mem
      (List.mem_map_of_mem (AList.mem_keys.mp member))
  unfold freshToken at longer
  rw [String.length_ofList, List.length_replicate] at longer
  omega

/-- The bytes a payload delivers, where it delivers any. -/
abbrev Delivery := World → PayloadReference → Option Bytes

def answerObjects (deliver : Delivery) : Answers objectCatalog World
  | .put objectId payload mediaType digest length userMetadata creationContext provenance, world =>
    let metadata := committedMetadata X objectId digest length mediaType userMetadata
      creationContext provenance
    match X.checkMetadata metadata, deliver world payload with
    | .error error, _ => (.error error, world)
    | .ok (), none => (.error malformed, world)
    | .ok (), some content =>
      if X.digestOf content = digest ∧ content.length = length then
        match world.object? objectId with
        | some _ => (.error objectExists, world)
        | none =>
          (.ok ⟨.object (objectData X metadata), []⟩, world.setObject objectId ⟨metadata, content⟩)
      else (.error malformed, world)
  | .stat reference, world =>
    match world.find? reference with
    | none => (.error noObject, world)
    | some object => (.ok ⟨.object (objectData X object.metadata), []⟩, world)
  | .get reference, world =>
    match world.find? reference with
    | none => (.error noObject, world)
    | some object =>
      let token := freshToken world
      (.ok ⟨.object (objectData X object.metadata ++ [("payload",
          .object (X.payloadReferenceToDict ⟨token, some object.metadata.digest,
            some object.metadata.byteLength⟩))]), []⟩,
        world.setPayload token (.ofBytes object.content))
  | .readRange _ _, world => (.error malformed, world)
  | .list start limit cursor, world =>
    match offsetOf X cursor with
    | none => (.error malformed, world)
    | some offset =>
      (.ok ⟨pageData (((world.listed start).drop offset |>.take limit.toNat).map fun metadata =>
          .object (X.objectMetadataToDict metadata))
        (nextCursor X (offset + limit.toNat) (world.listed start).length), []⟩, world)

def answerTransaction {A : Type} (body : Program structured (Except PyError A)) (world : World) :
    Except PyError A × World :=
  match body.execute (answerStructured X) world with
  | (.ok value, after) => (.ok value, after)
  | (.error error, _) => (.error error, world)

/-- The start of the year 2026. -/
def referenceTime : DateTime :=
  ⟨⟨2026, 1, 1, 0, 0, 0, 0, by decide, by decide, by decide, by decide, by decide, by decide,
    by decide⟩, some 0, by decide⟩

def answer (deliver : Delivery) : Answers (runtime X) World
  | .structured call, world => answerStructured X call world
  | .object call, world => answerObjects X deliver call world
  | .transaction body, world => answerTransaction X body world
  | .clock, world => (.ok referenceTime, world)
  | .utcNow, world => (.ok referenceTime, world)
  | .validate payload schema, world =>
    (X.validate payload schema.namespace schema.name schema.version, world)
  | .registerPayload source digest length, world =>
    (.ok ⟨freshToken world, some digest, some (length : Int)⟩,
      world.setPayload (freshToken world) source)
  | .openPayload payload, world =>
    match deliver world payload with
    | none => (.error malformed, world)
    | some content => (.ok (.ofBytes content), world)
  | .releasePayload _, world => (.ok (), world)

variable {X}

/-- An order of integers or texts, in either direction. -/
def directed {A : Type} [LE A] (descending : Bool) (left right : A) : Prop :=
  if descending then right ≤ left else left ≤ right

theorem directed_trans {A : Type} [Preorder A] {descending : Bool} {first second third : A}
    (one : directed descending first second) (two : directed descending second third) :
    directed descending first third := by
  cases descending with
  | false => exact le_trans one two
  | true => exact le_trans two one

theorem columnLe_iff {descending : Bool} {left right : JsonValue} :
    columnLe descending left right = true ↔ columnRank left ≤ columnRank right ∧
      (∀ a b, left = .int a → right = .int b → directed descending a b) ∧
      ∀ a b, left = .str a → right = .str b → directed descending a b := by
  cases left <;> cases right <;> cases descending <;> simp [columnLe, columnRank, directed]

theorem columnLe_total (descending : Bool) (left right : JsonValue) :
    columnLe descending left right = true ∨ columnLe descending right left = true := by
  have ranked := Nat.le_total (columnRank left) (columnRank right)
  cases left <;> cases right <;> cases descending <;>
    simp [columnLe, columnRank, le_total] at ranked ⊢

theorem columnLe_trans {descending : Bool} {first second third : JsonValue}
    (one : columnLe descending first second = true) (two : columnLe descending second third = true) :
    columnLe descending first third = true := by
  rw [columnLe_iff] at *
  -- Values of one kind at both ends have a value of that kind between them.
  refine ⟨one.1.trans two.1, ?_, ?_⟩
  · rintro a c rfl rfl
    have ranked := And.intro one.1 two.1
    cases second <;> simp [columnRank] at ranked
    exact directed_trans (one.2.1 _ _ rfl rfl) (two.2.1 _ _ rfl rfl)
  · rintro a c rfl rfl
    have ranked := And.intro one.1 two.1
    cases second <;> simp [columnRank] at ranked
    exact directed_trans (one.2.2 _ _ rfl rfl) (two.2.2 _ _ rfl rfl)

theorem rowLe_total (orders : List OrderBy) (left right : Row) :
    rowLe orders left right = true ∨ rowLe orders right left = true := by
  induction orders with
  | nil => exact Or.inl rfl
  | cons order rest ih =>
    unfold rowLe
    simp only [Bool.and_eq_true, Bool.or_eq_true, Bool.not_eq_true']
    have total := columnLe_total order.descending (entryOf left.values order.field)
      (entryOf right.values order.field)
    grind

theorem rowLe_trans {orders : List OrderBy} {first second third : Row}
    (one : rowLe orders first second = true) (two : rowLe orders second third = true) :
    rowLe orders first third = true := by
  induction orders with
  | nil => rfl
  | cons order rest ih =>
    unfold rowLe at one two ⊢
    simp only [Bool.and_eq_true, Bool.or_eq_true, Bool.not_eq_true'] at one two ⊢
    refine ⟨columnLe_trans one.1 two.1, ?_⟩
    by_cases tied : columnLe order.descending (entryOf third.values order.field)
        (entryOf first.values order.field) = true
    · -- A tie between the ends is a tie with what is between them.
      have back := columnLe_trans two.1 tied
      have again := columnLe_trans tied one.1
      refine Or.inr (ih (one.2.resolve_left ?_) (two.2.resolve_left ?_))
      · rw [back]
        decide
      · rw [again]
        decide
    · exact Or.inl (Bool.not_eq_true _ ▸ tied)

/-- A structured call that names the row it is about. -/
def StructuredCall.IsKeyed : StructuredCall → Prop
  | .get collection filter | .patch collection filter _ _ => ∃ key, keyOf collection filter = some key
  | .put collection data => ∃ key, keyOf collection data = some key
  | .query .. => True

theorem presents_presented (collection : Collection) (key : String) (row : Row) :
    Presents X collection key row (presented X collection key row) :=
  ⟨.bare [], ⟨List.nil_sublist _, fun _ member => by cases member⟩, rfl⟩

theorem renewed_valid (version : RecordVersion) :
    (renewed version).IsValid ∧ renewed version ≠ version := by
  cases version with
  | text value => exact ⟨Int.le.intro_sub 1 rfl, by rintro ⟨⟩⟩
  | number value =>
    refine ⟨(by omega : (0 : Int) ≤ value.natAbs + 1), fun same => ?_⟩
    have := RecordVersion.number.inj same
    omega

theorem selectedEntries_perm (world : World) (collection : Collection) (filter : Mapping)
    (orderBy : List OrderBy) :
    ((selectedEntries world collection filter orderBy).map Sigma.snd).Perm
      ((world.rows collection).filter (matchesFilter filter)) := by
  unfold World.rows
  rw [List.filter_map]
  exact (List.perm_insertionSort _ _).map _

theorem selectedEntries_sorted (world : World) (collection : Collection) (filter : Mapping)
    (orderBy : List OrderBy) :
    ((selectedEntries world collection filter orderBy).map Sigma.snd).Pairwise
      fun left right => rowLe orderBy left right = true := by
  let ordered (left right : (_ : String) × Row) : Prop := rowLe orderBy left.2 right.2 = true
  have : Std.Total ordered := ⟨fun left right => rowLe_total orderBy left.2 right.2⟩
  have : IsTrans _ ordered := ⟨fun _ _ _ => rowLe_trans⟩
  exact List.pairwise_map.mpr (List.pairwise_insertionSort ordered _)

theorem mem_selectedEntries {world : World} {collection : Collection} {filter : Mapping}
    {orderBy : List OrderBy} {entry : (_ : String) × Row}
    (member : entry ∈ selectedEntries world collection filter orderBy) :
    world.row? collection entry.1 = some entry.2 :=
  AList.mem_lookup_iff.mpr
    (List.mem_filter.mp ((List.perm_insertionSort _ _).mem_iff.mp member)).1

theorem answerStructured_conform :
    (answerStructured X).Conform (conforming X) StructuredCall.IsKeyed fun _ => True where
  kept := fun _ _ _ _ => trivial
  answered := by
    intro call world keyed _
    cases call with
    | get collection filter =>
      obtain ⟨key, named⟩ := keyed
      simp only [answerStructured, named]
      cases held : world.row? collection key with
      | none =>
        refine ⟨rfl, key, named, ?_⟩
        rw [held]
        exact Or.inr ⟨noRow, rfl, rfl, rfl⟩
      | some row =>
        refine ⟨rfl, key, named, ?_⟩
        rw [held]
        exact ⟨_, _, rfl, presents_presented collection key row⟩
    | put collection data =>
      obtain ⟨key, named⟩ := keyed
      simp only [answerStructured, named]
      cases held : world.row? collection key with
      | none =>
        refine ⟨key, named, ?_⟩
        rw [held]
        exact ⟨.number 1, Int.one_nonneg, rfl, _, _, rfl, presents_presented collection key _⟩
      | some row =>
        refine ⟨key, named, ?_⟩
        rw [held]
        exact ⟨rfl, rowExists, rfl, rfl, rfl⟩
    | patch collection filter changes expected =>
      obtain ⟨key, named⟩ := keyed
      simp only [answerStructured, named]
      cases held : world.row? collection key with
      | none =>
        refine ⟨key, named, ?_⟩
        rw [held]
        exact ⟨rfl, noRow, rfl, rfl, rfl⟩
      | some row =>
        refine ⟨key, named, ?_⟩
        rw [held]
        dsimp only
        by_cases current : row.version = expected
        · rw [if_pos current, if_pos current]
          have renewal := renewed_valid row.version
          exact ⟨_, _, renewal.1, renewal.2, rfl, presents_presented collection key _, rfl⟩
        · rw [if_neg current, if_neg current]
          exact ⟨rfl, rowExists, rfl, rfl, rfl⟩
    | query collection filter orderBy limit cursor =>
      simp only [answerStructured]
      cases started : offsetOf X cursor with
      | none =>
        refine ⟨rfl, ?_⟩
        rw [started]
        exact ⟨malformed, rfl⟩
      | some offset =>
        refine ⟨rfl, ?_⟩
        rw [started]
        refine ⟨_, _, _, selectedEntries_perm world collection filter orderBy,
          selectedEntries_sorted world collection filter orderBy, ?_, by rw [List.length_map]⟩
        rw [← List.map_drop, ← List.map_take, List.forall₂_map_left_iff, List.forall₂_map_right_iff]
        refine List.forall₂_same.mpr fun entry member => ?_
        have among := List.mem_of_mem_drop (List.mem_of_mem_take member)
        exact ⟨entry.1, mem_selectedEntries among, presents_presented collection entry.1 entry.2⟩

/-- The bytes a delivery chooses are delivered, and it chooses some where there are any. -/
def Delivery.IsFaithful (deliver : Delivery) (world : World) : Prop :=
  ∀ payload, (∀ content, deliver world payload = some content → Delivers world payload content) ∧
    (deliver world payload = none → ¬∃ content, Delivers world payload content)

section

variable {deliver : Delivery} {world : World}

theorem answerObjects_answered (faithful : deliver.IsFaithful world) (call : ObjectCall) :
    conformingObjects X call world (answerObjects X deliver call world).1
      (answerObjects X deliver call world).2 := by
  cases call with
  | put objectId payload mediaType digest length userMetadata creationContext provenance =>
    obtain ⟨delivered, undelivered⟩ := faithful payload
    simp only [answerObjects]
    cases checked : X.checkMetadata (committedMetadata X objectId digest length mediaType
        userMetadata creationContext provenance) with
    | error error => exact Or.inr ⟨error, checked, rfl, rfl⟩
    | ok accepted =>
      refine Or.inl ⟨checked, ?_⟩
      cases chosen : deliver world payload with
      | none =>
        exact Or.inr (Or.inr ⟨rfl, fun replayable => undelivered chosen replayable.1, malformed, rfl⟩)
      | some content =>
        have delivers := delivered content chosen
        dsimp only
        by_cases intact : X.digestOf content = digest ∧ content.length = length
        · rw [if_pos intact]
          cases held : world.object? objectId with
          | none => exact Or.inl ⟨content, [], delivers, intact, rfl, rfl, rfl⟩
          | some object =>
            exact Or.inr (Or.inl ⟨rfl, by simp, objectExists, rfl, rfl⟩)
        -- Bytes that are not the declared ones are refused, also where they might have been.
        · rw [if_neg intact]
          refine Or.inr (Or.inr ⟨rfl, fun replayable => ?_, malformed, rfl⟩)
          exact intact (replayable.2 content delivers)
  | stat reference =>
    simp only [answerObjects]
    cases held : world.find? reference with
    | none =>
      refine ⟨rfl, ?_⟩
      rw [held]
      exact ⟨noObject, rfl, rfl⟩
    | some object =>
      refine ⟨rfl, ?_⟩
      rw [held]
      exact ⟨[], rfl⟩
  | get reference =>
    cases held : world.find? reference with
    | none =>
      simp only [conformingObjects, answerObjects, held]
      exact ⟨trivial, noObject, rfl, rfl⟩
    | some object =>
      simp only [conformingObjects, answerObjects, held]
      exact ⟨freshToken world, [], freshToken_fresh world, rfl, rfl⟩
  | readRange reference range => exact Or.inl rfl
  | list start limit cursor =>
    simp only [answerObjects]
    cases started : offsetOf X cursor with
    | none =>
      refine ⟨rfl, ?_⟩
      rw [started]
      exact ⟨malformed, rfl⟩
    | some offset =>
      refine ⟨rfl, ?_⟩
      rw [started]
      exact ⟨[], rfl⟩

theorem answerTransaction_answered {A : Type} {body : Program structured (Except PyError A)}
    (keyed : body.Uses StructuredCall.IsKeyed) (world : World) :
    Transacts (conforming X) body world (answerTransaction X body world).1
      (answerTransaction X body world).2 := by
  have runs := (Program.runs_execute (answerStructured_conform (X := X)) keyed
    (s := world) trivial).1
  unfold answerTransaction
  cases ended : body.execute (answerStructured X) world with
  | mk result after =>
    rw [ended] at runs
    cases result with
    | ok value => exact ⟨after, runs, rfl⟩
    | error error => exact ⟨after, runs, rfl⟩

/-- A call that can always be answered: the structured calls in it name their rows. -/
def Call.IsAnswerable : Call X → Prop
  | .structured call => call.IsKeyed
  | .transaction body => body.Uses StructuredCall.IsKeyed
  | _ => True

theorem referenceTime_reading : IsReading (.ok referenceTime) := ⟨_, rfl, by decide⟩

theorem answer_answered (faithful : deliver.IsFaithful world) {call : Call X}
    (answerable : call.IsAnswerable) :
    reliable X call world (answer X deliver call world).1 (answer X deliver call world).2 := by
  cases call with
  | structured call => exact answerStructured_conform.answered call world answerable trivial
  | object call => exact answerObjects_answered faithful call
  | transaction body => exact answerTransaction_answered answerable world
  | clock => exact ⟨rfl, referenceTime_reading⟩
  | utcNow => exact ⟨rfl, referenceTime_reading⟩
  | validate payload schema => exact ⟨rfl, rfl⟩
  | registerPayload source digest length =>
    exact ⟨freshToken world, freshToken_fresh world, rfl, rfl⟩
  | openPayload payload =>
    obtain ⟨delivered, undelivered⟩ := faithful payload
    simp only [answer]
    cases chosen : deliver world payload with
    | none => exact ⟨rfl, Or.inr ⟨undelivered chosen, malformed, rfl⟩⟩
    | some content => exact ⟨rfl, Or.inl ⟨content, delivered content chosen, rfl⟩⟩
  | releasePayload payload => exact ⟨rfl, rfl⟩

end

open Classical in
/-- A delivery of whatever a payload may yield. -/
noncomputable def Delivery.any : Delivery := fun world payload =>
  if delivered : ∃ content, Delivers world payload content then some delivered.choose else none

theorem Delivery.any_faithful (world : World) : Delivery.any.IsFaithful world := by
  intro payload
  unfold Delivery.any
  constructor
  · intro content chosen
    split at chosen
    · next delivered =>
      cases chosen
      exact delivered.choose_spec
    · cases chosen
  · intro none
    split at none
    · cases none
    · assumption

/-- Every call the package issues can be answered, in every state. -/
theorem answer_any : (answer X Delivery.any).Conform (reliable X) Call.IsAnswerable fun _ => True where
  answered := fun _ world answerable _ => answer_answered (Delivery.any_faithful world) answerable
  kept := fun _ _ _ _ => trivial

/-- The same bytes for every payload that is registered. -/
def Delivery.constant (content : Bytes) : Delivery := fun world payload =>
  if (world.payload? payload.token).isSome then some content else none

/-- Every registered payload yields the same bytes. -/
def IsUniform (content : Bytes) (world : World) : Prop :=
  ∀ token source, world.payload? token = some source → source = .ofBytes content

theorem isUniform_empty (content : Bytes) : IsUniform content World.empty :=
  fun _ _ found => by cases found

theorem IsUniform.faithful {content : Bytes} {world : World} (uniform : IsUniform content world) :
    (Delivery.constant content).IsFaithful world := by
  intro payload
  unfold Delivery.constant
  constructor
  · intro other chosen
    split at chosen
    · next present =>
      cases chosen
      obtain ⟨source, found⟩ := Option.isSome_iff_exists.mp present
      refine ⟨source, found, ?_⟩
      rw [uniform _ _ found]
      rfl
    · cases chosen
  · rintro none ⟨other, source, found, -⟩
    rw [found] at none
    cases none

theorem answerStructured_payloads (call : StructuredCall) (world : World) :
    (answerStructured X call world).2.payloads = world.payloads := by
  cases call <;> simp only [answerStructured] <;> repeat' split
  all_goals rfl

theorem execute_payloads {A : Type} (body : Program structured A) (world : World) :
    (body.execute (answerStructured X) world).2.payloads = world.payloads := by
  induction body generalizing world with
  | done value => rfl
  | call request resume ih => exact (ih _ _).trans (answerStructured_payloads request world)

/-- An answerable call that brings no other bytes with it. -/
def Call.Carries (content : Bytes) : Call X → Prop
  | .registerPayload source _ _ => source = .ofBytes content
  | .object (.get _) => False
  | call => call.IsAnswerable

theorem Call.Carries.answerable {content : Bytes} {call : Call X} (carries : call.Carries content) :
    call.IsAnswerable := by
  unfold Call.Carries at carries
  split at carries
  · trivial
  · trivial
  · exact carries

theorem answer_constant (content : Bytes) :
    (answer X (.constant content)).Conform (reliable X) (Call.Carries content)
      (IsUniform content) where
  answered := fun _ _ carries uniform => answer_answered uniform.faithful carries.answerable
  kept := by
    intro call world carries uniform token source found
    have same : (answer X (.constant content) call world).2.payloads = world.payloads →
        source = .ofBytes content := fun same =>
      uniform token source (by unfold World.payload? at found ⊢; rwa [same] at found)
    cases call with
    | structured call => exact same (answerStructured_payloads call world)
    | transaction body =>
      refine same ?_
      have kept := execute_payloads (X := X) body world
      simp only [answer, answerTransaction]
      split
      · next executed => rw [executed] at kept; exact kept
      · rfl
    | object call =>
      cases call with
      | get reference => cases carries
      | put objectId payload mediaType digest length userMetadata creationContext provenance =>
        refine same ?_
        simp only [answer, answerObjects]
        repeat' split
        all_goals rfl
      | stat reference =>
        refine same ?_
        simp only [answer, answerObjects]
        split <;> rfl
      | readRange reference range => exact same rfl
      | list start limit cursor =>
        refine same ?_
        simp only [answer, answerObjects]
        split <;> rfl
    | clock => exact same rfl
    | utcNow => exact same rfl
    | validate payload schema => exact same rfl
    | registerPayload added digest length =>
      change (world.setPayload (freshToken world) added).payload? token = some source at found
      rw [World.payload?_setPayload] at found
      split at found
      · cases found
        exact carries
      · exact uniform token source found
    | openPayload payload =>
      refine same ?_
      simp only [answer]
      split <;> rfl
    | releasePayload payload => exact same rfl

end ConfigArtifact
