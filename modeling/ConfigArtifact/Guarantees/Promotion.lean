import ConfigArtifact.Guarantees.Deprecation
import ConfigArtifact.Operations.Alone.Promotion

/-! What promotion makes of an answer it cannot trust.

The pointer is put outside any transaction, and the answer to the put is read
after the row is there. An answer that is not the requested pointer is then
raised over a row that stays, or returned in its place.
-/

set_option autoImplicit false

namespace ConfigArtifact

open Interaction Fallible MetadataRepository ChannelRepository

variable {X : Platform} {s t : World}

/-- Stores that conform, but answer a put of a pointer with a given value. They have
inserted the row or not; where they have not they may also report a conflict. -/
def answering (X : Platform) (given : OperationResult) : Environment (runtime X) World
  | .structured (.put .channels data), before, reply, after =>
    (∃ key version, keyOf .channels data = some key ∧ before.row? .channels key = none ∧
      after = before.setRow .channels key ⟨data, version⟩ ∧ reply = .ok given) ∨
    after = before ∧ (reply = .ok given ∨ Fails .conflict reply)
  | request, before, reply, after => reliable X request before reply after

/-- Of these, the stores that insert the row wherever none is. -/
def inserting (X : Platform) (given : OperationResult) : Environment (runtime X) World
  | .structured (.put .channels data), before, reply, after =>
    reply = .ok given ∧ ∃ key version, keyOf .channels data = some key ∧
      after = if before.row? .channels key = none then before.setRow .channels key ⟨data, version⟩
        else before
  | request, before, reply, after => reliable X request before reply after

/-- How an inserting store answers. -/
noncomputable def insertingAnswers (X : Platform) (given : OperationResult) :
    Answers (runtime X) World
  | .structured (.put .channels data), before =>
    (.ok given, match keyOf .channels data with
      | none => before
      | some key => if before.row? .channels key = none then
          before.setRow .channels key ⟨data, .number 1⟩ else before)
  | request, before => answer X Delivery.any request before

theorem answering_honest (given : OperationResult) : Honest (answering X given) := by
  intro request before reply after other answered
  unfold answering at answered
  split at answered
  · exact absurd rfl (other _)
  · exact answered

theorem inserting_other {given : OperationResult} {request : Call X} {before after : World}
    {reply : Except PyError request.Result}
    (other : ∀ data, request ≠ .structured (.put .channels data)) :
    inserting X given request before reply after = reliable X request before reply after := by
  unfold inserting
  split
  · exact absurd rfl (other _)
  · rfl

theorem inserting_honest (given : OperationResult) : Honest (inserting X given) :=
  fun _ _ _ _ other answered => by rwa [inserting_other other] at answered

theorem insertingAnswers_other {given : OperationResult} {request : Call X} {before : World}
    (other : ∀ data, request ≠ .structured (.put .channels data)) :
    insertingAnswers X given request before = answer X Delivery.any request before := by
  unfold insertingAnswers
  split
  · exact absurd rfl (other _)
  · rfl

theorem answering_of_inserting {given : OperationResult} (request : Call X) (before : World)
    (reply : Except PyError request.Result) (after : World)
    (answered : inserting X given request before reply after) :
    answering X given request before reply after := by
  unfold inserting at answered
  unfold answering
  split
  · obtain ⟨rfl, key, version, keyed, rfl⟩ := answered
    by_cases absent : before.row? .channels key = none
    · rw [if_pos absent]
      exact Or.inl ⟨key, version, keyed, absent, rfl, rfl⟩
    · rw [if_neg absent]
      exact Or.inr ⟨rfl, Or.inl rfl⟩
  · simpa using answered

theorem insertingAnswers_conform (given : OperationResult) :
    (insertingAnswers X given).Conform (inserting X given) Call.IsAnswerable fun _ => True where
  answered := by
    intro request before answerable _
    by_cases puts : ∃ data, request = .structured (.put .channels data)
    · obtain ⟨data, rfl⟩ := puts
      obtain ⟨key, keyed⟩ := answerable
      refine ⟨rfl, key, .number 1, keyed, ?_⟩
      simp only [insertingAnswers]
      rw [keyed]
    · have other : ∀ data, request ≠ .structured (.put .channels data) :=
        fun data same => puts ⟨data, same⟩
      rw [inserting_other other, insertingAnswers_other other]
      exact answer_any.answered request before answerable trivial
  kept := fun _ _ _ _ => trivial

section

variable {target : PromotionTarget X} {channel expectedPointerVersion actor : JsonValue}
  {profile : Option ResourceProfile} {resource : StoredResourceV1 X} {key : ChannelKey}
  {version : Nat} {given : OperationResult}

/-- The caller has the pointer it asked for, or no pointer was added. -/
def AllOrNothing (s : World) (target : PromotionTarget X)
    (channel expectedPointerVersion : JsonValue) (result : Except PyError ResourceChannelV1)
    (t : World) : Prop :=
  match result with
  | .ok pointer => ∃ resource expected, Targets s resource target ∧
      expectedPointer expectedPointerVersion = .ok expected ∧ channel = .str pointer.key.channel ∧
      IsRequested resource (channelOf resource pointer.key.channel) (expected + 1) pointer
  | .error _ => t.tables .channels = s.tables .channels

/-- How the answer to a put of a pointer is read. -/
def readPointer (X : Platform) (given : OperationResult) : Except PyError ResourceChannelV1 :=
  recordOf given "structured channel put result" >>= parseChannel X

/-- The value is read as the pointer that was put. Where no row can have been
inserted, a value that raises will do as well. -/
def Acknowledges (s : World) (given : OperationResult) (resource : StoredResourceV1 X)
    (key : ChannelKey) (version : Nat) : Prop :=
  (∀ pointer, readPointer X given = .ok pointer → pointer.targetResourceId = resource.resourceId →
    IsRequested resource key version pointer) ∧
  (s.row? .channels (channelVersionId X key.namespace key.kind key.name key.channel version) = none →
    ∃ pointer, readPointer X given = .ok pointer ∧
      pointer.targetResourceId = resource.resourceId)

theorem Requests.settled {pointer : ResourceChannelV1}
    (requests : Requests s target channel expectedPointerVersion actor profile resource key version)
    (given : IsRequested resource key version pointer) :
    AllOrNothing s target channel expectedPointerVersion (.ok pointer) t := by
  obtain ⟨expected, current, counted, -, selected⟩ := requests.version
  obtain ⟨next, -⟩ := successor_eq selected
  refine ⟨resource, expected, requests.target, counted, ?_, ?_⟩
  · rw [given.key]
    exact (channelName_ok requests.channel).1
  · rw [given.key, ← requests.keyed, ← next]
    exact given

/-- The pointer a caller was given, as its request determines it. -/
theorem Requests.requested {pointer : ResourceChannelV1}
    (requests : Requests s target channel expectedPointerVersion actor profile resource key version)
    (settled : AllOrNothing s target channel expectedPointerVersion (.ok pointer) t) :
    IsRequested resource key version pointer := by
  obtain ⟨other, expected, targets, counted, named, asked⟩ := settled
  obtain rfl := requests.target.unique targets
  obtain ⟨expected', current, counted', -, selected⟩ := requests.version
  obtain rfl := Except.ok.inj (counted.symm.trans counted')
  obtain ⟨rfl, -⟩ := successor_eq selected
  have same : key.channel = pointer.key.channel :=
    JsonValue.str.inj ((channelName_ok requests.channel).1.symm.trans named)
  rw [requests.keyed, same]
  exact asked

theorem settled_of_acknowledged {requested : ResourceChannelV1}
    {reply : Except PyError OperationResult}
    (requests : Requests s target channel expectedPointerVersion actor profile resource key version)
    (asked : IsRequested resource key version requested)
    (acknowledged : Acknowledges s given resource key version)
    (answered : answering X given (.structured (.put .channels (requested.toRecord X))) s reply t) :
    AllOrNothing s target channel expectedPointerVersion
      (insertion key requested (reply >>= readPointer X)) t := by
  cases ended : insertion key requested (reply >>= readPointer X) with
  | ok pointer =>
    obtain ⟨read, same⟩ := insertion_ok ended
    have told : reply = .ok given → readPointer X given = .ok pointer := by
      rintro rfl
      exact read
    refine requests.settled (acknowledged.1 pointer ?_ (same.trans asked.target))
    rcases answered with ⟨_, _, -, -, -, told'⟩ | ⟨-, told' | ⟨error, rfl, -⟩⟩
    · exact told told'
    · exact told told'
    · cases read
  | error error =>
    rcases answered with ⟨name, counted, keyed, absent, rfl, rfl⟩ | ⟨rfl, -⟩
    · cases Option.some.inj ((keyOf_channel requested).symm.trans keyed)
      rw [asked.channelVersionId] at absent
      obtain ⟨pointer, read, same⟩ := acknowledged.2 absent
      change insertion key requested (readPointer X given) = _ at ended
      rw [read, insertion_of_target (same.trans asked.target.symm)] at ended
      cases ended
    · rfl

/-- Over a store that inserts, a promotion that asks for a pointer ends with what the
answer to its put is read as, over the row it has put. -/
theorem promote_inserting (given : OperationResult) (consistent : Consistent X s)
    (requests : Requests s target channel expectedPointerVersion actor profile resource key version) :
    ∃ requested t, IsRequested resource key version requested ∧
      (promote target channel expectedPointerVersion actor profile).run.Runs (answering X given) s
        (insertion key requested (readPointer X given)) t ∧
      (s.row? .channels (requested.channelVersionId X) = none →
        t.row? .channels (requested.channelVersionId X) ≠ none) := by
  have uses := (@uses_promote X (fun _ => True) (fun _ => True) target channel expectedPointerVersion actor
    profile).mono fun _ issued => issued.answerable
  have runs := (Program.runs_execute (insertingAnswers_conform given) uses (s := s) trivial).1
  have ends := runs_promote (inserting_honest given) consistent runs
  revert runs ends
  generalize (Program.execute (insertingAnswers X given) _ s).1 = result
  generalize (Program.execute (insertingAnswers X given) _ s).2 = t
  intro runs ends
  cases ends with
  | stops _ reason => exact absurd requests (reason _ _ _)
  | puts again asked answered =>
    obtain ⟨rfl, rfl, rfl⟩ := requests.unique again
    obtain ⟨rfl, name, counted, keyed, changed⟩ := answered
    refine ⟨_, t, asked, runs.mono answering_of_inserting, fun absent => ?_⟩
    cases Option.some.inj ((keyOf_channel _).symm.trans keyed)
    rw [changed, if_pos absent, World.row?_setRow_self]
    simp

/-- A promotion is all or nothing over these stores exactly if the value they return is
read as the pointer that it asks them to insert. -/
theorem promote_allOrNothing (target : PromotionTarget X)
    (channel expectedPointerVersion actor : JsonValue) (profile : Option ResourceProfile)
    (given : OperationResult) (consistent : Consistent X s) :
    (∀ result t, (promote target channel expectedPointerVersion actor profile).run.Runs
        (answering X given) s result t →
      AllOrNothing s target channel expectedPointerVersion result t) ↔
    ∀ resource key version,
      Requests s target channel expectedPointerVersion actor profile resource key version →
        Acknowledges s given resource key version := by
  constructor
  · intro settled resource key version requests
    -- The run in which the store inserts what it is asked for decides the matter.
    obtain ⟨requested, t, asked, runs, inserted⟩ := promote_inserting given consistent requests
    have ended := settled _ t runs
    constructor
    · intro pointer read same
      rw [read, insertion_of_target (same.trans asked.target.symm)] at ended
      exact requests.requested ended
    · intro absent
      rw [← asked.channelVersionId] at absent
      cases outcome : insertion key requested (readPointer X given) with
      | ok pointer =>
        obtain ⟨read, same⟩ := insertion_ok outcome
        exact ⟨pointer, read, same.trans asked.target⟩
      | error error =>
        rw [outcome] at ended
        refine absurd ?_ (inserted absent)
        unfold World.row? at absent ⊢
        rwa [show t.tables .channels = s.tables .channels from ended]
  · intro acknowledged result t runs
    cases runs_promote (answering_honest given) consistent runs with
    | stops => rfl
    | puts requests asked answered =>
      exact settled_of_acknowledged requests asked (acknowledged _ _ _ requests) answered

end

namespace Reference

/-- The pointer of a first promotion of the configuration. -/
def pointer : ResourceChannelV1 where
  key := ⟨"team", "feature", "flags", "stable"⟩
  targetResourceId := resource.resourceId
  pointerVersion := 1
  actor := "bob"
  updatedAt := "2026-01-01T00:00:00.000000Z"
  recordVersion := some (.number 1)
  valid := {
    «namespace» := by constructor <;> decide
    kind := by constructor <;> decide
    name := by constructor <;> decide
    channel := by decide
    pointerVersion := by decide
    targetResourceId := by decide
    actor := by decide
    updatedAt := by decide }

def target : PromotionTarget Platform.reference := .reference resource.ref

theorem requests_pointer : Requests (holding resource) target (.str "stable")
    (.int 0) (.str "bob") none resource pointer.key 1 where
  target := ⟨stores_holding rfl, rfl⟩
  checked := rfl
  channel := by decide
  keyed := rfl
  version := ⟨0, none, rfl, ⟨rfl, fun other points => by
    obtain ⟨row, found, -⟩ := points
    unfold holding at found
    rw [World.row?_setRow, if_neg (by simp)] at found
    cases found⟩, rfl⟩
  actor := ⟨"bob", by decide⟩

/-- The answer of a store that inserts the pointer. -/
def inserted : OperationResult :=
  ⟨.object (present Platform.reference .channels (pointer.channelVersionId Platform.reference)
    ⟨pointer.toRecord Platform.reference, .number 1⟩ (.bare [])), []⟩

theorem readPointer_inserted : readPointer Platform.reference inserted = .ok pointer :=
  recordOf_presented (reads_channel pointer (.number 1)) ⟨.bare [], ⟨by simp, by simp⟩, rfl⟩

end Reference

/-- An answer with the inserted row makes a promotion all or nothing. -/
theorem promote_allOrNothing_pointer : ∃ result t,
    (promote Reference.target (.str "stable") (.int 0) (.str "bob") none).run.Runs
      (answering Platform.reference Reference.inserted) (Reference.holding Reference.resource)
      result t ∧
    AllOrNothing (Reference.holding Reference.resource) Reference.target (.str "stable") (.int 0)
      result t := by
  have settled := (promote_allOrNothing Reference.target (.str "stable") (.int 0) (.str "bob") none
    Reference.inserted Reference.consistent_holding).mpr fun resource key version requests => by
      obtain ⟨rfl, rfl, rfl⟩ := Reference.requests_pointer.unique requests
      have read := Reference.readPointer_inserted
      refine ⟨fun pointer again _ => ?_, fun _ => ⟨_, read, rfl⟩⟩
      obtain rfl := Except.ok.inj (read.symm.trans again)
      exact ⟨rfl, rfl, rfl⟩
  obtain ⟨requested, t, -, runs, -⟩ := promote_inserting Reference.inserted
    Reference.consistent_holding Reference.requests_pointer
  exact ⟨_, t, runs, settled _ t runs⟩

/-- A store that answers the put with nothing leaves a pointer there that the caller was
told had failed. -/
theorem promotion_left_behind : ∃ error t,
    (promote Reference.target (.str "stable") (.int 0) (.str "bob") none).run.Runs
      (answering Platform.reference ⟨.null, []⟩) (Reference.holding Reference.resource)
      (.error error) t ∧
    ¬AllOrNothing (Reference.holding Reference.resource) Reference.target (.str "stable") (.int 0)
      (.error error) t := by
  obtain ⟨requested, t, asked, runs, inserted⟩ := promote_inserting ⟨.null, []⟩
    Reference.consistent_holding Reference.requests_pointer
  have absent : (Reference.holding Reference.resource).row? .channels
      (requested.channelVersionId Platform.reference) = none := by
    unfold Reference.holding
    rw [World.row?_setRow, if_neg (by simp)]
    rfl
  have present := inserted absent
  refine ⟨_, t, runs, fun unchanged => present ?_⟩
  unfold World.row? at absent ⊢
  rwa [show t.tables .channels = _ from unchanged]

end ConfigArtifact
