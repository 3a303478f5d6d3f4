import ConfigArtifact.Operations.Promotion
import ConfigArtifact.Store.Transactions

/-! What publications of either profile do among others, once they have a candidate.

A publication that does not also promote ends in one of three ways: its own rows
are committed, it finds rows that carry the same publication, or it conflicts.
-/

set_option autoImplicit false

namespace ConfigArtifact

open Interaction Fallible Relation MetadataRepository

variable {X : Platform} {P : Policy X} {first s t u : World} {faults valid : Prop}
  {history : List (Event (runtime X) World)}

/-- A publication that names no channel to promote to. -/
def Unpromoted (channel expectedPointerVersion : JsonValue) : Prop :=
  channel = .null ∧ expectedPointerVersion = .null

/-- One event has committed the rows of a candidate where none were. -/
def CommitsAs (candidate stored : StoredResourceV1 X) (before after : World) : Prop :=
  ∃ version stamp, before.row? .metadata candidate.resourceId = none ∧
    after = before.publish candidate version stamp ∧ stored = candidate.withVersion (some version)

/-- What a receipt says of the request it answers. -/
def Receipted (faults : Prop) (P : Policy X) (first : World)
    (same : StoredResourceFields X → StoredResourceFields X → Bool)
    (planned : StoredResourceV1 X → Prop) (history : List (Event (runtime X) World)) (t : World)
    (receipt : PublicationReceipt X) : Prop :=
  ∃ candidate, planned candidate ∧ receipt.resource.resourceId = candidate.resourceId ∧
    same candidate.toStoredResourceFields receipt.resource.toStoredResourceFields = true ∧
    Seen P first t receipt.resource ∧
    (faults ∨ receipt.idempotent = true ∧ Quiet history ∨
      Once (CommitsAs candidate receipt.resource) history)

/-- How a publication that does not promote may end; `clashes` says of a stored
row or Object that the request cannot be published over it. -/
def PublicationEnds (faults valid : Prop) (P : Policy X) (first : World)
    (same : StoredResourceFields X → StoredResourceFields X → Bool)
    (planned : StoredResourceV1 X → Prop) (clashes : World → Prop) :
    Postcondition (runtime X) World (Except PyError (PublicationReceipt X)) :=
  fun history t result => match result with
    | .ok receipt => Receipted faults P first same planned history t receipt
    | .error error => faults ∨ ¬valid ∨ error.hasType .identityConflict = true ∧ Quiet history ∧
        ∃ earlier, Changes P first earlier ∧ Changes P earlier t ∧ clashes earlier

/-- An end stays one while nothing but reads follows. -/
theorem PublicationEnds.later {same : StoredResourceFields X → StoredResourceFields X → Bool}
    {planned : StoredResourceV1 X → Prop} {clashes : World → Prop}
    {result : Except PyError (PublicationReceipt X)}
    (ends : PublicationEnds faults valid P first same planned clashes history t result)
    {more : List (Event (runtime X) World)} (quiet : Quiet more) (moved : Changes P t u) :
    PublicationEnds faults valid P first same planned clashes (history ++ more) u result := by
  cases result with
  | ok receipt =>
    obtain ⟨candidate, plan, named, matching, seen, told⟩ := ends
    refine ⟨candidate, plan, named, matching, seen.later moved, told.imp id fun told => ?_⟩
    exact told.imp (fun ⟨idempotent, silent⟩ => ⟨idempotent, silent.append quiet⟩)
      fun once => once.append quiet
  | error error =>
    refine ends.imp id fun ends => ends.imp id fun ⟨conflict, silent, earlier, began, since, clash⟩ => ?_
    exact ⟨conflict, silent.append quiet, earlier, began, since.trans moved, clash⟩

theorem safe_promotePublished {A : Type} {profile : ResourceProfile} {resource : StoredResourceV1 X}
    {channel expectedPointerVersion actor : JsonValue}
    {next : Except PyError (Option ResourceChannelV1) → Program (runtime X) A}
    {post : Postcondition (runtime X) World A} (kept : (following P first).invariant s)
    (live : Live s resource)
    (alone : Unpromoted channel expectedPointerVersion →
      (next (.ok none)).Safe (following P first) (serving X faults) post history s)
    (promoting : ¬Unpromoted channel expectedPointerVersion → ∀ result final t,
      (following P first).invariant t →
      (next result).Safe (following P first) (serving X faults) post final t) :
    ((promotePublished profile resource channel expectedPointerVersion actor : PyM X _).run.bind
      next).Safe (following P first) (serving X faults) post history s := by
  unfold promotePublished
  by_cases silent : channel = .null
  · rw [if_pos silent]
    by_cases uncounted : expectedPointerVersion = .null
    · rw [if_neg (not_not.mpr uncounted)]
      exact alone ⟨silent, uncounted⟩
    · rw [if_pos uncounted]
      exact promoting (fun both => uncounted both.2) _ history s kept
  · rw [if_neg silent]
    have given : ¬Unpromoted channel expectedPointerVersion := fun both => silent both.1
    by_cases uncounted : expectedPointerVersion = .null
    · rw [if_pos uncounted]
      exact promoting given _ history s kept
    · rw [if_neg uncounted, run_bind, Program.bind_assoc, Program.safe_bind kept]
      have vouched : Vouched P s (.resource resource) := by
        rintro - copy ⟨⟩
        exact live
      have alone : (ChannelRepository.promote (.resource resource) channel expectedPointerVersion
          actor (some profile)).run.Safe (following P first) (serving X faults)
          (PromotionEnds faults P first (.resource resource) channel expectedPointerVersion
            (some profile)) [] s := safe_promote kept vouched
      have safe := alone.after history
      rw [List.append_nil] at safe
      refine safe.weaken fun final t value kept _ => ?_
      cases value with
      | ok pointer => exact promoting given (.ok (some pointer)) final t kept
      | error error => exact promoting given (.error error) final t kept

/-- A publication over a row that is there: the same publication, or a conflict. -/
theorem safe_existingReceipt {profile : ResourceProfile}
    {same : StoredResourceFields X → StoredResourceFields X → Bool}
    {candidate existing : StoredResourceV1 X} {channel expectedPointerVersion actor : JsonValue}
    {post : Postcondition (runtime X) World (Except PyError (PublicationReceipt X))}
    (kept : (following P first).invariant s) (live : Live s existing)
    (answers : Unpromoted channel expectedPointerVersion →
      same candidate.toStoredResourceFields existing.toStoredResourceFields = true →
      ∀ t receipt, Changes P s t → receipt.resource = existing → receipt.idempotent = true →
        post history t (.ok receipt))
    (conflicts : same candidate.toStoredResourceFields existing.toStoredResourceFields = false →
      ∀ t error, Changes P s t → error.hasType .identityConflict = true →
        post history t (.error error))
    (promoting : ¬Unpromoted channel expectedPointerVersion →
      ∀ final t result, post final t result) :
    (existingReceipt profile same candidate existing channel expectedPointerVersion actor :
      PyM X _).run.Safe (following P first) (serving X faults) post history s := by
  unfold existingReceipt
  split
  · next matching =>
    rw [run_bind]
    refine safe_promotePublished kept live ?_ ?_
    · exact fun alone t moved _ => answers alone matching t _ moved rfl rfl
    · intro given result final t _
      cases result with
      | ok promoted => exact fun u _ _ => promoting given _ _ _
      | error error => exact fun u _ _ => promoting given _ _ _
  · next different =>
    exact fun t moved _ => conflicts (Bool.not_eq_true _ ▸ different) t _ moved rfl

theorem stores_publish (resource : StoredResourceV1 X) (version stamp : RecordVersion) :
    Stores (t.publish resource version stamp) (resource.withVersion (some version)) := by
  refine ⟨⟨resource.toRecord, version⟩, ?_, Row.holds_record resource version⟩
  rw [row?_publish_metadata]
  exact if_pos rfl

end ConfigArtifact
