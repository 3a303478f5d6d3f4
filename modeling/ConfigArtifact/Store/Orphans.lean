import ConfigArtifact.Artifact.Consumer
import ConfigArtifact.Store.Calls

/-! What recording an orphan candidate concludes and changes. -/

set_option autoImplicit false

namespace ConfigArtifact

open Interaction Fallible Relation MetadataRepository

variable {X : Platform} {P : Policy X} {first s t u : World} {faults : Prop}
  {history : List (Event (runtime X) World)}

theorem Consistent.records {key : String} {row : Row} (consistent : Consistent X t)
    (found : t.row? .orphanCandidates key = some row) :
    ∃ orphan : OrphanCandidateV1 X, Reads .orphanCandidates (parseOrphan X) row orphan ∧
      Records t orphan ∧ orphan.candidateId X = key := by
  obtain ⟨orphan, values, version, rfl⟩ := consistent.orphans key row found
  refine ⟨orphan, ?_, ⟨row, found, values, version⟩, rfl⟩
  obtain ⟨held, counted⟩ := row
  simp only at values version
  subst values
  have reads := reads_orphan orphan counted
  rwa [← version, orphan.withVersion_self] at reads

theorem sameOrphanIdentity_withVersion (orphan : OrphanCandidateV1 X)
    (version : Option RecordVersion) :
    sameOrphanIdentity (orphan.withVersion version) orphan = true := by
  simp only [sameOrphanIdentity, Bool.and_eq_true, decide_eq_true_eq]
  exact ⟨⟨⟨⟨rfl, rfl⟩, rfl⟩, rfl⟩, rfl⟩

theorem safe_getOrphan {A : Type} {candidateId : String} {required : Bool}
    {next : Except PyError (Option (OrphanCandidateV1 X)) → Program (runtime X) A}
    {post : Postcondition (runtime X) World A}
    (rest : ∀ t, (following P first).invariant t → Changes P s t → ∀ event,
      event.before = t → event.after = t → ∀ result,
      Lookup faults t .orphanCandidates candidateId required
        (fun orphan : OrphanCandidateV1 X => Records t orphan ∧ orphan.candidateId X = candidateId)
        result →
      (next result).Safe (following P first) (serving X faults) post (history ++ [event]) t) :
    ((StructuredM.lift (getOrphan X candidateId required) : PyM X _).run.bind next).Safe
      (following P first) (serving X faults) post history s := by
  intro t moved kept reply u answered
  obtain ⟨rfl, looked⟩ := lookup_of_served "structured orphan result" required
    (fun row found => kept.1.records found) answered
  exact ⟨kept, .refl, rest u kept moved _ rfl rfl _ looked⟩

/-- What putting a candidate tells: it is there, or another one is in its place. -/
def Reported (faults : Prop) (orphan : OrphanCandidateV1 X) (s : World) :
    Except PyError (OrphanCandidateV1 X) → Prop
  | .ok stored => sameOrphanIdentity stored orphan = true ∧ Records s stored
  | .error _ => faults ∨ ∃ existing : OrphanCandidateV1 X, Records s existing ∧
      existing.candidateId X = orphan.candidateId X ∧ sameOrphanIdentity existing orphan = false

theorem run_putOrphan (orphan : OrphanCandidateV1 X) :
    (StructuredM.lift (putOrphan orphan) : PyM X _).run =
      .call (.structured (.put .orphanCandidates (orphan.toRecord X))) fun reply =>
        (StructuredM.lift (storedOrphan orphan reply) : PyM X _).run := rfl

theorem lift_bind {A B : Type} (body : StructuredM A) (next : A → StructuredM B) :
    (StructuredM.lift (body >>= next) : PyM X B) = StructuredM.lift body >>= fun value =>
      StructuredM.lift (next value) := by
  apply ExceptT.ext
  rw [run_bind]
  change (body >>= next).run.embed _ = _
  rw [run_bind, Program.embed_bind]
  congr 1
  funext result
  cases result <;> rfl

theorem records_report (orphan : OrphanCandidateV1 X) (version : RecordVersion) :
    Records (t.report orphan version) (orphan.withVersion (some version)) :=
  ⟨_, World.row?_setRow_self _ _ _ _, rfl, rfl⟩

/-- A put that failed: another candidate is there, or it was a fault. -/
theorem safe_failedOrphan {A : Type} {orphan : OrphanCandidateV1 X} {error : PyError}
    {next : Except PyError (OrphanCandidateV1 X) → Program (runtime X) A}
    {post : Postcondition (runtime X) World A} (kept : (following P first).invariant s)
    (reason : faults ∨ s.row? .orphanCandidates (orphan.candidateId X) ≠ none ∧
      error.hasCategory .conflict = true)
    (rest : ∀ t, (following P first).invariant t → Changes P s t → ∀ final,
      ∀ result, Reported faults orphan t result →
      (next result).Safe (following P first) (serving X faults) post final t) :
    ((StructuredM.lift (storedOrphan orphan (.error error)) : PyM X _).run.bind next).Safe
      (following P first) (serving X faults) post history s := by
  unfold storedOrphan
  dsimp only
  split
  · rw [lift_bind, run_bind, Program.bind_assoc]
    refine safe_getOrphan fun t kept moved event _ _ result looked => ?_
    match result, looked with
    | .ok (some existing), ⟨records, named⟩ =>
      rw [andThen_ok]
      dsimp only
      split
      · next matching => exact rest t kept moved _ (.ok existing) ⟨matching, records⟩
      · next other =>
        exact rest t kept moved _ (.error _)
          (Or.inr ⟨existing, records, named, Bool.not_eq_true _ ▸ other⟩)
    | .ok none, ⟨_, gone⟩ =>
      refine rest t kept moved _ (.error error) (Or.inl ?_)
      rcases gone, reason with ⟨faulted | absent, faulted | ⟨present, -⟩⟩
      · exact faulted
      · exact faulted
      · exact faulted
      · obtain ⟨row, found⟩ := Option.ne_none_iff_exists'.mp present
        rw [moved.evolves.rows .orphanCandidates (by decide) _ row found] at absent
        cases absent
    | .error failure, missing =>
      refine rest t kept moved _ (.error failure) (Or.inl (missing.resolve_right ?_))
      rintro ⟨⟨⟩, -⟩
  · next other =>
    exact rest s kept .refl history (.error error)
      (Or.inl (reason.resolve_right fun both => other both.2))

theorem safe_putOrphan {A : Type} {orphan : OrphanCandidateV1 X}
    {next : Except PyError (OrphanCandidateV1 X) → Program (runtime X) A}
    {post : Postcondition (runtime X) World A}
    (rest : ∀ t, (following P first).invariant t → Changes P s t → ∀ final,
      ∀ result, Reported faults orphan t result →
      (next result).Safe (following P first) (serving X faults) post final t) :
    ((StructuredM.lift (putOrphan orphan) : PyM X _).run.bind next).Safe (following P first)
      (serving X faults) post history s := by
  rw [run_putOrphan, Program.call_bind]
  intro t moved kept reply u answered
  rcases put_of_served (keyOf_orphan orphan) answered with
    ⟨version, absent, rfl, reported⟩ | ⟨rfl, error, rfl, reason⟩
  · have change : Change P t (t.report orphan version) := .reported absent
    have step := following_step kept change
    refine ⟨step.1, step.2, ?_⟩
    have since := moved.trans step.2
    rcases reported with ⟨data, resources, rfl, presented⟩ | ⟨faulted, error, rfl⟩
    · have read : (recordOf ⟨data, resources⟩ "structured orphan put result" >>= parseOrphan X) =
          .ok (orphan.withVersion (some version)) :=
        recordOf_presented (reads_orphan orphan version) presented
      change (next (recordOf _ _ >>= parseOrphan X)).Safe _ _ _ _ _
      rw [read]
      exact rest _ step.1 since _ (.ok _) ⟨sameOrphanIdentity_withVersion _ _, records_report _ _⟩
    · exact safe_failedOrphan step.1 (Or.inl faulted) fun v kept later =>
        rest v kept (since.trans later)
  · exact ⟨kept, .refl, safe_failedOrphan kept reason fun v kept later =>
      rest v kept (moved.trans later)⟩

end ConfigArtifact
