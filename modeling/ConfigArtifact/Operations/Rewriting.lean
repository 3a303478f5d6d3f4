import ConfigArtifact.Operations.Footprint

/-! What the calls of the package may do to the rows of a store.

Whatever becomes of a call and whatever it is answered, it inserts a row where
none was, marks one metadata row as deprecated, or leaves the rows as they are.
-/

set_option autoImplicit false

namespace ConfigArtifact

open Interaction Relation

variable {X : Platform} {s t : World} {reports : Mapping → Prop} {sources : PayloadSource → Prop}

/-- One change the package may make to the rows, where the orphan candidates it records are such. -/
inductive Rewrite (reports : Mapping → Prop) (s : World) : World → Prop
  | untouched {t : World} :
      (∀ collection key, t.row? collection key = s.row? collection key) → Rewrite reports s t
  | inserted {collection : Collection} {key : String} {data : Mapping} {version : RecordVersion} :
      keyOf collection data = some key → s.row? collection key = none →
      (collection = .metadata →
        data.lookup "state" = some (.str ResourceState.published.value)) →
      (collection = .orphanCandidates → reports data) →
      Rewrite reports s (s.setRow collection key ⟨data, version⟩)
  | marked {key : String} {row : Row} {version : RecordVersion} :
      s.row? .metadata key = some row →
      Rewrite reports s (s.setRow .metadata key
        ⟨applyChanges row.values [("state", .str ResourceState.deprecated.value)], version⟩)

abbrev Rewrites (reports : Mapping → Prop) : World → World → Prop :=
  ReflTransGen (Rewrite reports)

theorem rewrite_conforming {call : StructuredCall} {reply : Except PyError OperationResult}
    (issued : call.IsIssued reports) (answered : conforming X call s reply t) :
    Rewrite reports s t := by
  cases call with
  | get collection filter =>
    obtain ⟨rfl, -⟩ := answered
    exact .untouched fun _ _ => rfl
  | query collection filter orderBy limit cursor =>
    obtain ⟨rfl, -⟩ := answered
    exact .untouched fun _ _ => rfl
  | put collection data =>
    obtain ⟨key, keyed, inserted⟩ := answered
    split at inserted
    · obtain ⟨rfl, -⟩ := inserted
      exact .untouched fun _ _ => rfl
    · next absent =>
      obtain ⟨version, -, rfl, -⟩ := inserted
      exact .inserted keyed absent issued.2.1 issued.2.2
  | patch collection filter changes expected =>
    obtain ⟨rfl, -, rfl⟩ := issued
    obtain ⟨key, -, patched⟩ := answered
    split at patched
    · obtain ⟨rfl, -⟩ := patched
      exact .untouched fun _ _ => rfl
    · next row present =>
      split at patched
      · obtain ⟨version, data, -, -, rfl, -, -⟩ := patched
        exact .marked present
      · obtain ⟨rfl, -⟩ := patched
        exact .untouched fun _ _ => rfl

theorem rewrites_structured {call : StructuredCall} (reply : Except PyError OperationResult)
    (issued : call.IsIssued reports) (answered : (conforming X).unreliable call s reply t) :
    Rewrites reports s t := by
  rcases answered with rfl | ⟨other, conforms⟩
  · exact .refl
  · exact .single (rewrite_conforming issued conforms)

/-- A transaction commits what its calls have done, or nothing. -/
theorem rewrites_transaction {A : Type} {body : Program structured (Except PyError A)}
    {reply : Except PyError A} (issued : body.Uses (StructuredCall.IsIssued reports))
    (answered : Transacts (conforming X).unreliable body s reply t) : Rewrites reports s t := by
  obtain ⟨state, runs, ended⟩ := answered
  have steps : ∀ call t reply u, StructuredCall.IsIssued reports call →
      (conforming X).unreliable call t reply u → Rewrites reports t u :=
    fun call t reply u permitted answer => rewrites_structured reply permitted answer
  have rewrites : Rewrites reports s state :=
    Program.Runs.relates (fun _ => .refl) (fun one two => one.trans two) steps issued runs
  cases reply with
  | ok value =>
    obtain rfl : t = state := ended
    exact rewrites
  | error error =>
    obtain rfl : t = s := ended
    exact .refl

theorem conformingObjects_rows {call : ObjectCall} {reply : Except PyError OperationResult}
    (answered : conformingObjects X call s reply t) (collection : Collection) (key : String) :
    t.row? collection key = s.row? collection key := by
  cases call with
  | put objectId payload mediaType digest length userMetadata creationContext provenance =>
    rcases answered with ⟨_, ⟨_, _, _, _, _, rfl, _⟩ | ⟨rfl, _⟩ | ⟨rfl, _⟩⟩ | ⟨_, _, rfl, _⟩ <;> rfl
  | stat reference =>
    obtain ⟨rfl, -⟩ := answered
    rfl
  | get reference =>
    unfold conformingObjects at answered
    dsimp only at answered
    split at answered
    · obtain ⟨token, resources, -, rfl, -⟩ := answered
      rfl
    · obtain ⟨rfl, -⟩ := answered
      rfl
  | readRange reference range =>
    rcases answered with rfl | ⟨token, source, -, rfl⟩ <;> rfl
  | list start limit cursor =>
    obtain ⟨rfl, -⟩ := answered
    rfl

/-- One call of the package, whatever becomes of it and whatever it is answered. -/
theorem rewrites_untrusted {call : Call X} (reply : Except PyError call.Result)
    (issued : call.IsIssued sources reports) (answered : untrusted X call s reply t) :
    Rewrites reports s t := by
  rcases answered with rfl | ⟨other, effect⟩
  · exact .refl
  cases call with
  | structured call => exact rewrites_structured other issued effect
  | transaction body => exact rewrites_transaction issued effect
  | object call =>
    rcases effect with rfl | ⟨another, conforms⟩
    · exact .refl
    · exact .single (.untouched (conformingObjects_rows conforms))
  | registerPayload source digest length =>
    obtain ⟨token, -, rfl, -⟩ := effect
    exact .single (.untouched fun _ _ => rfl)
  | clock | utcNow | validate payload schema | openPayload payload | releasePayload payload =>
    obtain ⟨rfl, -⟩ := effect
    exact .refl

/-- A call that may fail with or without effect is one whose answer need not be trusted. -/
theorem untrusted_of_faulty (call : Call X) (s : World) (reply : Except PyError call.Result)
    (t : World) (answered : faulty X call s reply t) : untrusted X call s reply t := by
  rcases Environment.unreliable_of_interrupted answered with same | ⟨other, effect⟩
  · exact .inl same
  · refine .inr ⟨other, ?_⟩
    cases call with
    | structured call => exact Environment.unreliable_of_interrupted effect
    | object call => exact Environment.unreliable_of_interrupted effect
    | transaction body =>
      obtain ⟨state, runs, ended⟩ := effect
      exact ⟨state, runs.mono fun _ _ _ _ => Environment.unreliable_of_interrupted, ended⟩
    | _ => exact effect

theorem untrusted_of_reliable (call : Call X) (s : World) (reply : Except PyError call.Result)
    (t : World) (answered : reliable X call s reply t) : untrusted X call s reply t :=
  untrusted_of_faulty call s reply t (faulty_of_reliable call s reply t answered)

end ConfigArtifact
