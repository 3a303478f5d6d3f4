import ConfigArtifact.Store.Evolution

/-! How calls are answered while the stores change.

A deployment where faults may be ruled out answers each call as documented, or
with an error after which the call has taken effect or not. What each repository
function makes of the answer is stated once, about the state the call found.
-/

set_option autoImplicit false

namespace ConfigArtifact

open Interaction Fallible Relation MetadataRepository

variable {X : Platform}

/-- Calls are answered as documented, or by a fault if faults may happen. -/
def serving (X : Platform) (faults : Prop) : Environment (runtime X) World :=
  fun request before reply after =>
    reliable X request before reply after ∨ faults ∧ faulty X request before reply after

theorem serving_of_reliable {faults : Prop} (request : Call X) (s : World)
    (reply : Except PyError request.Result) (t : World)
    (answered : reliable X request s reply t) : serving X faults request s reply t := Or.inl answered

theorem serving_of_faulty (request : Call X) (s : World) (reply : Except PyError request.Result)
    (t : World) (answered : faulty X request s reply t) : serving X True request s reply t :=
  Or.inr ⟨trivial, answered⟩

/-- Answers as documented are among those of a deployment with faults. -/
theorem faulty_of_reliable (request : Call X) (s : World) (reply : Except PyError request.Result)
    (t : World) (answered : reliable X request s reply t) : faulty X request s reply t := by
  refine Or.inl ?_
  cases request with
  | structured call => exact Or.inl answered
  | object call => exact Or.inl answered
  | transaction body =>
    obtain ⟨state, runs, ended⟩ := answered
    exact ⟨state, runs.mono fun _ _ _ _ conforms => Or.inl conforms, ended⟩
  | _ => exact answered

/-- States reached from a first one, moved by the changes a policy permits. -/
def following (P : Policy X) (first : World) : Discipline World :=
  .ofSteps (fun s => Consistent X s ∧ Changes P first s) (Change P)

section

variable {P : Policy X} {first s t u : World} {faults : Prop}

theorem following_step (kept : (following P first).invariant t) (change : Change P t u) :
    (following P first).invariant u ∧ (following P first).guarantee t u :=
  ⟨⟨change.consistent kept.1, kept.2.tail change⟩, .single change⟩

/-- Nothing but a transaction can hide a fault from its caller. -/
def Call.IsPlain : Call X → Prop
  | .transaction _ => False
  | _ => True

theorem serving_plain {request : Call X} {reply : Except PyError request.Result}
    (answered : serving X faults request t reply u) (plain : request.IsPlain) :
    reliable X request t reply u ∨ faults ∧ ∃ error, reply = .error error ∧
      (u = t ∨ ∃ other, reliable X request t other u) := by
  rcases answered with answered | ⟨faulted, answered⟩
  · exact Or.inl answered
  · cases request with
    | structured call =>
      rcases answered with (conforms | ⟨error, same, effect⟩) | ⟨error, same, effect⟩
      · exact Or.inl conforms
      · exact Or.inr ⟨faulted, error, same, effect⟩
      · refine Or.inr ⟨faulted, error, same, ?_⟩
        rcases effect with still | ⟨other, conforms | ⟨_, _, effect⟩⟩
        · exact Or.inl still
        · exact Or.inr ⟨other, conforms⟩
        · exact effect
    | object call =>
      rcases answered with (conforms | ⟨error, same, effect⟩) | ⟨error, same, effect⟩
      · exact Or.inl conforms
      · exact Or.inr ⟨faulted, error, same, effect⟩
      · refine Or.inr ⟨faulted, error, same, ?_⟩
        rcases effect with still | ⟨other, conforms | ⟨_, _, effect⟩⟩
        · exact Or.inl still
        · exact Or.inr ⟨other, conforms⟩
        · exact effect
    | transaction body => cases plain
    | clock => exact answered.imp id fun fault => ⟨faulted, fault⟩
    | utcNow => exact answered.imp id fun fault => ⟨faulted, fault⟩
    | validate payload schema => exact answered.imp id fun fault => ⟨faulted, fault⟩
    | registerPayload source digest length => exact answered.imp id fun fault => ⟨faulted, fault⟩
    | openPayload reference => exact answered.imp id fun fault => ⟨faulted, fault⟩
    | releasePayload reference => exact answered.imp id fun fault => ⟨faulted, fault⟩

/-- A transaction has committed what its body did, whatever is reported of it, or
it has done nothing. -/
theorem serving_transaction {body : Program structured (Except PyError (StoredResourceV1 X))}
    {reply : Except PyError (StoredResourceV1 X)}
    (answered : serving X faults (.transaction body) t reply u) :
    (∃ stored, body.Runs (conforming X).interrupted t (.ok stored) u ∧
      (reply = .ok stored ∨ faults ∧ ∃ error, reply = .error error)) ∨
    u = t ∧ ∃ error, reply = .error error ∧
      (faults ∨ ∃ state, body.Runs (conforming X) t (.error error) state) := by
  have settled : ∀ {reply : Except PyError (StoredResourceV1 X)},
      Transacts (conforming X).interrupted body t reply u →
      (∃ stored, body.Runs (conforming X).interrupted t (.ok stored) u ∧ reply = .ok stored) ∨
        u = t ∧ ∃ error, reply = .error error := by
    rintro reply ⟨state, runs, ended⟩
    cases reply with
    | ok stored =>
      obtain rfl : u = state := ended
      exact Or.inl ⟨stored, runs, rfl⟩
    | error error => exact Or.inr ⟨ended, error, rfl⟩
  rcases answered with ⟨state, runs, ended⟩ | ⟨faulted, transacts | ⟨error, same, effect⟩⟩
  · cases reply with
    | ok stored =>
      obtain rfl : u = state := ended
      exact Or.inl ⟨stored, runs.mono fun _ _ _ _ => Or.inl, Or.inl rfl⟩
    | error error => exact Or.inr ⟨ended, error, rfl, Or.inr ⟨state, runs⟩⟩
  · rcases settled transacts with ⟨stored, runs, same⟩ | ⟨still, error, same⟩
    · exact Or.inl ⟨stored, runs, Or.inl same⟩
    · exact Or.inr ⟨still, error, same, Or.inl faulted⟩
  · rcases effect with still | ⟨other, transacts⟩
    · exact Or.inr ⟨still, error, same, Or.inl faulted⟩
    · rcases settled transacts with ⟨stored, runs, -⟩ | ⟨still, -⟩
      · exact Or.inl ⟨stored, runs, Or.inr ⟨faulted, error, same⟩⟩
      · exact Or.inr ⟨still, error, same, Or.inl faulted⟩

end

end ConfigArtifact
