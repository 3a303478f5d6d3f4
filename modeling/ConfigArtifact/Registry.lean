import Mathlib.Data.List.Infix
import Mathlib.Logic.Function.Basic
import ConfigArtifact.Interaction.Linearization

/-! A registry: what the package is for, without its stores.

A registry keeps what is published under an id and whether it is retired since,
and for each channel the ids it has pointed to, in order. Nothing is ever taken
back, so a registry tells which operations have led to it from another.
-/

set_option autoImplicit false

namespace ConfigArtifact

open Interaction

inductive Stage where
  | published
  | retired
  deriving DecidableEq, Repr

structure Registry (Id Content Key : Type) where
  entry : Id → Option (Content × Stage)
  targets : Key → List Id

namespace Registry

inductive Operation (Id Content Key : Type) where
  | publish (id : Id) (content : Content)
  | retire (id : Id)
  | point (key : Key) (expected : Nat) (target : Id)

variable {Id Content Key : Type} [DecidableEq Id] [DecidableEq Key]

def setEntry (registry : Registry Id Content Key) (id : Id) (content : Content) (stage : Stage) :
    Registry Id Content Key :=
  { registry with entry := Function.update registry.entry id (some (content, stage)) }

def pointTo (registry : Registry Id Content Key) (key : Key) (target : Id) :
    Registry Id Content Key :=
  { registry with
    targets := Function.update registry.targets key (registry.targets key ++ [target]) }

/-- An id is published once and retired once; a channel is pointed to what is published, by
whoever knows how often it has been pointed to. -/
inductive Step : Registry Id Content Key → Operation Id Content Key → Registry Id Content Key → Prop
  | publish {registry : Registry Id Content Key} {id : Id} {content : Content} :
      registry.entry id = none →
      Step registry (.publish id content) (registry.setEntry id content .published)
  | retire {registry : Registry Id Content Key} {id : Id} {content : Content} :
      registry.entry id = some (content, .published) →
      Step registry (.retire id) (registry.setEntry id content .retired)
  | point {registry : Registry Id Content Key} {key : Key} {expected : Nat} {target : Id} :
      (registry.targets key).length = expected → registry.entry target ≠ none →
      Step registry (.point key expected target) (registry.pointTo key target)

variable {registry first second third : Registry Id Content Key}
  {operation other : Operation Id Content Key} {operations : List (Operation Id Content Key)}

section

variable (registry) (id id' : Id) (content : Content) (stage : Stage) (key key' : Key) (target : Id)

omit [DecidableEq Key] in
theorem entry_setEntry : (registry.setEntry id content stage).entry id' =
    if id' = id then some (content, stage) else registry.entry id' := by
  simp [setEntry, Function.update_apply]

omit [DecidableEq Key] in
@[simp] theorem targets_setEntry :
    (registry.setEntry id content stage).targets = registry.targets := rfl

omit [DecidableEq Id] in
@[simp] theorem entry_pointTo : (registry.pointTo key target).entry = registry.entry := rfl

omit [DecidableEq Id] in
theorem targets_pointTo : (registry.pointTo key target).targets key' =
    if key' = key then registry.targets key ++ [target] else registry.targets key' := by
  simp [pointTo, Function.update_apply]

end

/-- Everything of the one is in the other: entries stay, or are retired, and channels grow. -/
structure Grown (first second : Registry Id Content Key) : Prop where
  entries : ∀ id content stage, first.entry id = some (content, stage) →
    ∃ later, second.entry id = some (content, later) ∧ (stage = .retired → later = .retired)
  channels : ∀ key, first.targets key <+: second.targets key

omit [DecidableEq Id] [DecidableEq Key] in
theorem Grown.refl (registry : Registry Id Content Key) : Grown registry registry where
  entries := fun _ _ stage found => ⟨stage, found, id⟩
  channels := fun _ => List.prefix_refl _

omit [DecidableEq Id] [DecidableEq Key] in
theorem Grown.trans (one : Grown first second) (two : Grown second third) : Grown first third where
  entries := by
    intro id content stage found
    obtain ⟨middle, found, stays⟩ := one.entries id content stage found
    obtain ⟨later, found, remains⟩ := two.entries id content middle found
    exact ⟨later, found, fun retired => remains (stays retired)⟩
  channels := fun key => (one.channels key).trans (two.channels key)

theorem Step.grown (step : Step first operation second) : Grown first second := by
  cases step with
  | @publish id content absent =>
    refine ⟨fun other content stage found => ?_, fun _ => List.prefix_refl _⟩
    rw [entry_setEntry]
    split
    · next same => rw [same, absent] at found; cases found
    · exact ⟨stage, found, fun same => same⟩
  | @retire id content published =>
    refine ⟨fun other content stage found => ?_, fun _ => List.prefix_refl _⟩
    rw [entry_setEntry]
    split
    · next same =>
      rw [same, published] at found
      cases found
      exact ⟨.retired, rfl, fun _ => rfl⟩
    · exact ⟨stage, found, fun same => same⟩
  | @point key expected target counted known =>
    refine ⟨fun other content stage found => ⟨stage, found, fun same => same⟩, fun other => ?_⟩
    rw [targets_pointTo]
    split
    · next same => rw [same]; exact List.prefix_append _ _
    · exact List.prefix_refl _

theorem grown_of_performs (performs : Performs Step first operations second) : Grown first second :=
  performs.relates Grown.refl Grown.trans Step.grown

/-- Of all steps from a registry, only the one to another leaves nothing that is not in it. -/
theorem Step.determined (step : Step first operation second) (another : Step first other third)
    (grown : Grown third second) : other = operation ∧ third = second := by
  cases another with
  | @publish id content absent =>
    obtain ⟨later, found, -⟩ := grown.entries id content .published
      (by rw [entry_setEntry, if_pos rfl])
    cases step with
    | publish _ =>
      rw [entry_setEntry] at found
      split at found
      · next same =>
        cases same
        cases found
        exact ⟨rfl, rfl⟩
      · rw [absent] at found; cases found
    | retire published =>
      rw [entry_setEntry] at found
      split at found
      · next same => rw [same, published] at absent; cases absent
      · rw [absent] at found; cases found
    | point _ _ => rw [entry_pointTo, absent] at found; cases found
  | @retire id content published =>
    obtain ⟨later, found, stays⟩ := grown.entries id content .retired
      (by rw [entry_setEntry, if_pos rfl])
    obtain rfl := stays rfl
    cases step with
    | publish absent =>
      rw [entry_setEntry] at found
      split at found
      · cases found
      · rw [published] at found; cases found
    | retire _ =>
      rw [entry_setEntry] at found
      split at found
      · next same =>
        cases same
        cases found
        exact ⟨rfl, rfl⟩
      · rw [published] at found; cases found
    | point _ _ => rw [entry_pointTo, published] at found; cases found
  | @point key expected target counted known =>
    have channel := grown.channels key
    rw [targets_pointTo, if_pos rfl] at channel
    -- A channel that has not been pointed to anew is too short.
    have short : ¬(first.targets key ++ [target]) <+: first.targets key := by
      intro fits
      have le := fits.length_le
      rw [List.length_append, List.length_singleton] at le
      omega
    cases step with
    | publish _ => exact absurd channel short
    | retire _ => exact absurd channel short
    | point counted' _ =>
      rw [targets_pointTo] at channel
      split at channel
      · next same =>
        cases same
        obtain rfl : expected = _ := counted.symm.trans counted'
        rw [List.prefix_append_right_inj, List.cons_prefix_cons] at channel
        cases channel.1
        exact ⟨rfl, rfl⟩
      · exact absurd channel short

theorem Step.not_grown (step : Step first operation second) : ¬Grown second first := by
  intro grown
  cases step with
  | @publish id content absent =>
    obtain ⟨later, found, -⟩ := grown.entries id content .published
      (by rw [entry_setEntry, if_pos rfl])
    rw [absent] at found
    cases found
  | @retire id content published =>
    obtain ⟨later, found, stays⟩ := grown.entries id content .retired
      (by rw [entry_setEntry, if_pos rfl])
    obtain rfl := stays rfl
    rw [published] at found
    cases found
  | @point key expected target counted known =>
    have le := (grown.channels key).length_le
    rw [targets_pointTo, if_pos rfl, List.length_append, List.length_singleton] at le
    omega

/-- Where nothing has changed, nothing has been done. -/
theorem performs_self (performs : Performs Step registry operations registry) : operations = [] := by
  cases performs with
  | nil => rfl
  | cons step rest => exact absurd (grown_of_performs rest) step.not_grown

/-- What one operation does is done by it only. -/
theorem Step.performs_iff (step : Step first operation second) :
    Performs Step first operations second ↔ operations = [operation] := by
  constructor
  · intro performs
    cases performs with
    | nil => exact absurd (Grown.refl first) step.not_grown
    | cons another rest =>
      obtain ⟨rfl, rfl⟩ := step.determined another (grown_of_performs rest)
      rw [performs_self rest]
  · rintro rfl
    exact .single step

end Registry

end ConfigArtifact
