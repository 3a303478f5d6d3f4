import ConfigArtifact.Guarantees.CompareAndSet

/-! Concurrent deprecations converge.

A published row is altered once, whoever does it: the patch that comes first
renews its version, and every other caller finds it deprecated.
-/

set_option autoImplicit false

namespace ConfigArtifact

open Interaction Fallible Relation MetadataRepository

variable {X : Platform} {P : Policy X} {s t : World} {ι : Type}

/-- How often the metadata row of a resource has been altered. -/
def alterations (log : PoolLog X ι) (resourceId : String) : Nat :=
  log.countP fun entry =>
    entry.2.after.row? .metadata resourceId ≠ entry.2.before.row? .metadata resourceId

theorem row_of_stores {resource : StoredResourceV1 X} (stores : Stores s resource)
    (again : Stores t resource) :
    t.row? .metadata resource.resourceId = s.row? .metadata resource.resourceId := by
  obtain ⟨⟨values, version⟩, found, same, versioned⟩ := stores
  obtain ⟨⟨values', version'⟩, found', same', versioned'⟩ := again
  simp only at same versioned same' versioned'
  cases same.trans same'.symm
  cases versioned.symm.trans versioned'
  rw [found, found']

theorem ne_row_of_stores {resource later : StoredResourceV1 X} (stores : Stores s resource)
    (again : Stores t later) (same : later.resourceId = resource.resourceId)
    (different : later ≠ resource) :
    t.row? .metadata resource.resourceId ≠ s.row? .metadata resource.resourceId := by
  obtain ⟨row, found, holds⟩ := stores
  obtain ⟨row', found', holds'⟩ := again
  rw [same] at found'
  rw [found, found']
  intro equal
  cases equal
  exact different (holds'.unique holds)

section

variable {log : PoolLog X ι} {resource : StoredResourceV1 X}

theorem alterations_cons {entry : ι × Event (runtime X) World} {later : StoredResourceV1 X}
    (stores : Stores entry.2.before resource) (again : Stores entry.2.after later)
    (same : later.resourceId = resource.resourceId) :
    alterations (entry :: log) resource.resourceId =
      alterations log resource.resourceId + if later = resource then 0 else 1 := by
  unfold alterations
  rw [List.countP_cons]
  by_cases equal : later = resource
  · subst equal
    simp [row_of_stores stores again]
  · simp [ne_row_of_stores stores again same equal, equal]

/-- The row of a deprecated resource is not altered. -/
theorem alterations_deprecated (traced : Pool.Traced (Changes P) s log t)
    (stores : Stores s resource) (ended : resource.state = .deprecated) :
    alterations log resource.resourceId = 0 := by
  induction log generalizing s with
  | nil => rfl
  | cons entry rest ih =>
    obtain ⟨rfl, change, later⟩ := traced.cons
    obtain ⟨last, again, succeeds⟩ := change.evolves.stored resource stores
    obtain rfl := succeeds.eq_of_deprecated ended
    rw [alterations_cons stores again rfl, ih later again, if_pos rfl]

/-- The row of a resource is altered when it is deprecated, and only then. -/
theorem alterations_stored (traced : Pool.Traced (Changes P) s log t) (stores : Stores s resource) :
    ∃ later, Stores t later ∧ Succeeds resource later ∧
      alterations log resource.resourceId = if later = resource then 0 else 1 := by
  induction log generalizing s with
  | nil =>
    obtain rfl : s = t := traced.linked
    exact ⟨resource, stores, Or.inl rfl, by simp [alterations]⟩
  | cons entry rest ih =>
    obtain ⟨rfl, change, traced⟩ := traced.cons
    obtain ⟨next, again, succeeds⟩ := change.evolves.stored resource stores
    rw [alterations_cons stores again succeeds.resourceId]
    by_cases same : next = resource
    · subst same
      rw [if_pos rfl]
      exact ih traced again
    · rcases succeeds with equal | ⟨record, published, deprecated, renewed⟩
      · exact absurd equal same
      obtain ⟨later, last, follows⟩ := (changes_of_traced traced).evolves.stored next again
      obtain rfl := follows.eq_of_deprecated deprecated
      refine ⟨later, last, Or.inr ⟨record, published, deprecated, renewed⟩, ?_⟩
      rw [← record.resourceId, alterations_deprecated traced again deprecated]
      simp [same]

end

theorem bounded_getResource (resourceId : String) (required : Bool) :
    (StructuredM.lift (getResource X resourceId required) : PyM X _).run.Bounded 1 :=
  Program.Bounded.embed (@bounded_attempt_bind _ _ _ _ 1 0 _ _ (bounded_invoke _) fun _ => trivial)

/-- A deprecation reads, patches and reads again at most. -/
theorem bounded_deprecateWith (require : StoredResourceV1 X → Except PyError Unit)
    (identity : ResourceIdentity) : (deprecateWith require identity).run.Bounded 3 := by
  have reads : (requiredResource X (identity.resourceId X)).run.Bounded (1 + 0) := by
    refine bounded_bind (bounded_getResource _ _) fun found => ?_
    cases found <;> trivial
  have patches : ∀ resource : StoredResourceV1 X, (deprecateResource resource).run.Bounded 1 := by
    intro resource
    unfold deprecateResource
    split
    · trivial
    · exact bounded_invoke _
  change (deprecateWith require identity).run.Bounded (1 + (1 + (1 + 0)))
  refine bounded_bind reads fun resource => bounded_settle_bind fun _ => ?_
  split
  · trivial
  · refine bounded_attempt_bind (patches _) fun result => ?_
    cases result with
    | ok stored => trivial
    | error error =>
      dsimp only
      split
      · refine bounded_bind (bounded_getResource _ _) fun found => ?_
        cases found with
        | none => trivial
        | some winner =>
          dsimp only
          split <;> trivial
      · trivial

section

variable [DecidableEq ι] {first : World} {admits : World → Request X → Prop} {pool : Clients X ι}

/-- What a deprecation of a published resource returns is what its row has come to hold. -/
theorem deprecation_returns (consistent : Consistent X first) {resource last : StoredResourceV1 X}
    (stores : Stores first resource) {identity : ResourceIdentity}
    (named : identity.resourceId X = resource.resourceId)
    (reachable : Pool.Reachable (deployment (reliable X) admits) first pool)
    (current : Stores pool.state last) (succeeds : Succeeds resource last) {i : ι}
    {result : Except PyError (StoredResourceV1 X)}
    (finished : pool.Finished i (.deprecate resource.profile identity) result) :
    result = .ok last ∧ last.state = .deprecated := by
  have ends : DeprecationEnds False (Policy.unrestricted X) first
    (Request.deprecationCheck identity resource.profile) identity (pool.history i) pool.state
    result := (unrestricted_sound consistent reachable).finished finished
  cases result with
  | ok stored =>
    obtain ⟨seen, again, deprecated, -⟩ := ends
    obtain ⟨later, present, follows⟩ := seen.succeeded
    obtain rfl := follows.eq_of_deprecated deprecated
    obtain rfl := present.unique current (succeeds.resourceId.trans (named.symm.trans again.symm))
    exact ⟨rfl, deprecated⟩
  | error error =>
    obtain ⟨-, earlier, began, -, refused⟩ := ends.resolve_left id
    obtain ⟨held, stored, follows⟩ := began.evolves.stored resource stores
    rcases refused with absent | ⟨other, present, again, rejected⟩
    · obtain ⟨row, found, -⟩ := stored
      rw [follows.resourceId, ← named, absent] at found
      cases found
    · obtain rfl := present.unique stored (follows.resourceId.trans (named.symm.trans again.symm))
      have same := follows.same
      have profile : held.profile = resource.profile := by rw [same]
      have checks := @Request.checksProfile_deprecation X identity resource.profile
      rw [(checks.isOk_iff held).mpr profile] at rejected
      cases rejected

/-- Deprecations of one published resource all return it, deprecated by one patch. -/
theorem deprecate_converges (consistent : Consistent X first) {resource : StoredResourceV1 X}
    (stores : Stores first resource) (published : resource.state = .published)
    {identity : ResourceIdentity} (named : identity.resourceId X = resource.resourceId)
    (reachable : Pool.Reachable (deployment (reliable X) admits) first pool) :
    (∀ i program, pool.threads i = some ⟨.deprecate resource.profile identity, program⟩ →
      (pool.history i).length ≤ 3 ∧ ∃ next stored,
        Pool.Steps (deployment (reliable X) admits) pool next ∧
        next.Finished i (.deprecate resource.profile identity) (.ok stored)) ∧
    (∀ i result, pool.Finished i (.deprecate resource.profile identity) result →
      ∃ stored, result = .ok stored ∧ stored.state = .deprecated ∧ SameRecord resource stored ∧
        alterations pool.log resource.resourceId = 1) ∧
    ∀ i j stored stored', pool.Finished i (.deprecate resource.profile identity) (.ok stored) →
      pool.Finished j (.deprecate resource.profile identity) (.ok stored') → stored = stored' := by
  obtain ⟨last, current, succeeds, counted⟩ :=
    alterations_stored ((unrestricted_sound consistent reachable).traced reachable) stores
  have returns : ∀ i result, pool.Finished i (.deprecate resource.profile identity) result →
      result = .ok last ∧ last.state = .deprecated := fun i result finished =>
    deprecation_returns consistent stores named reachable current succeeds finished
  refine ⟨?_, ?_, ?_⟩
  · intro i program selected
    have bounded : ((deployment (reliable X) admits).body
        (.deprecate resource.profile identity)).Bounded 3 := by
      unfold deployment
      dsimp only
      rw [Request.program_deprecate]
      exact bounded_deprecateWith _ _
    -- A lookup, a patch and a second lookup at most.
    obtain ⟨left, -, total⟩ := Pool.bounded_of_reachable reachable i _ program 3 selected bounded
    refine ⟨by omega, ?_⟩
    obtain ⟨next, value, steps, finished⟩ := deployment_finishes reachable selected
    have later := reachable.trans steps
    obtain ⟨last', current', succeeds', -⟩ :=
      alterations_stored ((unrestricted_sound consistent later).traced later) stores
    obtain ⟨rfl, -⟩ :=
      deprecation_returns consistent stores named later current' succeeds' finished
    exact ⟨next, last', steps, finished⟩
  · intro i result finished
    obtain ⟨returned, deprecated⟩ := returns i result finished
    refine ⟨last, returned, deprecated, succeeds.same, ?_⟩
    rw [counted, if_neg]
    rintro rfl
    rw [deprecated] at published
    cases published
  · intro i j stored stored' finished finished'
    cases (returns i _ finished).1
    cases (returns j _ finished').1
    rfl

end

/-- Two clients deprecate the configuration, and both read it before either patches it. -/
def deprecationRace : List (Turn Bool (Request Platform.reference)) :=
  [.start false (.deprecate .configuration Reference.identity),
    .start true (.deprecate .configuration Reference.identity), .run false, .run true, .run false,
    .run true, .run true]

/-- Of two racing deprecations one patches the row, and the other finds it patched. -/
theorem deprecate_converges_race :
    let pool := simulate Platform.reference [] deprecationRace (Reference.holding Reference.resource)
    ∃ stored, pool.Finished false (.deprecate .configuration Reference.identity) (.ok stored) ∧
      pool.Finished true (.deprecate .configuration Reference.identity) (.ok stored) ∧
      alterations pool.log (Reference.identity.resourceId Platform.reference) = 1 := by
  intro pool
  have uniform : IsUniform [] (Reference.holding Reference.resource) := isUniform_empty []
  have reachable : Pool.Reachable (deployment (reliable Platform.reference) anyRequest)
      (Reference.holding Reference.resource) pool := by
    refine simulate_reachable uniform fun request member => ?_
    rcases List.mem_pair.mp member with rfl | rfl <;> trivial
  obtain ⟨-, returns, agree⟩ := deprecate_converges Reference.consistent_holding
    (Reference.stores_holding rfl) rfl (show Reference.identity.resourceId _ = _ from rfl) reachable
  have one : pool.request? false = some (.deprecate .configuration Reference.identity) :=
    simulate_request [.start false (.deprecate .configuration Reference.identity)] _ rfl
  have other : pool.request? true = some (.deprecate .configuration Reference.identity) :=
    simulate_request [.start false (.deprecate .configuration Reference.identity),
      .start true (.deprecate .configuration Reference.identity)] _ rfl
  obtain ⟨stored, finished⟩ := ok_of_returned one (by decide +kernel)
  obtain ⟨stored', finished'⟩ := ok_of_returned other (by decide +kernel)
  obtain rfl := agree _ _ _ _ finished finished'
  obtain ⟨_, _, _, _, altered⟩ := returns _ _ finished
  exact ⟨stored, finished, finished', altered⟩

end ConfigArtifact
